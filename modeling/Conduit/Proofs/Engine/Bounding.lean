import Conduit.Proofs.Engine.Finishing
import Conduit.Proofs.Rehearsal.Sample
import Conduit.Proofs.Sink.Timing
import Conduit.Proofs.Transfer.Steady

set_option autoImplicit false

/- The early phase of a copy ends whatever its destination does. What a handshake leaves is put back
as one more layer, so that layers need not get fewer; but a round that leads to another one takes a
byte out of what the source delivers, or a layer off it. Nothing is asked of the destination: its
handshake may stay pending, its writes may claim more than they are offered, stall or fail. -/
namespace Conduit

namespace Watched

variable {α σ : Type} [WritePeer σ] {depth : Nat} {watched : Watched σ depth}

def Live (watched : Watched σ depth) : Prop := watched.sink.writer?.isSome = true

/-- A call of a live writer changes nothing in the world but the journal. -/
structure Noted (world : World) (called : Called (Watched σ depth) α) : Prop where
  live : called.after.Live
  journal : ∃ journal, called.world = { world with journal }

theorem Live.greet (live : watched.Live) (world : World) : Noted world (watched.greet world) := by
  obtain ⟨sink, latestFirst⟩ := watched
  cases sink with
  | peer writer => exact ⟨rfl, _, rfl⟩
  | descriptor | shared | counted | plain | staged => cases live

theorem Live.feed (live : watched.Live) (bytes : Bytes) (world : World) :
    Noted world (watched.feed bytes world) := by
  obtain ⟨sink, latestFirst⟩ := watched
  cases sink with
  | peer writer => exact ⟨rfl, _, rfl⟩
  | descriptor | shared | counted | plain | staged => cases live

theorem Live.write (live : watched.Live) (bytes : Bytes) (world : World) :
    Noted world (watched.write bytes world) := by
  obtain ⟨sink, latestFirst⟩ := watched
  cases sink with
  | peer writer => exact ⟨rfl, _, rfl⟩
  | descriptor | shared | counted | plain | staged => cases live

theorem Live.drain (live : watched.Live) (counters : List Counter) (buffer : Buffer)
    (world : World) (some : buffer.unread ≠ []) :
    let drained := buffer.drain Watched.write counters watched world
    drained.sink.Live ∧ ∃ journal, drained.world = { world with journal } := by
  have rule : Buffer.DrainRule Watched.write counters fun _ _ _ (later : Watched σ depth) after =>
      later.Live ∧ ∃ journal, after = { world with journal } := by
    apply Buffer.DrainRule.steady
    · rintro left reported later after taken ⟨still, journal, rfl⟩ _ _
      obtain ⟨again, further, same⟩ := still.write left { world with journal }
      refine ⟨again, further.count counters taken, ?_⟩
      rw [same]
      rfl
    · rintro left reported later after fault ⟨still, journal, rfl⟩ _ _
      obtain ⟨again, further, same⟩ := still.write left { world with journal }
      exact ⟨again, further, same⟩
  obtain ⟨_, holds⟩ := (rule.drain buffer watched world some ⟨live, world.journal, rfl⟩).holds
  exact holds

end Watched

/-- One round leads to the next where the phase asks for its handshake. -/
def EarlyPoint.asks {ρ : Type} : EarlyPoint ρ → Nat
  | .asking _ => 1
  | _ => 0

namespace Engine

variable {ρ σ : Type} [ReadPeer ρ] [WritePeer σ] {depth : Nat} {engine : Engine} {retries : Nat}
  {counters : CounterSet} {source rest : Source ρ} {course : Course σ depth} {bytes : Nat}

theorem readGreeting_steady (engine : Engine) {world : World} {most : Nat}
    (ends : source.Ends world.kernel most) :
    Steady fun retries => engine.readGreeting retries source world := by
  have on := (world.elsewhere_alloc engine.buffers engine.buffers.standardSize).continues
  exact (Buffer.fillOnce_steady [] _ (ends.continues on)).map _

theorem readGreeting_finite {world after : World} {buffer : Buffer}
    (finite : source.Finite world bytes)
    (fetch : engine.readGreeting retries source world = some (.ok buffer, rest, after)) :
    ∃ left, buffer.unread.length + left ≤ bytes ∧ rest.Finite after left := by
  obtain ⟨blank, _, _, unmoved⟩ := engine.buffers.alloc_blank engine.buffers.standardSize world
  have on := (world.elsewhere_alloc engine.buffers engine.buffers.standardSize).continues
  simp only [readGreeting, Allocator.standard, Option.map_eq_some_iff] at fetch
  obtain ⟨filled, ended, shape⟩ := fetch
  have fills := Buffer.fillOnce_finite blank (finite.still unmoved.stores on) ended
  split at shape
  · simp at shape
  · cases shape
    exact fills
  · simp at shape

theorem greetingBytes_steady (engine : Engine) {world : World} {most : Nat}
    (ends : source.Ends world.kernel most) :
    Steady fun retries => engine.greetingBytes retries source world := by
  have beneath := ends.pick
  unfold greetingBytes
  cases picked : source.pick with
  | mk rest cached =>
    rw [picked] at beneath
    cases cached with
    | none => exact (readGreeting_steady engine beneath).map _
    | some handle =>
      by_cases empty : (world.shared handle).isEmpty = true
      · simp only [empty, if_true]
        have again : rest.Ends (world.release handle).kernel most :=
          Source.Ends.continues beneath (world.elsewhere_release handle).continues
        exact (readGreeting_steady engine again).map _
      · simp only [empty, Bool.false_eq_true, if_false]
        exact .always _

/-- A round with the handshake ends when the source answers at last. -/
theorem handshakeRound_steady (engine : Engine) (counters : CounterSet) (course : Course σ depth)
    (finite : source.Finite course.world bytes) :
    Steady fun retries => engine.handshakeRound retries source counters course := by
  obtain ⟨most, ends, _⟩ := finite
  unfold handshakeRound
  cases course.sink.handshake? with
  | none => exact .always _
  | some kind =>
    cases kind with
    | plain =>
      cases answer : (course.sink.greet course.world).answer with
      | ok done =>
        simp only [answer]
        exact .always _
      | error fault =>
        simp only [answer]
        exact .always _
    | buffered => exact (greetingBytes_steady engine ends).map _

/-- What a handshake takes of a layer counts against what the source delivers. -/
theorem offer_finite (counters : CounterSet) {handle : SharedId} (live : course.sink.Live)
    (finite : (Source.cached (some handle) none rest).Finite course.world bytes) :
    let step := offer handle counters course
    step.after.sink.Live ∧ (step.result = .ok () → ∃ taken left,
      course.world.stores.held handle = taken ++ step.after.world.stores.held handle ∧
        left + taken.length ≤ bytes ∧
        (Source.cached (some handle) none rest).Finite step.after.world left) := by
  obtain ⟨still, journal, same⟩ := live.feed (course.world.shared handle).unread course.world
  unfold offer
  cases answer : (course.sink.feed (course.world.shared handle).unread course.world).answer with
  | error fault =>
    simp only [answer]
    exact ⟨still, fun absurd => nomatch absurd⟩
  | ok consumed =>
    by_cases greedy : (course.world.shared handle).unread.length < consumed
    · simp only [answer, greedy, if_true]
      exact ⟨still, fun absurd => nomatch absurd⟩
    · simp only [answer, greedy, if_false, same]
      refine ⟨still, fun _ => ?_⟩
      have order : (course.world.shared handle).unread =
          (course.world.shared handle).unread.take consumed ++
            ((course.world.shared handle).consume consumed).unread :=
        (List.take_append_drop consumed _).symm
      obtain ⟨left, fits, on⟩ := Source.Finite.consume _ (finite.noted _) order
      refine ⟨_, left, ?_, fits, on.noted _⟩
      exact order.trans (congrArg _ (World.held_setShared _ handle _).symm)

/-- A handshake that takes all of a layer takes some bytes. -/
theorem offer_emptied (counters : CounterSet) {handle : SharedId} (live : course.sink.Live)
    (finite : (Source.cached (some handle) none rest).Finite course.world bytes)
    (filled : (course.world.shared handle).isEmpty = false)
    (success : (offer handle counters course).result = .ok ())
    (all : ((offer handle counters course).after.world.shared handle).isEmpty = true) :
    ∃ left, left < bytes ∧
      rest.Finite ((offer handle counters course).after.world.release handle) left := by
  obtain ⟨taken, left, order, fits, on⟩ := (offer_finite counters live finite).2 success
  have empty : (offer handle counters course).after.world.stores.held handle = [] :=
    List.isEmpty_iff.mp all
  have positive : 0 < (course.world.stores.held handle).length :=
    List.length_pos_of_ne_nil (List.isEmpty_eq_false_iff.mp filled)
  rw [order, empty, List.append_nil] at positive
  exact ⟨left, by omega, on.release empty⟩

/-- A layer that is written out to the end counts against what the source delivers. -/
theorem replay_finite (counters : CounterSet) {handle : SharedId} (live : course.sink.Live)
    (finite : (Source.cached (some handle) none rest).Finite course.world bytes)
    (filled : (course.world.shared handle).isEmpty = false) :
    let step := replay handle counters course
    step.after.sink.Live ∧ (step.result = .ok () →
      step.after.world.stores.held handle = [] ∧ ∃ left, left < bytes ∧
        (Source.cached (some handle) none rest).Finite step.after.world left) := by
  have some : (course.world.shared handle).unread ≠ [] := List.isEmpty_eq_false_iff.mp filled
  obtain ⟨still, journal, same⟩ := live.drain [] (course.world.shared handle) course.world some
  unfold replay
  cases result : ((course.world.shared handle).drain Watched.write [] course.sink
      course.world).result with
  | error fault =>
    simp only [result]
    exact ⟨still, fun absurd => nomatch absurd⟩
  | ok total =>
    simp only [result, same]
    refine ⟨still, fun _ => ?_⟩
    have none := Buffer.drain_ok_unread result
    generalize (course.world.shared handle).drain Watched.write [] course.sink course.world =
      drained at none
    have order : (course.world.shared handle).unread =
        (course.world.shared handle).unread ++ drained.buffer.unread := by
      rw [none, List.append_nil]
    obtain ⟨left, fits, on⟩ := Source.Finite.consume _ (finite.noted journal) order
    have positive := List.length_pos_of_ne_nil some
    exact ⟨(World.held_setShared _ handle _).trans none, left, by omega, on.noted _⟩

/-- Writing a layer out makes no destination a live writer. -/
theorem replay_dumb (counters : CounterSet) {handle : SharedId}
    (dumb : course.sink.sink.writer? = none) :
    (replay handle counters course).after.sink.sink.writer? = none := by
  have still : ∀ watched : Watched σ depth, watched.sink.writer? = none → ∀ bytes world,
      (watched.write bytes world).after.sink.writer? = none := by
    intro watched none bytes world
    exact (watched.sink.write_writer bytes world).trans (by rw [none, Option.map_none])
  have drained := Watched.drain_keeps still dumb [] (course.world.shared handle) course.world
  unfold replay
  dsimp only
  split <;> exact drained

/-- With a live writer no step lets the bytes and layers that are left become more, and one that
leads to the next round takes one of them. -/
theorem EarlyStep.nears {state next : EarlyState ρ σ depth} {source later : Source ρ}
    (step : EarlyStep engine retries counters state next)
    (here : state.point.source? = some source) (there : next.point.source? = some later)
    (live : state.course.sink.Live) (finite : source.Finite state.course.world bytes) :
    next.course.sink.Live ∧ ∃ left, later.Finite next.course.world left ∧
      left + next.point.layers + next.point.asks ≤ bytes + state.point.layers := by
  cases step with
  | idle =>
    cases here
    cases there
    exact ⟨live, bytes, finite, Nat.le_refl _⟩
  | @greeted source course pending success =>
    cases here
    cases there
    obtain ⟨still, journal, same⟩ := live.greet course.world
    refine ⟨still, bytes, ?_, Nat.le_refl _⟩
    simp only [Course.greeted, same]
    exact finite.noted journal
  | ungreeted | unfetched | refused | unwritten => cases there
  | bare _ picked =>
    cases here
    cases there
    refine ⟨live, bytes, finite.pick picked, ?_⟩
    simp only [EarlyPoint.layers, EarlyPoint.asks, Source.handles_pick_none picked]
    omega
  | stale _ picked empty =>
    cases here
    cases there
    refine ⟨live, bytes, (finite.pick picked).release (List.isEmpty_iff.mp empty), ?_⟩
    simp only [EarlyPoint.layers, EarlyPoint.asks, Source.handles_pick_some picked,
      List.length_cons]
    omega
  | layer _ picked =>
    cases here
    cases there
    refine ⟨live, bytes, finite.pick picked, ?_⟩
    simp only [EarlyPoint.layers, EarlyPoint.asks, Source.handles_pick_some picked,
      List.length_cons]
    omega
  | @fetched _ _ _ buffer _ fetch =>
    cases here
    cases there
    -- The bytes were to be delivered before and are in stock now; the layer they lie in is the one
    -- in hand, which does not count.
    obtain ⟨left, fits, on⟩ := readGreeting_finite finite fetch
    have fewer := (readGreeting_ok fetch).2.1.length_le
    refine ⟨live, _, on.share buffer, ?_⟩
    simp only [EarlyPoint.layers, EarlyPoint.asks]
    omega
  | took filled success all _ =>
    cases here
    cases there
    obtain ⟨left, fits, on⟩ := offer_emptied counters live finite filled success all
    refine ⟨(offer_finite counters live finite).1, left, on, ?_⟩
    simp only [EarlyPoint.layers, EarlyPoint.asks]
    omega
  | sated filled success all _ =>
    cases here
    cases there
    obtain ⟨left, fits, on⟩ := offer_emptied counters live finite filled success all
    refine ⟨(offer_finite counters live finite).1, left, on, ?_⟩
    simp only [EarlyPoint.layers, EarlyPoint.asks]
    omega
  | left filled success some =>
    cases here
    cases there
    obtain ⟨still, ready⟩ := offer_finite counters live finite
    obtain ⟨taken, left, _, fits, on⟩ := ready success
    refine ⟨still, left, on, ?_⟩
    simp only [EarlyPoint.layers, EarlyPoint.asks]
    omega
  | uncached picked =>
    cases here
    cases there
    refine ⟨live, bytes, finite.pick picked, ?_⟩
    simp only [EarlyPoint.layers, EarlyPoint.asks, Source.handles_pick_none picked]
    omega
  | skipped picked empty =>
    cases here
    cases there
    refine ⟨live, bytes, (finite.pick picked).release (List.isEmpty_iff.mp empty), ?_⟩
    simp only [EarlyPoint.layers, EarlyPoint.asks, Source.handles_pick_some picked,
      List.length_cons]
    omega
  | cached picked =>
    cases here
    cases there
    refine ⟨live, bytes, finite.pick picked, ?_⟩
    simp only [EarlyPoint.layers, EarlyPoint.asks, Source.handles_pick_some picked,
      List.length_cons]
    omega
  | replayed filled success =>
    cases here
    cases there
    obtain ⟨still, ready⟩ := replay_finite counters live finite filled
    obtain ⟨empty, left, fits, on⟩ := ready success
    refine ⟨still, left, on.release empty, ?_⟩
    simp only [EarlyPoint.layers, EarlyPoint.asks]
    omega

/-- The destination is a live writer, and no more than so many bytes and layers are left. -/
def EarlyNear (bound : Nat) (state : EarlyState ρ σ depth) : Prop :=
  ∀ source, state.point.source? = some source → state.course.sink.Live ∧
    ∃ bytes, source.Finite state.course.world bytes ∧ bytes + state.point.layers ≤ bound

theorem EarlyStep.near {state next : EarlyState ρ σ depth} {bound : Nat}
    (step : EarlyStep engine retries counters state next) (near : EarlyNear bound state) :
    EarlyNear bound next := by
  intro later there
  obtain ⟨source, here⟩ := step.source
  obtain ⟨live, bytes, finite, fits⟩ := near source here
  obtain ⟨still, left, on, fewer⟩ := step.nears here there live finite
  exact ⟨still, left, on, by omega⟩

variable (engine counters)

/-- With a live writer the early phase ends in fewer rounds than there are bytes and layers. -/
theorem copyEarly_live (rounds : Nat) (source : Source ρ) (course : Course σ depth) {bytes : Nat}
    (live : course.sink.Live) (finite : source.Finite course.world bytes)
    (enough : bytes + source.handles.length < rounds) :
    Steady fun retries => engine.copyEarly retries counters rounds source course := by
  induction rounds generalizing source course bytes with
  | zero => omega
  | succ rounds ih =>
    simp only [copyEarly_succ]
    apply (handshakeRound_steady engine counters course finite).bind
    intro retries round ended
    -- What the round leads to does not depend on the number of interruptions sat out, so a path of
    -- steps for one of these numbers tells where the next round starts for all larger ones.
    have start : EarlyNear rounds ⟨.asking source, course⟩ := by
      rintro _ here
      cases here
      refine ⟨live, bytes, finite, ?_⟩
      simp only [EarlyPoint.layers]
      omega
    have ends := handshakeRound_ends engine retries counters source course
    rw [ended] at ends
    cases afterHandshake_onward ends with
    | finished step path same =>
      simp only [same]
      exact .always step
    | @again last source course path next same =>
      simp only [same]
      have near := path.keeps (fun _ _ near taken => taken.near near) start
      obtain ⟨before, here⟩ := next.source
      obtain ⟨live, bytes, finite, fits⟩ := near before here
      obtain ⟨still, left, on, fewer⟩ := next.nears here rfl live finite
      apply ih _ _ still on
      change left + source.handles.length + 1 ≤ _ at fewer
      omega

/-- Without a live writer there is no handshake, and each round takes a layer off. -/
theorem copyEarly_dumb (rounds : Nat) (source : Source ρ) (course : Course σ depth)
    (dumb : course.sink.sink.writer? = none) (enough : source.handles.length < rounds) :
    Steady fun retries => engine.copyEarly retries counters rounds source course := by
  induction rounds generalizing source course with
  | zero => omega
  | succ rounds ih =>
    have finished : course.sink.handshake? = none := by
      rw [Watched.handshake?, Sink.handshake_eq, dumb, Option.bind_none]
    simp only [copyEarly_succ, handshakeRound, finished, Option.bind_some, afterHandshake,
      Bool.false_and, Bool.false_eq_true, if_false]
    cases picked : source.pick with
    | mk rest cached =>
      cases cached with
      | none => exact .always _
      | some handle =>
        have fewer : rest.handles.length < rounds := by
          rw [Source.handles_pick_some picked, List.length_cons] at enough
          omega
        by_cases empty : (course.world.shared handle).isEmpty = true
        · simp only [empty, if_true]
          exact ih _ _ dumb fewer
        · simp only [empty, Bool.false_eq_true, if_false]
          cases result : (replay handle counters course).result with
          | error fault => exact .always _
          | ok done => exact ih _ _ (replay_dumb counters dumb) fewer

/-- The early phase ends, with whatever result, for every source that delivers no more than so many
bytes and does not stay interrupted, and every destination: it takes no more rounds than one for
each of these bytes, one for each layer, and a last one. -/
theorem copyEarly_ends (source : Source ρ) (course : Course σ depth) (bytes : Nat)
    (finite : source.Finite course.world bytes) :
    Steady fun retries =>
      engine.copyEarly retries counters (bytes + source.handles.length + 1) source course := by
  cases same : course.sink.sink.writer? with
  | none => exact copyEarly_dumb engine counters _ source course same (by omega)
  | some writer =>
    have live : course.sink.Live := by
      rw [Watched.Live, same]
      rfl
    exact copyEarly_live engine counters _ source course live finite (Nat.lt_succ_self _)

/-- The handshake of the destination takes two of the first three bytes, and then one more. -/
theorem copyEarly_ends_sample :
    Sample.source.Finite Sample.world 6 ∧ Steady fun retries =>
      Sample.engine.copyEarly retries ⟨[], []⟩ 8 Sample.source
        ⟨.fresh (.peer Sample.reluctant), 0, Sample.world⟩ := by
  have finite : Sample.source.Finite Sample.world 6 := ⟨3, Sample.source_gives.ends _, by decide⟩
  exact ⟨finite, copyEarly_ends Sample.engine ⟨[], []⟩ Sample.source _ 6 finite⟩

end Engine

end Conduit
