import Conduit.Engine.Copy
import Conduit.Proofs.Engine.EarlyPath
import Conduit.Proofs.Sink.Timing

set_option autoImplicit false

namespace Conduit

namespace Engine

variable {ρ σ : Type} [ReadPeer ρ] [WritePeer σ] {depth : Nat} {engine : Engine} {retries : Nat}
  {counters : CounterSet}

section

variable (counters) {handle : SharedId} {course : Course σ depth} {later : σ} {taken : Nat}

theorem offer_takes (same : course.sink.sink.writer? = some later)
    (success : (WritePeer.feed later (course.world.stores.held handle)).1 = .ok taken)
    (fits : taken ≤ (course.world.stores.held handle).length) :
    let step := offer handle counters course
    step.result = .ok () ∧
      step.after.sink.sink.writer? =
        some (WritePeer.feed later (course.world.stores.held handle)).2 ∧
      step.after.sink.calls =
        course.sink.calls ++ [.feed (course.world.stores.held handle) (.ok taken)] ∧
      step.after.world.stores =
        course.world.stores.refilled handle ((course.world.stores.held handle).drop taken) := by
  obtain ⟨answer, kept, stores⟩ :=
    Sink.feed_writer same (course.world.stores.held handle) course.world
  rw [success] at answer
  have answered : (course.sink.feed (course.world.shared handle).unread course.world).answer =
      .ok taken := answer
  have left : ((course.sink.feed (course.world.shared handle).unread
      course.world).world.shared handle).unread = course.world.stores.held handle :=
    congrArg (fun stores => stores.held handle) stores
  have within : ¬ (course.world.shared handle).unread.length < taken := Nat.not_lt_of_le fits
  simp only [offer, answered, within, if_false, true_and]
  refine ⟨kept, ?_, ?_⟩
  · rw [← answer]
    exact Watched.calls_answered _ _ _
  · refine (World.stores_setShared _ handle _).trans ?_
    rw [World.stores_notice, Buffer.consume]
    exact congrArg₂ (fun stores bytes => Stores.refilled stores handle (bytes.drop taken)) stores
      left

theorem offer_taken (same : course.sink.sink.writer? = some later)
    (success : (offer handle counters course).result = .ok ()) :
    ∃ taken, (WritePeer.feed later (course.world.stores.held handle)).1 = .ok taken ∧
      taken ≤ (course.world.stores.held handle).length := by
  obtain ⟨answer, _, _⟩ := Sink.feed_writer same (course.world.stores.held handle) course.world
  rw [← answer]
  unfold offer at success
  dsimp only at success
  split at success
  · cases success
  · rename_i taken took
    split at success
    · cases success
    · rename_i fits
      exact ⟨taken, took, Nat.le_of_not_lt fits⟩

end

theorem offer_sink (handle : SharedId) (counters : CounterSet) (course : Course σ depth) :
    (offer handle counters course).after.sink =
      (course.sink.feed (course.world.stores.held handle) course.world).after := by
  unfold offer
  dsimp only
  split
  · rfl
  · split <;> rfl

theorem replay_sink (handle : SharedId) (counters : CounterSet) (course : Course σ depth) :
    (replay handle counters course).after.sink =
      ((course.world.shared handle).drain Watched.write [] course.sink course.world).sink := by
  unfold replay
  dsimp only
  split <;> rfl

/-- An offer that is taken in whole may be followed by another one, and one that is not settles the
sink. -/
theorem offer_serving {handle : SharedId} {course : Course σ depth}
    (serving : course.sink.Serving) (pending : course.sink.handshake? = some .buffered)
    (filled : (course.world.shared handle).isEmpty = false)
    (success : (offer handle counters course).result = .ok ()) :
    let after := (offer handle counters course).after
    (after.sink.handshake? = none → after.sink.Settled) ∧
      (if (after.world.shared handle).isEmpty then
        after.sink.handshake?.isSome = true → after.sink.Serving
      else after.sink.Settled) := by
  obtain ⟨first, later, prompt, concludes, same, served⟩ := serving.served
  obtain ⟨taken, took, fits⟩ := offer_taken counters same success
  obtain ⟨_, kept, calls, stores⟩ := offer_takes counters same took fits
  have some : course.world.stores.held handle ≠ [] := List.isEmpty_eq_false_iff.mp filled
  have timely : (offer handle counters course).after.sink.Timely := by
    rw [offer_sink]
    exact serving.timely.answered _ trivial
  rw [Watched.handshake?, Sink.handshake_eq, same] at pending
  have settled (finished : (offer handle counters course).after.sink.handshake? = none) :
      (offer handle counters course).after.sink.Settled := by
    refine ⟨finished, ?_, timely⟩
    intro writer found
    rw [kept] at found
    cases found
    exact fun last bytes reached => concludes last bytes
      (served.reaches.trans ((WritePeer.Reaches.feed _ (.still later)).trans reached))
  have left : ((offer handle counters course).after.world.shared handle).unread =
      (course.world.stores.held handle).drop taken :=
    (congrArg (fun stores => stores.held handle) stores).trans (Stores.held_refilled_same _ _ _)
  refine ⟨settled, ?_⟩
  rw [Buffer.isEmpty, left]
  split
  · rename_i all
    intro still
    rw [List.isEmpty_iff, List.drop_eq_nil_iff] at all
    rw [Nat.le_antisymm fits all] at took
    rw [Watched.handshake?, Sink.handshake_eq, kept] at still
    exact ⟨⟨first, _, prompt, concludes, kept, served.fed pending some took still⟩, timely⟩
  · rename_i more
    rw [List.isEmpty_iff, List.drop_eq_nil_iff] at more
    refine settled ?_
    rw [Watched.handshake?, Sink.handshake_eq, kept]
    exact prompt.fed later _ taken served pending took (Nat.lt_of_not_le more)

/-- The destination is settled wherever data is next, and may be asked for its handshake wherever
that is. -/
def EarlyTimely (state : EarlyState ρ σ depth) : Prop :=
  match state.point with
  | .asking _ => state.course.sink.Settled ∨ state.course.sink.Serving
  | .fetching _ => state.course.sink.Serving ∧ state.course.sink.handshake? = some .buffered
  | .offering _ _ => state.course.sink.Serving ∧ state.course.sink.handshake? = some .buffered
  | .writing _ => state.course.sink.Settled
  | .replaying _ _ => state.course.sink.Settled
  | .finished _ => state.course.sink.Settled
  | .failed _ => state.course.sink.Timely

/-- A destination that still needs a handshake may be asked for it. -/
theorem serving_of_pending {watched : Watched σ depth} {kind : Handshake}
    (either : watched.Settled ∨ watched.Serving) (pending : watched.handshake? = some kind) :
    watched.Serving := by
  rcases either with settled | serving
  · rw [settled.finished] at pending
    cases pending
  · exact serving

/-- A step of the early phase is no early write to a prompt destination. -/
theorem EarlyStep.timely {state next : EarlyState ρ σ depth}
    (step : EarlyStep engine retries counters state next) (timely : EarlyTimely state) :
    EarlyTimely next := by
  cases step with
  | idle finished =>
    rcases timely with settled | serving
    · exact settled
    · exact serving.settled finished
  | greeted pending success =>
    exact (serving_of_pending timely pending).greet pending _ success
  | ungreeted pending => exact (serving_of_pending timely pending).timely.answered _ trivial
  | bare pending => exact ⟨serving_of_pending timely pending, pending⟩
  | stale pending => exact ⟨serving_of_pending timely pending, pending⟩
  | layer pending => exact ⟨serving_of_pending timely pending, pending⟩
  | fetched fetch => exact timely
  | unfetched fetch => exact timely.1.timely
  | @refused handle rest course fault filled failed =>
    show (offer handle counters course).after.sink.Timely
    rw [offer_sink]
    exact timely.1.timely.answered _ trivial
  | took filled success all pending =>
    have serving := (offer_serving timely.1 timely.2 filled success).2
    rw [if_pos all] at serving
    exact .inr (serving pending)
  | sated filled success all finished =>
    exact (offer_serving timely.1 timely.2 filled success).1 finished
  | left filled success some =>
    have settled := (offer_serving timely.1 timely.2 filled success).2
    rw [some, if_neg Bool.false_ne_true] at settled
    exact settled
  | uncached picked => exact timely
  | skipped picked => exact .inl timely
  | cached picked => exact timely
  | @replayed handle rest course filled success =>
    refine .inl ?_
    show (replay handle counters course).after.sink.Settled
    rw [replay_sink]
    exact Watched.drain_keeps (fun _ settled => settled.write) timely [] _ _
  | @unwritten handle rest course fault filled failed =>
    show (replay handle counters course).after.sink.Timely
    rw [replay_sink]
    exact (Watched.drain_keeps (fun _ settled => settled.write) timely [] _ _).timely

section

variable {Kept : Watched σ depth → Prop}
  (keeps : ∀ watched, Kept watched → ∀ bytes world, Kept (watched.write bytes world).after)

include keeps

theorem pump_keeps (rounds : Nat) (buffer : Buffer) (source : Source ρ) (course : Course σ depth)
    (pumped : Pumped ρ σ depth)
    (ended : pump retries counters rounds buffer source course = some pumped)
    (kept : Kept course.sink) : Kept pumped.course.sink := by
  induction rounds generalizing buffer source course with
  | zero => cases ended
  | succ rounds ih =>
    rw [pump] at ended
    split at ended
    · cases ended
    · rename_i filled _
      dsimp only at ended
      split at ended
      · cases ended
        exact kept
      · cases ended
        exact kept
      · have drained := Watched.drain_keeps keeps kept counters.write filled.buffer filled.world
        split at ended
        · cases ended
          exact drained
        · exact ih _ _ _ ended drained

theorem copyPure_keeps (allowance : Allowance) (source : Source ρ) (course : Course σ depth)
    (step : CopyStep σ depth Unit)
    (ended : engine.copyPure allowance counters source course = some step)
    (kept : Kept course.sink) : Kept step.after.sink := by
  have buffered (course : Course σ depth)
      (ended : engine.copyBuffered allowance counters source course = some step)
      (kept : Kept course.sink) : Kept step.after.sink := by
    simp only [copyBuffered, Option.map_eq_some_iff] at ended
    obtain ⟨pumped, pumping, rfl⟩ := ended
    exact pump_keeps keeps _ _ _ _ pumped pumping kept
  unfold copyPure at ended
  split at ended
  · split at ended
    · cases ended
    · dsimp only at ended
      split at ended
      · cases ended
        exact kept
      · cases ended
        exact kept
      · exact buffered _ ended kept
  · exact buffered _ ended kept

/-- The calls of a whole copy: it failed in its early phase, or later writes kept what that phase
left. -/
theorem copyCounted_calls (allowance : Allowance) (sink : Sink σ depth) (source : Source ρ)
    (world : World) {step : CopyStep σ depth (Source ρ)}
    (early : engine.copyEarly allowance.retries counters allowance.rounds source
      ⟨.fresh sink, 0, world⟩ = some step)
    (kept : ∀ middle, step.result = .ok middle → Kept step.after.sink) (outcome : CopyOutcome)
    (ended : engine.copyCounted allowance sink source counters world = some outcome) :
    ((∃ fault, step.result = .error fault) ∧ outcome.calls = step.after.sink.calls) ∨
      ∃ watched, Kept watched ∧ outcome.calls = watched.calls := by
  unfold copyCounted at ended
  rw [early] at ended
  obtain ⟨result, course⟩ := step
  cases result with
  | error fault =>
    cases ended
    exact .inl ⟨⟨fault, rfl⟩, rfl⟩
  | ok middle =>
    dsimp only at ended
    split at ended
    · cases ended
    · rename_i result last bulk
      have later := copyPure_keeps keeps allowance _ _ _ bulk (kept middle rfl)
      split at ended
      · cases ended
        exact .inr ⟨_, later, rfl⟩
      · cases ended
        exact .inr ⟨_, later, rfl⟩

end

/-- A prompt destination gets no early write in any copy. -/
theorem copyCounted_timely (allowance : Allowance) (sink : Sink σ depth) (source : Source ρ)
    (counters : CounterSet) (world : World)
    (concludes : ∀ writer, sink.writer? = some writer → WritePeer.Concludes writer)
    (prompt : ∀ writer, sink.writer? = some writer → WritePeer.Prompt writer)
    (outcome : CopyOutcome)
    (ended : engine.copyCounted allowance sink source counters world = some outcome) :
    ∀ call ∈ outcome.calls, call.Timely := by
  have fresh : (Watched.fresh sink).Timely := fun _ absurd => nomatch absurd
  have start : EarlyTimely (⟨.asking source, .fresh sink, 0, world⟩ : EarlyState ρ σ depth) := by
    cases pending : sink.handshake? with
    | none => exact .inl ⟨pending, concludes, fresh⟩
    | some kind =>
      obtain ⟨writer, same, _⟩ := Sink.writer_of_handshake pending
      exact .inr ⟨⟨writer, writer, prompt writer same, concludes writer same, same, .start⟩, fresh⟩
  cases early : engine.copyEarly allowance.retries counters allowance.rounds source
      ⟨.fresh sink, 0, world⟩ with
  | none =>
    unfold copyCounted at ended
    rw [early] at ended
    cases ended
  | some step =>
    have timely := (copyEarly_path engine allowance.retries counters _ source _ step early).keeps
      (fun _ _ timely taken => taken.timely timely) start
    obtain ⟨result, course⟩ := step
    have settled : ∀ middle, result = .ok middle → course.sink.Settled := by
      rintro middle rfl
      exact timely
    rcases copyCounted_calls (fun _ settled => settled.write) allowance sink source world early
      settled outcome ended with ⟨⟨fault, rfl⟩, same⟩ | ⟨watched, settled, same⟩
    · rw [same]
      exact timely
    · rw [same]
      exact settled.timely

end Engine

end Conduit
