import Conduit.Proofs.Engine.CopyLedger

set_option autoImplicit false

namespace Conduit

namespace Stand

variable {ρ σ : Type} [ReadPeer ρ] [WritePeer σ] {depth : Nat}

/-- A copy delivers this stream: what its destination took, what is ready, and what the live reader
has still to give. -/
structure Delivers (stream : Bytes) (retries : Nat) (stand : Stand ρ σ depth) : Prop where
  sound : stand.Sound
  /-- The live reader gives the rest, with no more interruptions than are sat out. -/
  rest : ∃ tail patience, stand.source.Gives tail patience ∧ patience ≤ retries ∧
    stream = stand.course.sink.calls.flatMap SinkCall.taken ++ (stand.ready ++ tail)
  copied : stand.course.copied = (stand.course.sink.calls.flatMap SinkCall.taken).length

namespace Delivers

variable {stream given gained : Bytes} {retries : Nat} {first last : Stand ρ σ depth}
  {counters : CounterSet}

theorem start {source : Source ρ} {sink : Sink σ depth} {world : World} {tail : Bytes}
    {patience : Nat} (sound : Sound ⟨source, [], .fresh sink, 0, world⟩)
    (gives : source.Gives tail patience) (patient : patience ≤ retries) :
    Delivers (source.stock world.stores ++ tail) retries ⟨source, [], .fresh sink, 0, world⟩ :=
  ⟨sound, ⟨tail, patience, gives, patient, rfl⟩, rfl⟩

theorem copied_le (delivers : first.Delivers stream retries) :
    first.course.copied ≤ stream.length := by
  obtain ⟨tail, patience, _, _, split⟩ := delivers.rest
  rw [delivers.copied, split, List.length_append]
  exact Nat.le_add_right _ _

/-- What moves in a copy stays part of its stream. -/
theorem moves (delivers : first.Delivers stream retries)
    (moves : Moves counters first given gained last) : last.Delivers stream retries := by
  obtain ⟨tail, patience, gives, patient, split⟩ := delivers.rest
  obtain ⟨rest, fewer, more, fits, on⟩ := moves.supply tail patience gives
  obtain ⟨calls, grown, took⟩ := moves.calls
  refine ⟨moves.sound, ⟨rest, fewer, on, Nat.le_trans fits patient, ?_⟩, ?_⟩
  · rw [split, more, ← List.append_assoc first.ready, moves.flow, grown, List.flatMap_append, took]
    simp only [List.append_assoc]
  · rw [moves.copied, delivers.copied, grown, List.flatMap_append, took, List.length_append]

/-- Counting layers make no difference to it. -/
theorem uncounted {source : Source ρ} {transit : Bytes} {course : Course σ depth}
    (delivers : Delivers stream retries ⟨source, transit, course⟩) :
    Delivers stream retries ⟨source.uncounted.1, transit, course⟩ := by
  obtain ⟨tail, patience, gives, patient, split⟩ := delivers.rest
  refine ⟨delivers.sound.uncounted, ⟨tail, patience, ?_, patient, ?_⟩, delivers.copied⟩
  · exact (Source.gives_uncounted source tail patience).mpr gives
  · rw [ready, Source.stock_uncounted]
    exact split

end Delivers

end Stand

/-- The cached layers that are left to be handed out, without the one in hand. -/
def EarlyPoint.layers {ρ : Type} : EarlyPoint ρ → Nat
  | .asking source => source.handles.length
  | .fetching source => source.handles.length
  | .offering _ rest => rest.handles.length
  | .writing source => source.handles.length
  | .replaying _ rest => rest.handles.length
  | .finished source => source.handles.length
  | .failed _ => 0

namespace Engine

variable {ρ σ : Type} [ReadPeer ρ] [WritePeer σ] {depth : Nat} {engine : Engine} {retries : Nat}
  {counters : CounterSet} {stream : Bytes}

open Stand (Moves Sound Delivers)

theorem copied_lt {first last : Stand ρ σ depth} {given gained : Bytes} {handle : SharedId}
    (moves : Moves counters first given gained last)
    (filled : (first.course.world.shared handle).isEmpty = false)
    (order : first.course.world.stores.held handle =
      given ++ last.course.world.stores.held handle)
    (empty : last.course.world.stores.held handle = []) :
    first.course.copied < last.course.copied := by
  rw [empty, List.append_nil] at order
  have some : given ≠ [] := by
    rw [← order]
    exact List.isEmpty_eq_false_iff.mp filled
  have positive := List.length_pos_of_ne_nil some
  rw [moves.copied]
  omega

/-- Unless it fails, a step leaves no more layers than before for the bytes that it copies, and
fewer where it leads back to the question for the handshake. -/
theorem EarlyStep.lighter {state next : EarlyState ρ σ depth}
    (step : EarlyStep engine retries counters state next) {source later : Source ρ}
    (here : state.point.source? = some source) (there : next.point.source? = some later)
    (sound : Sound ⟨source, [], state.course⟩) :
    next.point.layers + state.course.copied ≤ state.point.layers + next.course.copied ∧
      (next.point = .asking later →
        next.point.layers + state.course.copied < state.point.layers + next.course.copied) := by
  cases step with
  | idle => exact ⟨Nat.le_refl _, by rintro ⟨⟩⟩
  | greeted => exact ⟨Nat.le_refl _, by rintro ⟨⟩⟩
  | ungreeted | unfetched | refused | unwritten => cases there
  | bare _ picked =>
    refine ⟨?_, by rintro ⟨⟩⟩
    simp only [EarlyPoint.layers, Source.handles_pick_none picked, Nat.le_refl]
  | stale _ picked =>
    refine ⟨?_, by rintro ⟨⟩⟩
    simp only [EarlyPoint.layers, Source.handles_pick_some picked, List.length_cons, Course.inWorld]
    omega
  | layer _ picked =>
    refine ⟨?_, by rintro ⟨⟩⟩
    simp only [EarlyPoint.layers, Source.handles_pick_some picked, List.length_cons]
    omega
  | fetched fetch =>
    have fewer := (readGreeting_ok fetch).2.1.length_le
    refine ⟨?_, by rintro ⟨⟩⟩
    simp only [EarlyPoint.layers, Course.inWorld]
    omega
  | @took handle rest course filled success all pending =>
    cases here
    obtain ⟨given, moves, order⟩ := offer_moves counters handle rest course sound
    have more := copied_lt moves filled order (List.isEmpty_iff.mp all)
    simp only [EarlyPoint.layers, Course.inWorld] at more ⊢
    exact ⟨by omega, fun _ => by omega⟩
  | @sated handle rest course filled success all finished =>
    cases here
    obtain ⟨given, moves, order⟩ := offer_moves counters handle rest course sound
    have more := copied_lt moves filled order (List.isEmpty_iff.mp all)
    simp only [EarlyPoint.layers, Course.inWorld] at more ⊢
    exact ⟨by omega, fun _ => by omega⟩
  | @left handle rest course filled success some =>
    cases here
    obtain ⟨given, moves, _⟩ := offer_moves counters handle rest course sound
    have copied := moves.copied
    refine ⟨?_, by rintro ⟨⟩⟩
    simp only [EarlyPoint.layers] at copied ⊢
    omega
  | uncached picked =>
    refine ⟨?_, by rintro ⟨⟩⟩
    simp only [EarlyPoint.layers, Source.handles_pick_none picked, Nat.le_refl]
  | skipped picked =>
    simp only [EarlyPoint.layers, Source.handles_pick_some picked, List.length_cons, Course.inWorld]
    exact ⟨by omega, fun _ => by omega⟩
  | cached picked =>
    refine ⟨?_, by rintro ⟨⟩⟩
    simp only [EarlyPoint.layers, Source.handles_pick_some picked, List.length_cons]
    omega
  | @replayed handle rest course filled success =>
    cases here
    obtain ⟨given, moves, order, empty⟩ := replay_moves counters handle rest course sound filled
    have more := copied_lt moves filled order (empty success)
    simp only [EarlyPoint.layers, Course.inWorld] at more ⊢
    exact ⟨by omega, fun _ => by omega⟩

/-- The early phase goes on delivering its stream, and has no more than `bound` bytes and layers
left to deal with. -/
def EarlyGoing (stream : Bytes) (retries bound : Nat) (state : EarlyState ρ σ depth) : Prop :=
  ∀ source, state.point.source? = some source →
    Delivers stream retries ⟨source, [], state.course⟩ ∧
      stream.length + state.point.layers ≤ bound + state.course.copied

theorem EarlyStep.delivers {state next : EarlyState ρ σ depth}
    (step : EarlyStep engine retries counters state next) {source later : Source ρ}
    (here : state.point.source? = some source) (there : next.point.source? = some later)
    (delivers : Delivers stream retries ⟨source, [], state.course⟩) :
    Delivers stream retries ⟨later, [], next.course⟩ := by
  have start : EarlyBalanced counters ⟨source, [], state.course⟩ state := by
    unfold EarlyBalanced
    rw [here]
    exact ⟨[], [], .refl delivers.sound⟩
  have balanced := step.balanced start
  unfold EarlyBalanced at balanced
  rw [there] at balanced
  obtain ⟨given, gained, moves⟩ := balanced
  exact delivers.moves moves

theorem EarlyStep.going {state next : EarlyState ρ σ depth}
    (step : EarlyStep engine retries counters state next) {bound : Nat}
    (going : EarlyGoing stream retries bound state) : EarlyGoing stream retries bound next := by
  obtain ⟨source, here⟩ := step.source
  obtain ⟨delivers, light⟩ := going source here
  intro later there
  have lighter := (step.lighter here there delivers.sound).1
  exact ⟨step.delivers here there delivers, by omega⟩

variable (engine counters)

/-- The early phase comes to an end in fewer rounds than there are bytes and layers left. -/
theorem copyEarly_isSome (rounds : Nat) (source : Source ρ) (course : Course σ depth)
    (delivers : Delivers stream retries ⟨source, [], course⟩)
    (enough : stream.length + source.handles.length < rounds + course.copied) :
    (engine.copyEarly retries counters rounds source course).isSome = true := by
  induction rounds generalizing source course with
  | zero =>
    have fits := delivers.copied_le
    dsimp only at fits
    omega
  | succ rounds ih =>
    have start : EarlyGoing stream retries rounds ⟨.asking source, course⟩ := by
      rintro _ here
      cases here
      refine ⟨delivers, ?_⟩
      simp only [EarlyPoint.layers]
      omega
    have round := copyEarly_round engine retries counters rounds source course
    generalize engine.copyEarly retries counters (rounds + 1) source course = result at round
    cases round with
    | finished => rfl
    | @stuck source course path interrupted =>
      have going := path.keeps (fun _ _ going taken => taken.going going) start
      obtain ⟨tail, patience, gives, patient, _⟩ := (going source rfl).1.rest
      have fetched := readGreeting_isSome engine course.world gives patient
      rw [interrupted] at fetched
      cases fetched
    | @again last source course path next =>
      have going := path.keeps (fun _ _ going taken => taken.going going) start
      obtain ⟨before, here⟩ := next.source
      obtain ⟨delivers, light⟩ := going before here
      have lighter := (next.lighter here rfl delivers.sound).2 rfl
      refine ih source course (next.delivers here rfl delivers) ?_
      change source.handles.length + last.course.copied <
        last.point.layers + course.copied at lighter
      omega

/-- The pump comes to an end in fewer rounds than there are bytes left. -/
theorem pump_isSome (rounds : Nat) (buffer : Buffer) (source : Source ρ) (course : Course σ depth)
    (delivers : Delivers stream retries ⟨source, [], course⟩)
    (enough : stream.length < rounds + course.copied) :
    (pump retries counters rounds buffer source course).isSome = true := by
  induction rounds generalizing buffer source course with
  | zero =>
    have fits := delivers.copied_le
    dsimp only at fits
    omega
  | succ rounds ih =>
    obtain ⟨tail, patience, gives, patient, _⟩ := delivers.rest
    obtain ⟨filled, fill⟩ := Option.isSome_iff_exists.mp
      (Buffer.fillOnce_isSome counters.read buffer.reset course.world gives patient)
    obtain ⟨bytes, gained, after, fetches⟩ := Buffer.fillOnce_fetches rfl fill
    have out := Moves.out counters delivers.sound fetches.draws
    rw [← fetches.world, List.nil_append] at out
    rw [pump, fill]
    dsimp only
    split
    · rfl
    · rfl
    · rename_i less came
      have some : filled.buffer.unread ≠ [] := by
        have count := fetches.ok _ came
        rw [fetches.unread]
        exact fun none => by simp [none] at count
      rw [← fetches.unread] at out
      obtain ⟨given, moves, order, empty, _⟩ := drain_moves counters filled.buffer filled.source
        (course.inWorld filled.world) some out.sound
      split
      · rfl
      · rename_i total drained
        rw [empty total drained] at moves order
        rw [List.append_nil] at order
        have copied := moves.copied
        have positive := List.length_pos_of_ne_nil (order ▸ some)
        refine ih _ _ _ ((delivers.moves out).moves moves) ?_
        dsimp only [Course.inWorld] at copied ⊢
        omega

/-- The bulk of a copy through a buffer comes to an end. -/
theorem copyBuffered_isSome (allowance : Allowance) (source : Source ρ) (course : Course σ depth)
    (delivers : Delivers stream allowance.retries ⟨source, [], course⟩)
    (enough : stream.length < allowance.rounds + course.copied) :
    (engine.copyBuffered allowance counters source course).isSome = true := by
  obtain ⟨_, _, _, unmoved⟩ := engine.buffers.alloc_blank engine.buffers.hugeSize course.world
  have still := Moves.within counters delivers.sound (.still source unmoved)
  simp only [copyBuffered, Allocator.huge, Option.isSome_map]
  exact pump_isSome counters _ _ _ _ (delivers.moves still) enough

/-- A copy that goes through a buffer comes to an end, when the allowance is for more rounds than
there are bytes and layers. -/
theorem copyCounted_isSome (allowance : Allowance) (sink : Sink σ depth) (source : Source ρ)
    (world : World)
    (delivers : Delivers stream allowance.retries ⟨source, [], .fresh sink, 0, world⟩)
    (buffers : engine.spliceEnabled = false ∨ source.far? = none ∨ sink.descriptor? = none)
    (enough : stream.length + source.handles.length < allowance.rounds) :
    (engine.copyCounted allowance sink source counters world).isSome = true := by
  obtain ⟨⟨result, course⟩, early⟩ := Option.isSome_iff_exists.mp
    (copyEarly_isSome engine counters allowance.rounds source _ delivers enough)
  unfold copyCounted
  rw [early]
  cases result with
  | error fault => rfl
  | ok middle =>
    obtain ⟨⟨given, gained, front⟩, pure⟩ :=
      early_moves allowance sink source counters world delivers.sound buffers early
    have late := (delivers.moves front).uncounted
    dsimp only
    rw [pure]
    obtain ⟨step, bulk⟩ := Option.isSome_iff_exists.mp
      (copyBuffered_isSome engine ⟨middle.uncounted.2 ++ counters.read, counters.write⟩ allowance
        middle.uncounted.1 _ late (by omega))
    rw [bulk]
    dsimp only
    split <;> rfl

end Engine

end Conduit
