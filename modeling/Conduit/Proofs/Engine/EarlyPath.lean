import Conduit.Proofs.Engine.EarlySteps
import Conduit.Proofs.Source.Layers
import Conduit.Proofs.Transfer.Fetching

set_option autoImplicit false

namespace Conduit

namespace Engine

variable {ρ σ : Type} [ReadPeer ρ] [WritePeer σ] {depth : Nat} {engine : Engine} {retries : Nat}
  {counters : CounterSet}

theorem readGreeting_ok {source rest : Source ρ} {world after : World} {buffer : Buffer}
    (fetch : engine.readGreeting retries source world = some (.ok buffer, rest, after)) :
    buffer.unread ≠ [] ∧ rest.handles.Sublist source.handles ∧
      ∃ gained, source.Draws world buffer.unread gained rest after := by
  obtain ⟨blank, _, _, unmoved⟩ := engine.buffers.alloc_blank engine.buffers.standardSize world
  simp only [readGreeting, Allocator.standard, Option.map_eq_some_iff] at fetch
  obtain ⟨filled, ended, shape⟩ := fetch
  obtain ⟨bytes, gained, between, fetches⟩ := Buffer.fillOnce_fetches blank ended
  split at shape
  · simp at shape
  · rename_i less came
    cases shape
    have some := fetches.ok _ came
    have still := (Source.Draws.still source unmoved).trans fetches.draws
    rw [fetches.unread, fetches.world, World.count_nil]
    exact ⟨fun none => by simp [none] at some, fetches.handles, _, still⟩
  · simp at shape

/-- A read for a handshake that fails brings nothing. -/
theorem readGreeting_error {source rest : Source ρ} {world after : World} {fault : TransferFault}
    (fetch : engine.readGreeting retries source world = some (.error fault, rest, after)) :
    ∃ gained, source.Draws world [] gained rest after := by
  obtain ⟨blank, _, _, unmoved⟩ := engine.buffers.alloc_blank engine.buffers.standardSize world
  simp only [readGreeting, Allocator.standard, Option.map_eq_some_iff] at fetch
  obtain ⟨filled, ended, shape⟩ := fetch
  obtain ⟨bytes, gained, between, fetches⟩ := Buffer.fillOnce_fetches blank ended
  have drawn := (Source.Draws.still source unmoved).trans fetches.draws
  have world_eq := fetches.world
  rw [World.count_nil] at world_eq
  have dropped := drawn.trans
    (Source.Draws.still filled.source (World.unmoved_dropBuffer between filled.buffer))
  split at shape
  · rename_i none
    cases shape
    have empty : bytes = [] := List.length_eq_zero_iff.mp (fetches.ok _ none).symm
    rw [world_eq]
    simp only [empty] at dropped
    exact ⟨_, dropped⟩
  · simp at shape
  · rename_i cause failed
    cases shape
    rw [world_eq]
    simp only [fetches.failed cause failed] at dropped
    exact ⟨_, dropped⟩

/-- A read for a handshake comes to an end when the live reader is interrupted no more often than is
sat out. -/
theorem readGreeting_isSome (engine : Engine) {source : Source ρ} (world : World) {tail : Bytes}
    {patience : Nat}
    (gives : source.Gives tail patience) (patient : patience ≤ retries) :
    (engine.readGreeting retries source world).isSome = true := by
  rw [readGreeting, Option.isSome_map]
  exact Buffer.fillOnce_isSome [] _ _ gives patient

/-- A read for a handshake fails only because nothing is left, when the live reader has a stream to
give. -/
theorem readGreeting_dry {source rest : Source ρ} {world after : World} {fault : TransferFault}
    {tail : Bytes} {patience : Nat} (room : 0 < engine.buffers.standardSize)
    (gives : source.Gives tail patience)
    (fetch : engine.readGreeting retries source world = some (.error fault, rest, after)) :
    fault = TransferFault.within (.buffer .endOfStream) Stage.handshakeRead ∧
      source.stock world.stores ++ tail = [] := by
  obtain ⟨blank, _, free, unmoved⟩ := engine.buffers.alloc_blank engine.buffers.standardSize world
  simp only [readGreeting, Allocator.standard, Option.map_eq_some_iff] at fetch
  obtain ⟨filled, ended, shape⟩ := fetch
  obtain ⟨bytes, gained, between, fetches⟩ := Buffer.fillOnce_fetches blank ended
  obtain ⟨count, success, dry⟩ := fetches.supplied (by omega) tail patience gives
  cases count with
  | zero =>
    rw [success] at shape
    cases shape
    refine ⟨rfl, ?_⟩
    have none : bytes = [] := List.length_eq_zero_iff.mp (fetches.ok 0 success).symm
    rw [← unmoved.stores, dry rfl, fetches.draws.flow, none, List.nil_append]
    exact (fetches.ended gives.orderly success).1
  | succ less =>
    rw [success] at shape
    cases shape

section

variable (engine retries counters) (course : Course σ depth)

/-- How the search for bytes that a handshake is offered turns out. -/
inductive BytesFound (first : EarlyState ρ σ depth) :
    Option (Except TransferFault SharedId × Source ρ × World) → Prop where
  | stuck {source : Source ρ} {world : World}
    (path : EarlyPath engine retries counters first ⟨.fetching source, course.inWorld world⟩)
    (interrupted : engine.readGreeting retries source world = none) :
    BytesFound first none
  | failed {fault : TransferFault} {rest : Source ρ} {world : World}
    (path : EarlyPath engine retries counters first
      ⟨.failed fault, course.inWorld (rest.drop world)⟩) :
    BytesFound first (some (.error fault, rest, world))
  | found {handle : SharedId} {rest : Source ρ} {world : World}
    (path : EarlyPath engine retries counters first
      ⟨.offering handle rest, course.inWorld world⟩)
    (filled : (world.shared handle).isEmpty = false) :
    BytesFound first (some (.ok handle, rest, world))

/-- How a round with the handshake turns out. -/
inductive HandshakeEnds (first : EarlyState ρ σ depth) :
    Option (CopyStep σ depth (Source ρ × Bool)) → Prop where
  | stuck {source : Source ρ} {course : Course σ depth}
    (path : EarlyPath engine retries counters first ⟨.fetching source, course⟩)
    (interrupted : engine.readGreeting retries source course.world = none) :
    HandshakeEnds first none
  | failed {fault : TransferFault} {course : Course σ depth}
    (path : EarlyPath engine retries counters first ⟨.failed fault, course⟩) :
    HandshakeEnds first (some ⟨.error fault, course⟩)
  | again {last : EarlyState ρ σ depth} {source : Source ρ} {course : Course σ depth}
    (path : EarlyPath engine retries counters first last)
    (next : EarlyStep engine retries counters last ⟨.asking source, course⟩)
    (pending : course.sink.handshake?.isSome = true) :
    HandshakeEnds first (some ⟨.ok (source, true), course⟩)
  | finished {source : Source ρ} {course : Course σ depth} {drained : Bool}
    (path : EarlyPath engine retries counters first ⟨.writing source, course⟩)
    (finished : (drained && course.sink.handshake?.isSome) = false) :
    HandshakeEnds first (some ⟨.ok (source, drained), course⟩)
  | kept {handle : SharedId} {rest : Source ρ} {course : Course σ depth}
    (path : EarlyPath engine retries counters first ⟨.replaying handle rest, course⟩)
    (filled : (course.world.shared handle).isEmpty = false) :
    HandshakeEnds first (some ⟨.ok (.cached (some handle) none rest, false), course⟩)

/-- What a round does after the handshake: it writes one cached buffer out, unless the handshake
wants more first, and goes on as `next` does. -/
def afterHandshake (counters : CounterSet)
    (next : Source ρ → Course σ depth → Option (CopyStep σ depth (Source ρ)))
    (round : CopyStep σ depth (Source ρ × Bool)) : Option (CopyStep σ depth (Source ρ)) :=
  match round with
  | ⟨.error fault, course⟩ => some ⟨.error fault, course⟩
  | ⟨.ok (source, drained), course⟩ =>
    if drained && course.sink.handshake?.isSome then next source course
    else
      let (rest, cached) := source.pick
      match cached with
      | none => some ⟨.ok rest, course⟩
      | some handle =>
        if (course.world.shared handle).isEmpty then
          next rest (course.inWorld (course.world.release handle))
        else
          let step := replay handle counters course
          let course := step.after.inWorld (step.after.world.release handle)
          match step.result with
          | .error fault => some ⟨.error fault, course.inWorld (rest.drop course.world)⟩
          | .ok () => next rest course

/-- How a round goes on after the handshake: it ends the phase, or leads to the next question for
the handshake, whatever comes of that. -/
inductive Onward (first : EarlyState ρ σ depth) (round : CopyStep σ depth (Source ρ × Bool)) :
    Prop where
  | finished (step : CopyStep σ depth (Source ρ))
    (path : EarlyPath engine retries counters first step.ended)
    (same : ∀ next, afterHandshake counters next round = some step)
  | again {last : EarlyState ρ σ depth} {source : Source ρ} {course : Course σ depth}
    (path : EarlyPath engine retries counters first last)
    (next : EarlyStep engine retries counters last ⟨.asking source, course⟩)
    (same : ∀ next, afterHandshake counters next round = next source course)

/-- How a round of the early phase goes on, when `rounds` more rounds are allowed. -/
inductive EarlyRound (rounds : Nat) (first : EarlyState ρ σ depth) :
    Option (CopyStep σ depth (Source ρ)) → Prop where
  | stuck {source : Source ρ} {course : Course σ depth}
    (path : EarlyPath engine retries counters first ⟨.fetching source, course⟩)
    (interrupted : engine.readGreeting retries source course.world = none) :
    EarlyRound rounds first none
  | finished (step : CopyStep σ depth (Source ρ))
    (path : EarlyPath engine retries counters first step.ended) :
    EarlyRound rounds first (some step)
  | again {last : EarlyState ρ σ depth} {source : Source ρ} {course : Course σ depth}
    (path : EarlyPath engine retries counters first last)
    (next : EarlyStep engine retries counters last ⟨.asking source, course⟩) :
    EarlyRound rounds first (engine.copyEarly retries counters rounds source course)

end

variable {first : EarlyState ρ σ depth}

theorem fetching_found (source : Source ρ) (course : Course σ depth) (world : World)
    (path : EarlyPath engine retries counters first ⟨.fetching source, course.inWorld world⟩) :
    BytesFound engine retries counters course first
      ((engine.readGreeting retries source world).map fun (result, rest, world) =>
        match result with
        | .error fault => (.error fault, rest, world)
        | .ok buffer => (.ok (world.share buffer).1, rest, (world.share buffer).2)) := by
  cases fetch : engine.readGreeting retries source world with
  | none => exact .stuck path fetch
  | some fetched =>
    obtain ⟨result, rest, after⟩ := fetched
    cases result with
    | error fault => exact .failed (path.tail (.unfetched fetch))
    | ok buffer =>
      refine .found (path.tail (.fetched fetch)) ?_
      have some := (readGreeting_ok fetch).1
      have held := congrArg (fun stores => stores.held (after.share buffer).1)
        (World.stores_share after buffer)
      have same := held.trans (Stores.held_refilled_same _ _ _)
      simp only [World.stores] at same
      rw [Buffer.isEmpty, same, List.isEmpty_eq_false_iff]
      exact some

variable (engine retries counters)

theorem greetingBytes_found (source : Source ρ) (course : Course σ depth)
    (pending : course.sink.handshake? = some .buffered) :
    BytesFound engine retries counters course ⟨.asking source, course⟩
      (engine.greetingBytes retries source course.world) := by
  unfold greetingBytes
  cases picked : source.pick with
  | mk rest cached =>
    cases cached with
    | none => exact fetching_found rest course course.world (.single (.bare pending picked))
    | some handle =>
      by_cases empty : (course.world.shared handle).isEmpty = true
      · simp only [empty, if_true]
        exact fetching_found rest course _ (.single (.stale pending picked empty))
      · simp only [empty, Bool.false_eq_true, if_false]
        have filled := eq_false_of_ne_true empty
        exact .found (.single (.layer pending picked filled)) filled

theorem feedRound_ends (source : Source ρ) (course : Course σ depth)
    (pending : course.sink.handshake? = some .buffered) :
    HandshakeEnds engine retries counters ⟨.asking source, course⟩
      (engine.feedRound retries source counters course) := by
  have bytes := greetingBytes_found engine retries counters source course pending
  unfold feedRound
  generalize engine.greetingBytes retries source course.world = greeting at bytes
  cases bytes with
  | stuck path interrupted => exact .stuck path interrupted
  | failed path => exact .failed path
  | @found handle rest world path filled =>
    simp only [Option.map_some]
    cases result : (offer handle counters (course.inWorld world)).result with
    | error fault => exact .failed (path.tail (.refused filled result))
    | ok done =>
      by_cases all :
          ((offer handle counters (course.inWorld world)).after.world.shared handle).isEmpty = true
      · simp only [all, if_true]
        cases finished : (offer handle counters (course.inWorld world)).after.sink.handshake? with
        | none =>
          refine .finished (path.tail (.sated filled result all finished)) ?_
          rw [Bool.true_and]
          exact congrArg Option.isSome finished
        | some kind =>
          have still : (offer handle counters
              (course.inWorld world)).after.sink.handshake?.isSome = true := by rw [finished]; rfl
          exact .again path (.took filled result all still) still
      · simp only [all, Bool.false_eq_true, if_false, Source.cache]
        have some := eq_false_of_ne_true all
        exact .kept (path.tail (.left filled result some)) some

theorem handshakeRound_ends (source : Source ρ) (course : Course σ depth) :
    HandshakeEnds engine retries counters ⟨.asking source, course⟩
      (engine.handshakeRound retries source counters course) := by
  unfold handshakeRound
  cases pending : course.sink.handshake? with
  | none => exact .finished (.single (.idle pending)) rfl
  | some kind =>
    cases kind with
    | plain =>
      cases answer : (course.sink.greet course.world).answer with
      | ok done =>
        simp only [answer]
        exact .finished (.single (.greeted pending answer)) rfl
      | error fault =>
        simp only [answer]
        exact .failed (.single (.ungreeted pending answer))
    | buffered => exact feedRound_ends engine retries counters source course pending

theorem copyEarly_succ (rounds : Nat) (source : Source ρ) (course : Course σ depth) :
    engine.copyEarly retries counters (rounds + 1) source course =
      (engine.handshakeRound retries source counters course).bind
        (afterHandshake counters (engine.copyEarly retries counters rounds)) := by
  rw [copyEarly]
  cases engine.handshakeRound retries source counters course with
  | none => rfl
  | some round =>
    obtain ⟨result, course⟩ := round
    cases result <;> rfl

/-- A round with a cached buffer to be written out. -/
theorem replaying_onward {engine : Engine} {retries : Nat} {counters : CounterSet}
    {first : EarlyState ρ σ depth} {source rest : Source ρ} {handle : SharedId}
    {course : Course σ depth} {drained : Bool}
    (path : EarlyPath engine retries counters first ⟨.replaying handle rest, course⟩)
    (finished : (drained && course.sink.handshake?.isSome) = false)
    (picked : source.pick = (rest, some handle))
    (filled : (course.world.shared handle).isEmpty = false) :
    Onward engine retries counters first ⟨.ok (source, drained), course⟩ := by
  cases result : (replay handle counters course).result with
  | error fault =>
    refine .finished ⟨.error fault, _⟩ (path.tail (.unwritten filled result)) fun next => ?_
    simp only [afterHandshake, finished, picked, filled, result, Bool.false_eq_true, if_false]
    rfl
  | ok done =>
    refine .again path (.replayed filled result) fun next => ?_
    simp only [afterHandshake, finished, picked, filled, result, Bool.false_eq_true, if_false]

/-- After the handshake a round goes on along a path of steps. -/
theorem afterHandshake_onward {engine : Engine} {retries : Nat} {counters : CounterSet}
    {first : EarlyState ρ σ depth} {round : CopyStep σ depth (Source ρ × Bool)}
    (ends : HandshakeEnds engine retries counters first (some round)) :
    Onward engine retries counters first round := by
  cases ends with
  | @failed fault course path => exact .finished ⟨.error fault, course⟩ path fun _ => rfl
  | again path step pending =>
    refine .again path step fun next => ?_
    simp only [afterHandshake, pending, Bool.true_and, if_true]
  | @finished source course drained path finished =>
    cases picked : source.pick with
    | mk rest cached =>
      cases cached with
      | none =>
        refine .finished ⟨.ok rest, course⟩ (path.tail (.uncached picked)) fun next => ?_
        simp only [afterHandshake, finished, picked, Bool.false_eq_true, if_false]
      | some handle =>
        by_cases empty : (course.world.shared handle).isEmpty = true
        · refine .again path (.skipped picked empty) fun next => ?_
          simp only [afterHandshake, finished, picked, empty, Bool.false_eq_true, if_false, if_true]
        · have filled := eq_false_of_ne_true empty
          exact replaying_onward (path.tail (.cached picked filled)) finished picked filled
  | kept path filled => exact replaying_onward path (Bool.false_and _) rfl filled

/-- Every round of the early phase is a path of its steps. -/
theorem copyEarly_round (rounds : Nat) (source : Source ρ) (course : Course σ depth) :
    EarlyRound engine retries counters rounds ⟨.asking source, course⟩
      (engine.copyEarly retries counters (rounds + 1) source course) := by
  have ends := handshakeRound_ends engine retries counters source course
  rw [copyEarly_succ]
  cases shape : engine.handshakeRound retries source counters course with
  | none =>
    rw [shape] at ends
    cases ends with
    | stuck path interrupted => exact .stuck path interrupted
  | some round =>
    rw [shape] at ends
    rw [Option.bind_some]
    cases afterHandshake_onward ends with
    | finished step path same =>
      rw [same]
      exact .finished step path
    | again path next same =>
      rw [same]
      exact .again path next

/-- The early phase ends where a path of its steps ends. -/
theorem copyEarly_path (rounds : Nat) (source : Source ρ) (course : Course σ depth)
    (step : CopyStep σ depth (Source ρ))
    (ended : engine.copyEarly retries counters rounds source course = some step) :
    EarlyPath engine retries counters ⟨.asking source, course⟩ step.ended := by
  induction rounds generalizing source course with
  | zero => cases ended
  | succ rounds ih =>
    have round := copyEarly_round engine retries counters rounds source course
    rw [ended] at round
    generalize result : some step = outcome at round
    cases round with
    | stuck => cases result
    | finished step path =>
      cases result
      exact path
    | again path next => exact (path.tail next).trans (ih _ _ result.symm)

end Engine

end Conduit
