import Conduit.Proofs.Engine.Finishing
import Conduit.Proofs.Rehearsal.Sample

set_option autoImplicit false

namespace Conduit

/-- At this point of the early phase a handshake may still want so many bytes. -/
def EarlyPoint.Wants {ρ : Type} (left : Nat) : EarlyPoint ρ → Prop
  | .asking _ => True
  | .fetching _ => 0 < left
  | .offering _ _ => 0 < left
  | .writing _ => left = 0
  | .replaying _ _ => left = 0
  | .finished _ => left = 0
  | .failed _ => 0 < left

/-- The fault of a copy whose source ends before the handshake is over. -/
def greetingCut : TransferFault := TransferFault.within (.buffer .endOfStream) Stage.handshakeRead

namespace Engine

variable {ρ σ : Type} [ReadPeer ρ] [WritePeer σ] {engine : Engine} {retries : Nat}
  {counters : CounterSet} {stream : Bytes} {wants : Nat}

open Stand (Moves Sound Delivers)

/-- A handshake for `wants` bytes is as far as the early phase, which fails only when it gave the
handshake the whole stream. -/
def EarlyGreeted (stream : Bytes) (wants : Nat) (state : EarlyState ρ σ 0) : Prop :=
  (∃ left slack, state.course.sink.Greeted wants left slack ∧ state.point.Wants left) ∧
    ∀ fault, state.point = .failed fault → fault = greetingCut ∧
      state.course.sink.calls.flatMap SinkCall.taken = stream ∧
      state.course.copied = stream.length

theorem offer_greeted (counters : CounterSet) {handle : SharedId} {course : Course σ 0}
    {left slack : Nat}
    (greeted : course.sink.Greeted wants left slack) (pending : 0 < left)
    (filled : (course.world.shared handle).isEmpty = false) :
    let step := offer handle counters course
    step.result = .ok () ∧
      step.after.copied = course.copied + min left (course.world.stores.held handle).length ∧
      ∃ more, step.after.sink.Greeted wants
        (left - (course.world.stores.held handle).length) more := by
  obtain ⟨answer, more, on⟩ := greeted.feed pending (List.isEmpty_eq_false_iff.mp filled)
    course.world
  have least := Nat.min_le_right left (course.world.shared handle).unread.length
  simp only [offer, answer, Nat.not_lt_of_le least, if_false, true_and]
  exact ⟨rfl, more, on⟩

/-- Writing a cached buffer out after such a handshake. -/
theorem replay_greeted (counters : CounterSet) {handle : SharedId} {course : Course σ 0}
    {slack : Nat}
    (greeted : course.sink.Greeted wants 0 slack)
    (filled : (course.world.shared handle).isEmpty = false) :
    let step := replay handle counters course
    step.result = .ok () ∧ ∃ more, step.after.sink.Greeted wants 0 more := by
  obtain ⟨⟨total, success⟩, more, on⟩ := greeted.drain [] (course.world.shared handle) course.world
    (List.isEmpty_eq_false_iff.mp filled)
  simp only [replay, success, true_and]
  exact ⟨more, on⟩

theorem eq_zero_of_left {handle : SharedId} {rest : Source ρ} {course : Course σ 0}
    {left slack : Nat}
    (sound : Sound ⟨.cached (some handle) none rest, [], course⟩)
    (greeted : course.sink.Greeted wants left slack) (pending : 0 < left)
    (filled : (course.world.shared handle).isEmpty = false)
    (some : ((offer handle counters course).after.world.shared handle).isEmpty = false) :
    left - (course.world.stores.held handle).length = 0 := by
  obtain ⟨given, moves, order⟩ := offer_moves counters handle rest course sound
  obtain ⟨_, copied, _⟩ := offer_greeted counters greeted pending filled
  have positive := List.length_pos_of_ne_nil (List.isEmpty_eq_false_iff.mp some)
  have recopied := moves.copied
  have lengths := congrArg List.length order
  rw [List.length_append] at lengths
  dsimp only [World.stores] at lengths copied recopied positive ⊢
  omega

/-- A step of the early phase gets the handshake no more than it wants. -/
theorem EarlyStep.greetedOn {state next : EarlyState ρ σ 0}
    (step : EarlyStep engine retries counters state next) {bound : Nat}
    (room : 0 < engine.buffers.standardSize) (going : EarlyGoing stream retries bound state)
    (greeted : EarlyGreeted stream wants state) : EarlyGreeted stream wants next := by
  obtain ⟨⟨left, slack, on, fits⟩, _⟩ := greeted
  cases step with
  | idle finished => exact ⟨⟨left, slack, on, on.eq_zero finished⟩, by simp⟩
  | greeted pending => cases (on.pos pending).1
  | ungreeted pending => cases (on.pos pending).1
  | bare pending picked => exact ⟨⟨left, slack, on, (on.pos pending).2⟩, by simp⟩
  | stale pending picked => exact ⟨⟨left, slack, on, (on.pos pending).2⟩, by simp⟩
  | layer pending picked => exact ⟨⟨left, slack, on, (on.pos pending).2⟩, by simp⟩
  | fetched fetch => exact ⟨⟨left, slack, on, fits⟩, by simp⟩
  | @unfetched source rest course fault world fetch =>
    obtain ⟨delivers, _⟩ := going source rfl
    obtain ⟨tail, patience, gives, _, split⟩ := delivers.rest
    obtain ⟨cut, none⟩ := readGreeting_dry room gives fetch
    have all : course.sink.calls.flatMap SinkCall.taken = stream := by
      rw [split, Stand.ready, List.nil_append, none, List.append_nil]
    refine ⟨⟨left, slack, on, fits⟩, ?_⟩
    rintro _ same
    cases same
    exact ⟨cut, all, delivers.copied.trans (congrArg _ all)⟩
  | refused filled failed =>
    rw [(offer_greeted counters on fits filled).1] at failed
    cases failed
  | took filled success all pending =>
    obtain ⟨_, _, more, later⟩ := offer_greeted counters on fits filled
    exact ⟨⟨_, more, later, trivial⟩, by simp⟩
  | sated filled success all finished =>
    obtain ⟨_, _, more, later⟩ := offer_greeted counters on fits filled
    exact ⟨⟨_, more, later, later.eq_zero finished⟩, by simp⟩
  | left filled success some =>
    obtain ⟨_, _, more, later⟩ := offer_greeted counters on fits filled
    exact ⟨⟨_, more, later, eq_zero_of_left (going _ rfl).1.sound on fits filled some⟩, by simp⟩
  | uncached picked => exact ⟨⟨left, slack, on, fits⟩, by simp⟩
  | skipped picked => exact ⟨⟨left, slack, on, trivial⟩, by simp⟩
  | cached picked => exact ⟨⟨left, slack, on, fits⟩, by simp⟩
  | replayed filled success =>
    cases fits
    obtain ⟨_, more, later⟩ := replay_greeted counters on filled
    exact ⟨⟨0, more, later, trivial⟩, by simp⟩
  | unwritten filled failed =>
    cases fits
    rw [(replay_greeted counters on filled).1] at failed
    cases failed

/-- The handshake gets no more than it wants all through the early phase. -/
theorem EarlyPath.greetedOn {first last : EarlyState ρ σ 0}
    (path : EarlyPath engine retries counters first last) {bound : Nat}
    (room : 0 < engine.buffers.standardSize) (going : EarlyGoing stream retries bound first)
    (greeted : EarlyGreeted stream wants first) :
    EarlyGoing stream retries bound last ∧ EarlyGreeted stream wants last := by
  induction path with
  | refl => exact ⟨going, greeted⟩
  | tail _ taken ih => exact ⟨taken.going ih.1, taken.greetedOn room ih.1 ih.2⟩

/-- The pump gives such a destination, once the handshake is over, all that is left. -/
theorem pump_greeted (counters : CounterSet) (rounds : Nat) (buffer : Buffer) (source : Source ρ)
    (course : Course σ 0) {slack : Nat} (room : 0 < buffer.size)
    (delivers : Delivers stream retries ⟨source, [], course⟩)
    (greeted : course.sink.Greeted wants 0 slack) (pumped : Pumped ρ σ 0)
    (ended : pump retries counters rounds buffer source course = some pumped) :
    pumped.result = .ok () ∧ (∃ more, pumped.course.sink.Greeted wants 0 more) ∧
      pumped.course.sink.calls.flatMap SinkCall.taken = stream ∧
      pumped.course.copied = stream.length := by
  induction rounds generalizing buffer source course slack with
  | zero => cases ended
  | succ rounds ih =>
    obtain ⟨tail, patience, gives, patient, split⟩ := delivers.rest
    rw [pump] at ended
    split at ended
    · cases ended
    · rename_i filled fill
      obtain ⟨bytes, gained, after, fetches⟩ := Buffer.fillOnce_fetches rfl fill
      have out := Moves.out counters delivers.sound fetches.draws
      rw [← fetches.world, List.nil_append] at out
      obtain ⟨count, success, dry⟩ := fetches.supplied room tail patience gives
      simp only [success] at ended
      cases count with
      | zero =>
        cases ended
        have none : bytes = [] := List.length_eq_zero_iff.mp (fetches.ok 0 success).symm
        have all : course.sink.calls.flatMap SinkCall.taken = stream := by
          have finished := (fetches.ended gives.orderly success).1
          have flow := fetches.draws.flow
          rw [finished, none, ← dry rfl, List.append_nil] at flow
          rw [split, Stand.ready, List.nil_append, flow, List.append_nil]
        exact ⟨rfl, ⟨slack, greeted⟩, all, delivers.copied.trans (congrArg _ all)⟩
      | succ less =>
        have some : filled.buffer.unread ≠ [] := by
          have count := fetches.ok _ success
          rw [fetches.unread]
          exact fun none => by simp [none] at count
        rw [← fetches.unread] at out
        obtain ⟨given, moves, _, empty, _⟩ := drain_moves counters filled.buffer filled.source
          (course.inWorld filled.world) some out.sound
        obtain ⟨⟨total, drained⟩, more, on⟩ :=
          greeted.drain counters.write filled.buffer filled.world some
        simp only [Course.inWorld] at ended moves empty
        simp only [drained] at ended
        rw [empty total drained] at moves
        refine ih _ _ _ ?_ ((delivers.moves out).moves moves) on ended
        rw [Buffer.drain_size, fetches.size]
        exact room

theorem copyBuffered_greeted (counters : CounterSet) (allowance : Allowance) (source : Source ρ)
    (course : Course σ 0) {slack : Nat} (room : 0 < engine.buffers.hugeSize)
    (delivers : Delivers stream allowance.retries ⟨source, [], course⟩)
    (greeted : course.sink.Greeted wants 0 slack) (step : CopyStep σ 0 Unit)
    (ended : engine.copyBuffered allowance counters source course = some step) :
    step.result = .ok () ∧ (∃ more, step.after.sink.Greeted wants 0 more) ∧
      step.after.sink.calls.flatMap SinkCall.taken = stream ∧
      step.after.copied = stream.length := by
  obtain ⟨_, size, _, unmoved⟩ := engine.buffers.alloc_blank engine.buffers.hugeSize course.world
  simp only [copyBuffered, Allocator.huge, Option.map_eq_some_iff] at ended
  obtain ⟨pumped, pumping, rfl⟩ := ended
  have still := Moves.within counters delivers.sound (.still source unmoved)
  exact pump_greeted counters _ _ _ _ (by rwa [size]) (delivers.moves still) greeted pumped pumping

/-- The whole of a stream reaches such a destination; if it is too short the copy fails. -/
theorem copyCounted_greeted (counters : CounterSet) (allowance : Allowance) (writer : σ)
    (source : Source ρ) (world : World) {slack : Nat}
    (delivers : Delivers stream allowance.retries ⟨source, [], .fresh (.peer writer), 0, world⟩)
    (greets : WritePeer.Greets writer wants slack)
    (standard : 0 < engine.buffers.standardSize) (huge : 0 < engine.buffers.hugeSize)
    (outcome : CopyOutcome)
    (ended : engine.copyCounted allowance (.peer writer) source counters world = some outcome) :
    ∃ left fed written, SinkCall.Transcript wants left outcome.calls fed written ∧
      outcome.given = stream ∧
      outcome.result = if left = 0 then .ok stream.length
        else .error ⟨stream.length, greetingCut.within Stage.copyEarly⟩ := by
  have fresh : (Watched.fresh (.peer writer)).Greeted wants wants slack :=
    ⟨⟨writer, rfl, greets⟩, [], [], rfl, fun _ absurd => (nomatch absurd),
      fun _ absurd => (nomatch absurd), Nat.zero_add _, fun _ => rfl⟩
  have going : EarlyGoing stream allowance.retries (stream.length + source.handles.length)
      ⟨.asking source, .fresh (.peer writer), 0, world⟩ := by
    rintro _ here
    cases here
    exact ⟨delivers, Nat.le_add_right _ _⟩
  have greeted : EarlyGreeted stream wants
      (⟨.asking source, .fresh (.peer writer), 0, world⟩ : EarlyState ρ σ 0) :=
    ⟨⟨wants, slack, fresh, trivial⟩, by simp⟩
  unfold copyCounted at ended
  split at ended
  · cases ended
  · rename_i fault course early
    cases ended
    have path := copyEarly_path engine allowance.retries counters _ source _ _ early
    obtain ⟨⟨left, more, on, pending⟩, failure⟩ := (path.greetedOn standard going greeted).2
    obtain ⟨rfl, all, copied⟩ := failure fault rfl
    obtain ⟨_, fed, written, transcript⟩ := on
    refine ⟨left, fed, written, transcript, all, ?_⟩
    rw [if_neg (Nat.ne_of_gt pending), failed, ← copied]
    rfl
  · rename_i middle course early
    have path := copyEarly_path engine allowance.retries counters _ source _ _ early
    obtain ⟨⟨left, more, on, none⟩, _⟩ := (path.greetedOn standard going greeted).2
    obtain ⟨⟨given, gained, front⟩, pure⟩ := early_moves allowance (.peer writer) source counters
      world delivers.sound (.inr (.inr rfl)) early
    cases none
    dsimp only at ended
    rw [pure] at ended
    split at ended
    · cases ended
    · rename_i result bulk pumped
      obtain ⟨rfl, ⟨most, last⟩, all, copied⟩ := copyBuffered_greeted _ allowance _ _ huge
        (delivers.moves front).uncounted on _ pumped
      cases ended
      obtain ⟨_, fed, written, transcript⟩ := last
      exact ⟨0, fed, written, transcript, all, congrArg Except.ok copied⟩

variable {depth : Nat}

/-- Let the handshake of a destination, which may be counted, want some bytes and its writes never
fail, nor stall so often in a row that a copy gives up. When the source has as many bytes, in any
layers and reads, the copy succeeds, the handshake gets the first of them and the writes, all of
them after it, get the others. When it has fewer, they all go to the handshake, nothing is written,
and the copy fails because the source ended. -/
theorem copy_greets (engine : Engine) (allowance : Allowance) (sink : Sink σ depth)
    (source : Source ρ) (world : World) (writer : σ) (wants slack : Nat) (tail : Bytes)
    (patience : Nat) (bare : sink.uncounted.1 = ⟨0, .peer writer⟩)
    (orderly : WritePeer.Orderly writer) (greets : WritePeer.Greets writer wants slack)
    (standard : 0 < engine.buffers.standardSize) (huge : 0 < engine.buffers.hugeSize)
    (gives : source.Gives tail patience) (patient : patience ≤ allowance.retries)
    (enough :
      (source.stock world.stores ++ tail).length + source.handles.length < allowance.rounds) :
    let stream := source.stock world.stores ++ tail
    ∃ outcome, engine.copy allowance sink source world = some outcome ∧
      (wants ≤ stream.length → outcome.result = .ok stream.length ∧
        ∃ fed written, outcome.calls = fed ++ written ∧
          (∀ call ∈ fed, call.Feeds) ∧ (∀ call ∈ written, call.Writes) ∧
          fed.flatMap SinkCall.taken = stream.take wants ∧
          written.flatMap SinkCall.taken = stream.drop wants) ∧
      (stream.length < wants → (∀ call ∈ outcome.calls, call.Feeds) ∧
        outcome.calls.flatMap SinkCall.taken = stream ∧
        ∃ cause, outcome.result = .error ⟨stream.length, cause⟩ ∧
          cause.stages = [Stage.copyEarly, Stage.handshakeRead] ∧ cause.isEndOfStream = true) := by
  have sound : Sound (⟨source.uncounted.1, [], .fresh (.peer writer), 0, world⟩ : Stand ρ σ 0) :=
    ⟨by rintro _ ⟨⟩; exact orderly.modest, fun _ absurd => nomatch absurd⟩
  have delivers := Delivers.start sound ((Source.gives_uncounted source _ _).mpr gives) patient
  have rounds : (source.uncounted.1.stock world.stores ++ tail).length +
      source.uncounted.1.handles.length < allowance.rounds := by
    rw [Source.stock_uncounted, Source.handles_uncounted]
    exact enough
  obtain ⟨outcome, ended⟩ := Option.isSome_iff_exists.mp
    (copyCounted_isSome engine ⟨source.uncounted.2, sink.uncounted.2⟩ allowance (.peer writer)
      source.uncounted.1 world delivers (.inr (.inr rfl)) rounds)
  obtain ⟨left, fed, written, transcript, given, result⟩ := copyCounted_greeted _ allowance writer
    _ world delivers greets standard huge outcome ended
  rw [Source.stock_uncounted] at given result
  generalize source.stock world.stores ++ tail = stream at *
  have taken := transcript.taken
  rw [CopyOutcome.given, transcript.order, List.flatMap_append] at given
  refine ⟨outcome, ?_, ?_, ?_⟩
  · have peeled : engine.copy allowance sink source world =
        engine.copyCounted allowance sink.uncounted.1.2 source.uncounted.1
          ⟨source.uncounted.2, sink.uncounted.2⟩ world := rfl
    rw [peeled, bare]
    exact ended
  · intro long
    -- As long as the handshake wants more, it was given all of the stream and nothing was written.
    have finished : left = 0 := by
      by_contra some
      rw [transcript.silent (Nat.pos_of_ne_zero some), List.flatMap_nil, List.append_nil] at given
      rw [given] at taken
      omega
    rw [if_pos finished] at result
    rw [finished, Nat.add_zero] at taken
    refine ⟨result, fed, written, transcript.order, transcript.feeds, transcript.writes, ?_, ?_⟩
    · rw [← given, List.take_left' taken]
    · rw [← given, List.drop_left' taken]
  · intro short
    have pending : 0 < left := by
      have lengths := congrArg List.length given
      rw [List.length_append] at lengths
      omega
    rw [if_neg (Nat.ne_of_gt pending)] at result
    rw [transcript.silent pending, List.flatMap_nil, List.append_nil] at given
    rw [transcript.order, transcript.silent pending, List.append_nil]
    refine ⟨transcript.feeds, given, _, result, rfl, ?_⟩
    simp only [greetingCut, TransferFault.within, TransferFault.isEndOfStream,
      BufferFault.isEndOfStream]

/-- The handshake of the sample gets four of the six bytes, the first three of which are cached. -/
theorem copy_greets_sample :
    ∃ outcome fed written, Sample.engine.copy Sample.allowance Sample.sink Sample.source
        Sample.world = some outcome ∧
      outcome.result = .ok 6 ∧ outcome.calls = fed ++ written ∧
      fed.flatMap SinkCall.taken = [1, 2, 3, 4] ∧ written.flatMap SinkCall.taken = [5, 6] := by
  obtain ⟨outcome, ended, long, _⟩ := copy_greets Sample.engine Sample.allowance Sample.sink
    Sample.source Sample.world Sample.writer 4 2 [4, 5, 6] 1 rfl Sample.writer_orderly
    Sample.writer_greets (by decide) (by decide) Sample.source_gives (by decide) (by decide)
  obtain ⟨result, fed, written, order, _, _, first, others⟩ := long (by decide)
  exact ⟨outcome, fed, written, ended, result, order, first, others⟩

end Engine

end Conduit
