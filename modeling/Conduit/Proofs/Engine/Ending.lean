import Conduit.Engine.Copy
import Conduit.Proofs.Engine.Balance
import Conduit.Proofs.Engine.CopyLedger
import Conduit.Proofs.Rehearsal.Sample

set_option autoImplicit false

namespace Conduit

variable {ρ σ : Type} {depth : Nat}

namespace BulkState

/-- The last that the source answered is that it ended. -/
def SourceEnded (state : BulkState ρ σ depth) : Prop :=
  match state.answers.getLast? with
  | some (.ok bytes) => bytes = []
  | some (.error fault) => fault.EndsStream
  | none => False

/-- The last call is a write of all that is left, and its fault reads as the end of a stream. -/
def SinkEnded (state : BulkState ρ σ depth) : Prop :=
  ∃ pending fault, fault.EndsStream ∧
    state.course.sink.calls.getLast? = some (.write pending state.left (.error fault))

end BulkState

theorem IoFault.endsStream_of_isEndOfStream {fault : IoFault}
    (ends : fault.toBuffer.toTransfer.isEndOfStream = true) : fault.EndsStream := by
  by_contra goesOn
  rw [isEndOfStream_toTransfer_toBuffer goesOn] at ends
  cases ends

namespace Engine

/-- What the bulk of a copy stops with is no failure: nothing went wrong, or what did says only that
a stream ended. -/
def Passes (result : Except TransferFault Unit) : Prop :=
  ∀ fault, result = .error fault → fault.isEndOfStream = true

/-- The bulk passes for the end of the source when that ended, or when the destination's fault reads
as the end of a stream. -/
theorem BulkEnd.ended {state : BulkState ρ σ depth} {result : Except TransferFault Unit}
    (stops : BulkEnd state result) (passes : Passes result) :
    state.left = [] ∧ state.SourceEnded ∨ state.left ≠ [] ∧ state.SinkEnded := by
  cases stops with
  | finished clear last =>
    refine .inl ⟨clear, ?_⟩
    rw [BulkState.SourceEnded, last]
  | roomless clear => cases passes _ rfl
  | unread clear last hard =>
    refine .inl ⟨clear, ?_⟩
    rw [BulkState.SourceEnded, last]
    exact IoFault.endsStream_of_isEndOfStream (passes _ rfl)
  | stuck some => cases passes _ rfl
  | unwritten some last hard =>
    exact .inr ⟨some, _, _, IoFault.endsStream_of_isEndOfStream (passes _ rfl), last⟩

variable {engine : Engine} {allowance : Allowance} {counters : CounterSet}

/-- The bulk of a copy is spliced, and nothing of it left to a buffer. -/
def Splices (engine : Engine) (allowance : Allowance) (counters : CounterSet) (source : Source ρ)
    (course : Course σ depth) : Prop :=
  ∃ input output spliced, engine.spliceEnabled = true ∧ source.descriptor? = some input ∧
    course.sink.sink.descriptor? = some output ∧
    spliceCopy allowance.rounds engine.pipes input output counters engine.maxChunk course.copied
      course.world = some spliced ∧
    spliced.result ≠ .ok .notHandled

/-- Where the bulk of a copy starts to go through a buffer: at once, or where a splice gave up. -/
inductive BulkStart (engine : Engine) (allowance : Allowance) (counters : CounterSet)
    (source : Source ρ) (course : Course σ depth) : Course σ depth → Prop where
  | direct (bare : engine.spliceEnabled = false ∨ source.descriptor? = none ∨
      course.sink.sink.descriptor? = none) :
    BulkStart engine allowance counters source course
      (course.inWorld (engine.buffers.huge course.world).2)
  | fallback {input output : Fd} {spliced : SpliceOutcome} (enabled : engine.spliceEnabled = true)
    (reads : source.descriptor? = some input)
    (writes : course.sink.sink.descriptor? = some output)
    (splicing : spliceCopy allowance.rounds engine.pipes input output counters engine.maxChunk
      course.copied course.world = some spliced)
    (gaveUp : spliced.result = .ok .notHandled) :
    BulkStart engine allowance counters source course
      ⟨course.sink, spliced.copied, (engine.buffers.huge spliced.world).2⟩

theorem BulkStart.sink {source : Source ρ} {course start : Course σ depth}
    (begun : engine.BulkStart allowance counters source course start) :
    start.sink = course.sink := by
  cases begun <;> rfl

variable [ReadPeer ρ] [WritePeer σ]

theorem copyBuffered_path {source : Source ρ} {course : Course σ depth}
    {step : CopyStep σ depth Unit}
    (ended : engine.copyBuffered allowance counters source course = some step) :
    ∃ last, BulkPath counters
        ⟨source, [], [], course.inWorld (engine.buffers.huge course.world).2⟩ last ∧
      BulkEnd last step.result ∧ step.after.sink = last.course.sink := by
  simp only [copyBuffered, Option.map_eq_some_iff] at ended
  obtain ⟨pumped, pumping, rfl⟩ := ended
  obtain ⟨more, left, path, stops⟩ := pump_path pumping []
  exact ⟨_, path, stops, rfl⟩

/-- The bulk of a copy is spliced, or goes through a buffer: at once, or where a splice gave up. -/
theorem copyPure_start {source : Source ρ} {course : Course σ depth} {step : CopyStep σ depth Unit}
    (ended : engine.copyPure allowance counters source course = some step) :
    engine.Splices allowance counters source course ∨
    ∃ begun, engine.BulkStart allowance counters source course
        (begun.inWorld (engine.buffers.huge begun.world).2) ∧
      engine.copyBuffered allowance counters source begun = some step := by
  unfold copyPure at ended
  split at ended
  · rename_i input output enabled reads writes
    split at ended
    · cases ended
    · rename_i spliced splicing
      by_cases gaveUp : spliced.result = .ok .notHandled
      · simp only [gaveUp] at ended
        exact .inr ⟨⟨course.sink, spliced.copied, spliced.world⟩,
          .fallback enabled reads writes splicing gaveUp, ended⟩
      · exact .inl ⟨input, output, spliced, enabled, reads, writes, splicing, gaveUp⟩
  · rename_i apart
    refine .inr ⟨course, .direct ?_, ended⟩
    cases enabled : engine.spliceEnabled with
    | false => exact .inl rfl
    | true =>
      cases reads : source.descriptor? with
      | none => exact .inr (.inl rfl)
      | some input =>
        cases writes : course.sink.sink.descriptor? with
        | none => exact .inr (.inr rfl)
        | some output => exact (apart input output enabled reads writes).elim

/-- The bulk of a copy is spliced, or a path of its steps from where it goes through a buffer. -/
theorem copyPure_path {source : Source ρ} {course : Course σ depth} {step : CopyStep σ depth Unit}
    (ended : engine.copyPure allowance counters source course = some step) :
    engine.Splices allowance counters source course ∨
    ∃ start last, engine.BulkStart allowance counters source course start ∧
      BulkPath counters ⟨source, [], [], start⟩ last ∧
      BulkEnd last step.result ∧ step.after.sink = last.course.sink := by
  refine (copyPure_start ended).imp_right ?_
  rintro ⟨_, start, ended⟩
  obtain ⟨last, rest⟩ := copyBuffered_path ended
  exact ⟨_, last, start, rest⟩

/-- How a copy turns out: it fails in its early phase, or it gets to its bulk, which fails unless
what it stops with passes. -/
theorem copyCounted_ends {sink : Sink σ depth} {source : Source ρ} {world : World}
    {outcome : CopyOutcome}
    (ended : engine.copyCounted allowance sink source counters world = some outcome) :
    (∃ cause course, engine.copyEarly allowance.retries counters allowance.rounds source
        ⟨.fresh sink, 0, world⟩ = some ⟨.error cause, course⟩ ∧
      outcome = failed course (cause.within Stage.copyEarly)) ∨
    ∃ middle course step,
      engine.copyEarly allowance.retries counters allowance.rounds source
        ⟨.fresh sink, 0, world⟩ = some ⟨.ok middle, course⟩ ∧
      engine.copyPure allowance ⟨middle.uncounted.2 ++ counters.read, counters.write⟩
        middle.uncounted.1
        (course.inWorld (course.world.notice (.phase Stage.copyEarly course.copied))) =
          some step ∧
      ((∃ cause, step.result = .error cause ∧
        outcome = failed step.after (cause.within Stage.copyPure)) ∨
      Passes step.result ∧
        (outcome.calls = step.after.sink.calls ∧
          outcome.world = step.after.sink.sink.drop (step.after.world.notice
            (.phase Stage.copyPure (step.after.copied - course.copied)))) ∧
        outcome.result = .ok step.after.copied) := by
  unfold copyCounted at ended
  split at ended
  · cases ended
  · rename_i cause course early
    cases ended
    exact .inl ⟨cause, course, early, rfl⟩
  · rename_i middle course early
    dsimp only at ended
    split at ended
    · cases ended
    · rename_i result after pure
      refine .inr ⟨middle, course, _, early, pure, ?_⟩
      cases result with
      | ok done =>
        cases ended
        exact .inr ⟨nofun, ⟨rfl, rfl⟩, rfl⟩
      | error fault =>
        cases ends : fault.isEndOfStream with
        | false =>
          simp only [ends, Bool.false_eq_true, if_false] at ended
          cases ended
          exact .inl ⟨fault, rfl, rfl⟩
        | true =>
          simp only [ends, if_true] at ended
          cases ended
          refine .inr ⟨fun other same => ?_, ⟨rfl, rfl⟩, rfl⟩
          cases same
          exact ends

/-- A copy that succeeds got through its early phase, and what its bulk stopped with passes. -/
theorem copyCounted_ok {sink : Sink σ depth} {source : Source ρ} {world : World}
    {outcome : CopyOutcome} {total : Nat}
    (ended : engine.copyCounted allowance sink source counters world = some outcome)
    (success : outcome.result = .ok total) :
    ∃ middle course step,
      engine.copyEarly allowance.retries counters allowance.rounds source
        ⟨.fresh sink, 0, world⟩ = some ⟨.ok middle, course⟩ ∧
      engine.copyPure allowance ⟨middle.uncounted.2 ++ counters.read, counters.write⟩
        middle.uncounted.1
        (course.inWorld (course.world.notice (.phase Stage.copyEarly course.copied))) =
          some step ∧
      Passes step.result ∧ outcome.calls = step.after.sink.calls := by
  rcases copyCounted_ends ended with
    ⟨_, _, _, failing⟩ |
    ⟨middle, course, step, early, pure, ⟨_, _, failing⟩ | ⟨passes, ⟨calls, _⟩, _⟩⟩
  · cases failing ▸ success
  · cases failing ▸ success
  · exact ⟨middle, course, step, early, pure, passes, calls⟩

/-- A copy succeeds through a buffer only if its source ended and the destination took every byte
that came out of it, or if the destination's last write failed with a fault that reads as the end of
a stream, and what was left then is lost.

In the early phase the bytes that came out of the source and its cached buffers all went to the
destination. Nothing is asked of the two ends, and every other fault of the destination is reported.
-/
theorem copy_ok_ends {sink : Sink σ depth} {source : Source ρ} {world : World}
    {outcome : CopyOutcome} {total : Nat}
    (ended : engine.copy allowance sink source world = some outcome)
    (success : outcome.result = .ok total) :
    let counters : CounterSet := ⟨source.uncounted.2, sink.uncounted.2⟩
    ∃ early middle between,
      EarlyFlow engine allowance.retries counters
        ⟨.asking source.uncounted.1, .fresh sink.uncounted.1.2, 0, world⟩ early
        ⟨.finished middle, between⟩ ∧
      let counters : CounterSet := ⟨middle.uncounted.2 ++ counters.read, counters.write⟩
      let between := between.inWorld
        (between.world.notice (.phase Stage.copyEarly between.copied))
      (engine.Splices allowance counters middle.uncounted.1 between ∨
        ∃ start last, engine.BulkStart allowance counters middle.uncounted.1 between start ∧
          BulkPath counters ⟨middle.uncounted.1, [], [], start⟩ last ∧
          outcome.calls = last.course.sink.calls ∧
          early ++ last.answers.flatMap ReadPeer.brought = outcome.given ++ last.left ∧
          (last.left = [] ∧ last.SourceEnded ∨ last.left ≠ [] ∧ last.SinkEnded)) := by
  intro counters
  unfold copy at ended
  obtain ⟨middle, course, step, began, pure, passes, calls⟩ := copyCounted_ok ended success
  obtain ⟨early, flow⟩ := (copyEarly_path _ _ _ _ _ _ _ began).flow
  refine ⟨early, middle, course, flow, ?_⟩
  refine (copyPure_path pure).imp_right ?_
  rintro ⟨start, last, begun, path, stops, after⟩
  rw [after] at calls
  refine ⟨start, last, begun, path, calls, ?_, stops.ended passes⟩
  obtain ⟨more, answers, late⟩ := path.given
  have front : [] ++ [] ++ early = course.sink.given ++ [] := flow.given rfl
  have given : outcome.given = last.course.sink.given :=
    congrArg (List.flatMap SinkCall.taken) calls
  rw [begun.sink] at late
  rw [List.nil_append, List.nil_append, List.append_nil] at front
  rw [List.nil_append] at answers
  rw [given, front, answers, ← late, List.append_nil]
  rfl

end Engine

namespace Sample

/-- The reader of the sample ends, and the destination takes all six bytes. -/
theorem copy_ok_ends_sample :
    ∃ outcome, engine.copy allowance sink source world = some outcome ∧
      outcome.result = .ok 6 ∧
      ∃ (early : Bytes) (last : BulkState RehearsedReader RehearsedWriter sink.uncounted.1.1),
        early ++ last.answers.flatMap ReadPeer.brought = outcome.given ∧ last.SourceEnded := by
  have wrote : (engine.copy allowance sink source world).map
      (fun outcome => outcome.calls.getLast?) = some (some (.write none [6] (.ok 1))) := by cbv
  obtain ⟨outcome, ended, success⟩ := copy_ok
  rw [ended, Option.map_some] at wrote
  refine ⟨outcome, ended, success, ?_⟩
  obtain ⟨early, middle, between, _, late⟩ := Engine.copy_ok_ends ended success
  rcases late with ⟨_, _, _, enabled, _⟩ | ⟨_, last, _, _, calls, balance, why⟩
  · cases enabled
  · rcases why with ⟨clear, finished⟩ | ⟨_, _, _, _, failed⟩
    · rw [clear, List.append_nil] at balance
      exact ⟨early, last, balance, finished⟩
    · rw [← calls, Option.some.inj wrote] at failed
      simp only [Option.some.injEq, SinkCall.write.injEq, reduceCtorEq, and_false] at failed

/-- A writer that fails after one byte, as if it were a stream that ended. -/
def cutting : RehearsedWriter :=
  ⟨2, [.take 1, .fail (.custom .unexpectedEof (.buffer .endOfStream))], .all, none, none, .none⟩

def heard? : Event → Option (Except IoFault Bytes)
  | .read _ _ answer => some answer
  | _ => none

/-- The destination fails after one byte of three. The copy succeeds, although its source was never
asked for its end and two of the bytes are lost. -/
theorem copy_ok_cut : ∃ outcome,
    engine.copy allowance (.peer cutting : Sink RehearsedWriter 0)
      (.peer ⟨1, [.deliver [4, 5, 6]], .ended⟩ : Source RehearsedReader) World.initial =
        some outcome ∧
    outcome.result = .ok 1 ∧ outcome.given = [4] ∧
    outcome.world.journal.events.filterMap heard? = [.ok [4, 5, 6]] := by
  have copied : (engine.copy allowance (.peer cutting : Sink RehearsedWriter 0)
      (.peer ⟨1, [.deliver [4, 5, 6]], .ended⟩ : Source RehearsedReader) World.initial).map
        (fun outcome => (outcome.result, outcome.given,
          outcome.world.journal.events.filterMap heard?)) =
      some (.ok 1, [4], [.ok [4, 5, 6]]) := by cbv
  obtain ⟨outcome, ended, same⟩ := Option.map_eq_some_iff.mp copied
  simp only [Prod.mk.injEq] at same
  exact ⟨outcome, ended, same⟩

end Sample

end Conduit
