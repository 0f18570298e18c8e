import Conduit.Engine.Early
import Conduit.Sink.Basic
import Conduit.Source.Basic
import Conduit.Splice.Transfer

set_option autoImplicit false

namespace Conduit

structure Pumped (ρ σ : Type) (depth : Nat) where
  result : Except TransferFault Unit
  buffer : Buffer
  source : Source ρ
  /-- Where the copy stands; the bytes reported by the destination are counted as they come. -/
  course : Course σ depth

namespace Engine

variable {ρ σ : Type} [ReadPeer ρ] [WritePeer σ] {depth : Nat}

/-- Moves bytes through a buffer until the source ends. -/
def pump (retries : Nat) (counters : CounterSet) : (rounds : Nat) → Buffer → Source ρ →
    Course σ depth → Option (Pumped ρ σ depth)
  | 0, _, _, _ => none
  | rounds + 1, buffer, source, course =>
    match buffer.reset.fillOnce retries counters.read source course.world with
    | none => none
    | some filled =>
      let course := course.inWorld filled.world
      match filled.result with
      | .error fault => some ⟨.error fault.toTransfer, filled.buffer, filled.source, course⟩
      | .ok 0 => some ⟨.ok (), filled.buffer, filled.source, course⟩
      | .ok (_ + 1) =>
        let drained := filled.buffer.drain Watched.write counters.write course.sink course.world
        let course : Course σ depth :=
          ⟨drained.sink, course.copied + drained.reported, drained.world⟩
        match drained.result with
        | .error fault => some ⟨.error fault.toTransfer, drained.buffer, filled.source, course⟩
        | .ok _ => pump retries counters rounds drained.buffer filled.source course

/-- Copies the rest of a source through a large buffer, which is freed in any case. The source is
let go at the end. -/
def copyBuffered (engine : Engine) (allowance : Allowance) (counters : CounterSet)
    (source : Source ρ) (course : Course σ depth) : Option (CopyStep σ depth Unit) :=
  let (buffer, world) := engine.buffers.huge course.world
  (pump allowance.retries counters allowance.rounds buffer source (course.inWorld world)).map
    fun pumped =>
      let world := pumped.course.world.dropBuffer pumped.buffer
      ⟨pumped.result, pumped.course.inWorld (pumped.source.drop world)⟩

/-- Copies the rest of a source, by splicing as far as that goes. -/
def copyPure (engine : Engine) (allowance : Allowance) (counters : CounterSet)
    (source : Source ρ) (course : Course σ depth) : Option (CopyStep σ depth Unit) :=
  match engine.spliceEnabled, source.descriptor?, course.sink.sink.descriptor? with
  | true, some input, some output =>
    match spliceCopy allowance.rounds engine.pipes input output counters engine.maxChunk
      course.copied course.world with
    | none => none
    | some spliced =>
      let course : Course σ depth := ⟨course.sink, spliced.copied, spliced.world⟩
      match spliced.result with
      | .error fault => some ⟨.error fault, course.inWorld (source.drop course.world)⟩
      | .ok .done => some ⟨.ok (), course.inWorld (source.drop course.world)⟩
      | .ok .notHandled => engine.copyBuffered allowance counters source course
  | _, _, _ => engine.copyBuffered allowance counters source course

end Engine

/-- A copy that came to an end, with both of its ends let go. -/
structure CopyOutcome where
  /-- The bytes copied, or why the copy failed and after how many bytes. -/
  result : Except CopyFault Nat
  world : World
  /-- The calls that the copy made of its destination, without the counting layers on it. -/
  calls : List SinkCall

namespace Engine

variable {ρ σ : Type} [ReadPeer ρ] [WritePeer σ]

def failed {depth : Nat} (course : Course σ depth) (cause : TransferFault) : CopyOutcome :=
  let fault : CopyFault := ⟨course.copied, cause⟩
  ⟨.error fault, course.sink.sink.drop (course.world.notice (.failed fault)), course.sink.calls⟩

/-- Copies everything from a source to a destination and calls the given counters. Counting layers
on the destination, and those on the source above a cache, keep counting by themselves. -/
def copyCounted (engine : Engine) (allowance : Allowance) {depth : Nat} (sink : Sink σ depth)
    (source : Source ρ) (counters : CounterSet) (world : World) : Option CopyOutcome :=
  match engine.copyEarly allowance.retries counters allowance.rounds source
    ⟨.fresh sink, 0, world⟩ with
  | none => none
  | some ⟨.error fault, course⟩ => some (failed course (fault.within Stage.copyEarly))
  | some ⟨.ok source, course⟩ =>
    let early := course.copied
    let course := course.inWorld (course.world.notice (.phase Stage.copyEarly early))
    let (source, exposed) := source.uncounted
    let counters : CounterSet := ⟨exposed ++ counters.read, counters.write⟩
    match engine.copyPure allowance counters source course with
    | none => none
    | some ⟨result, course⟩ =>
      let fault? := match result with
        | .ok () => none
        | .error fault => if fault.isEndOfStream then none else some fault
      match fault? with
      | some fault => some (failed course (fault.within Stage.copyPure))
      | none =>
        let world := course.world.notice (.phase Stage.copyPure (course.copied - early))
        some ⟨.ok course.copied, course.sink.sink.drop world, course.sink.calls⟩

/-- Copies everything from a source to a destination. Counters on either end are called once for
each byte. -/
def copy (engine : Engine) (allowance : Allowance) {depth : Nat} (sink : Sink σ depth)
    (source : Source ρ) (world : World) : Option CopyOutcome :=
  let (source, read) := source.uncounted
  let (sink, write) := sink.uncounted
  engine.copyCounted allowance sink.2 source ⟨read, write⟩ world

end Engine

end Conduit
