import Conduit.Settings.Basic
import Conduit.Sink.Watched
import Conduit.Source.Basic
import Conduit.Splice.PipePool

set_option autoImplicit false

namespace Conduit

/-- What copies are made with. -/
structure Engine where
  buffers : Allocator
  pipes : PipePoolId
  spliceEnabled : Bool
  /-- The most bytes moved by one splice call. -/
  maxChunk : Nat
  deriving DecidableEq, Repr

namespace Engine

def withPools (settings : Settings) (buffers : Allocator) (pipes : PipePoolId) : Engine :=
  ⟨buffers, pipes, settings.splice.enabled, settings.splice.maxChunk⟩

def new (settings : Settings) (world : World) : Engine × World :=
  let (buffers, world) := Allocator.new settings.buffers world
  (withPools settings buffers world.pipePools.next,
    world.addPipePool settings.splice.maxIdlePipes)

end Engine

/-- How much patience a run has with endpoints that never come to an end. -/
structure Allowance where
  /-- How many interruptions in a row are sat out. -/
  retries : Nat
  /-- How many rounds a loop over a source may take. -/
  rounds : Nat
  deriving DecidableEq, Repr

/-- A copy under way: the destination, the bytes that reached it, and the world. -/
structure Course (σ : Type) (depth : Nat) where
  /-- The destination, with the calls made of it so far. -/
  sink : Watched σ depth
  copied : Nat
  world : World

structure CopyStep (σ : Type) (depth : Nat) (α : Type) where
  result : Except TransferFault α
  after : Course σ depth

namespace Course

variable {ρ σ : Type} {depth : Nat}

def inWorld (course : Course σ depth) (world : World) : Course σ depth := { course with world }

/-- The course after so many more bytes reached the destination, for which counters are called. -/
def progressed (course : Course σ depth) (counters : CounterSet) (bytes : Nat) :
    Course σ depth :=
  { course with
    copied := course.copied + bytes
    world := course.world.countBoth counters bytes }

end Course

namespace Engine

variable {ρ σ : Type} [ReadPeer ρ] [WritePeer σ] {depth : Nat}

/-- Reads the bytes that a handshake is offered when none are cached. The buffer is freed when
nothing came. -/
def readGreeting (engine : Engine) (retries : Nat) (source : Source ρ) (world : World) :
    Option (Except TransferFault Buffer × Source ρ × World) :=
  let (buffer, world) := engine.buffers.standard world
  (buffer.fillOnce retries [] source world).map fun filled =>
    match filled.result with
    | .ok 0 =>
      (.error (TransferFault.within (.buffer .endOfStream) Stage.handshakeRead), filled.source,
        filled.world.dropBuffer filled.buffer)
    | .ok (_ + 1) => (.ok filled.buffer, filled.source, filled.world)
    | .error fault =>
      (.error (fault.toTransfer.within Stage.handshakeRead), filled.source,
        filled.world.dropBuffer filled.buffer)

/-- The shared buffer that a handshake is offered next: the outermost cached one if it holds bytes,
or else a fresh one from the source. -/
def greetingBytes (engine : Engine) (retries : Nat) (source : Source ρ) (world : World) :
    Option (Except TransferFault SharedId × Source ρ × World) :=
  let (rest, cached) := source.pick
  let fresh (world : World) :=
    (engine.readGreeting retries rest world).map fun (result, rest, world) =>
      match result with
      | .error fault => (.error fault, rest, world)
      | .ok buffer =>
        let (handle, world) := world.share buffer
        (.ok handle, rest, world)
  match cached with
  | none => fresh world
  | some handle =>
    if (world.shared handle).isEmpty then fresh (world.release handle)
    else some (.ok handle, rest, world)

/-- Offers the bytes of a shared buffer to a handshake. Claiming more than was offered is a fault.
-/
def offer (handle : SharedId) (counters : CounterSet) (course : Course σ depth) :
    CopyStep σ depth Unit :=
  let offered := (course.world.shared handle).unread
  let fed := course.sink.feed offered course.world
  let course := { course with sink := fed.after, world := fed.world }
  match fed.answer with
  | .error fault => ⟨.error (fault.toTransfer.within Stage.handshake), course⟩
  | .ok consumed =>
    if offered.length < consumed then
      ⟨.error (TransferFault.within (.buffer .overflow) Stage.handshake), course⟩
    else
      let world := course.world.notice (.handshake offered.length consumed)
      let world := world.setShared handle ((world.shared handle).consume consumed)
      ⟨.ok (), (course.inWorld world).progressed counters consumed⟩

/-- One round with a handshake that takes bytes. The result says whether it took all it was
offered. -/
def feedRound (engine : Engine) (retries : Nat) (source : Source ρ) (counters : CounterSet)
    (course : Course σ depth) : Option (CopyStep σ depth (Source ρ × Bool)) :=
  (engine.greetingBytes retries source course.world).map fun (found, rest, world) =>
    match found with
    | .error fault => ⟨.error fault, course.inWorld (rest.drop world)⟩
    | .ok handle =>
      let step := offer handle counters (course.inWorld world)
      let course := step.after
      match step.result with
      | .error fault =>
        ⟨.error fault, course.inWorld (rest.drop (course.world.release handle))⟩
      | .ok () =>
        if (course.world.shared handle).isEmpty then
          ⟨.ok (rest, true), course.inWorld (course.world.release handle)⟩
        else
          let (source, world) := rest.cache handle course.world
          ⟨.ok (source, false), course.inWorld world⟩

def handshakeRound (engine : Engine) (retries : Nat) (source : Source ρ) (counters : CounterSet)
    (course : Course σ depth) : Option (CopyStep σ depth (Source ρ × Bool)) :=
  match course.sink.handshake? with
  | none => some ⟨.ok (source, false), course⟩
  | some .plain =>
    let greeted := course.sink.greet course.world
    let course := { course with sink := greeted.after, world := greeted.world }
    match greeted.answer with
    | .ok () => some ⟨.ok (source, false), course⟩
    | .error fault =>
      some ⟨.error (fault.toTransfer.within Stage.handshake),
        course.inWorld (source.drop course.world)⟩
  | some .buffered => engine.feedRound retries source counters course

def replay (handle : SharedId) (counters : CounterSet) (course : Course σ depth) :
    CopyStep σ depth Unit :=
  let drained := (course.world.shared handle).drain Watched.write [] course.sink course.world
  let course : Course σ depth :=
    ⟨drained.sink, course.copied, drained.world.setShared handle drained.buffer⟩
  let course := course.progressed counters drained.reported
  match drained.result with
  | .error fault => ⟨.error (fault.toTransfer.within Stage.writeCache), course⟩
  | .ok _ => ⟨.ok (), course.inWorld (course.world.notice (.replay drained.reported))⟩

/-- Drives the handshake and writes cached buffers out until none is left, and gives the source
beneath them. After a fault the source is gone. -/
def copyEarly (engine : Engine) (retries : Nat) (counters : CounterSet) :
    (rounds : Nat) → Source ρ → Course σ depth → Option (CopyStep σ depth (Source ρ))
  | 0, _, _ => none
  | rounds + 1, source, course =>
    match engine.handshakeRound retries source counters course with
    | none => none
    | some ⟨.error fault, course⟩ => some ⟨.error fault, course⟩
    | some ⟨.ok (source, drained), course⟩ =>
      if drained && course.sink.handshake?.isSome then
        copyEarly engine retries counters rounds source course
      else
        let (rest, cached) := source.pick
        match cached with
        | none => some ⟨.ok rest, course⟩
        | some handle =>
          if (course.world.shared handle).isEmpty then
            copyEarly engine retries counters rounds rest
              (course.inWorld (course.world.release handle))
          else
            let step := replay handle counters course
            let course := step.after.inWorld (step.after.world.release handle)
            match step.result with
            | .error fault => some ⟨.error fault, course.inWorld (rest.drop course.world)⟩
            | .ok () => copyEarly engine retries counters rounds rest course

end Engine

end Conduit
