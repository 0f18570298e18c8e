import Conduit.Fault.Message
import Conduit.Splice.PipePool

set_option autoImplicit false

namespace Conduit

inductive Spliced where
  /-- The source ended; everything went through. -/
  | done
  /-- The descriptors cannot be spliced any further. -/
  | notHandled
  deriving DecidableEq, Repr

structure Piping where
  pipe : Pipe
  /-- The bytes delivered by the whole copy so far. -/
  copied : Nat
  world : World

/-- A step of a splice: its result, and the pipe, the count and the world after it. -/
structure PipeStep (α : Type) where
  result : Except IoFault α
  after : Piping

namespace Piping

def withKernel (piping : Piping) (kernel : Kernel) : Piping :=
  { piping with world := { piping.world with kernel } }

/-- The piping after so many bytes went from the pipe to the destination. -/
def moved (piping : Piping) (count : Nat) : Piping :=
  { piping with
    pipe := { piping.pipe with pending := piping.pipe.pending - count }
    copied := piping.copied + count }

/-- The kernel says that it cannot splice between the descriptors. -/
def isRejection : IoFault → Bool
  | .system error => error.isRejection
  | _ => false

/-- Moves the next bytes of a descriptor into the pipe, waiting while there are none. -/
def takeIn (fd : Fd) (wanted : Nat) : Nat → Piping → Option (PipeStep Nat)
  | 0, _ => none
  | calls + 1, piping =>
    match piping.world.kernel.spliceIn fd piping.pipe.id wanted with
    | (.ok count, kernel) =>
      some ⟨.ok count,
        { piping.withKernel kernel with pipe := { piping.pipe with pending := count } }⟩
    | (.error error, kernel) =>
      match error.kind with
      | .interrupted => takeIn fd wanted calls (piping.withKernel kernel)
      | .wouldBlock =>
        match kernel.waitReadable fd with
        | (.error fault, kernel) => some ⟨.error fault, piping.withKernel kernel⟩
        | (.ok (), kernel) => takeIn fd wanted calls (piping.withKernel kernel)
      | _ => some ⟨.error (.system error), piping.withKernel kernel⟩

/-- Moves all bytes of the pipe to a descriptor, waiting while it takes none. -/
def giveOut (fd : Fd) : Nat → Piping → Option (PipeStep Unit)
  | 0, _ => none
  | calls + 1, piping =>
    if piping.pipe.pending = 0 then some ⟨.ok (), piping⟩
    else
      match piping.world.kernel.spliceOut piping.pipe.id fd piping.pipe.pending with
      | (.ok 0, kernel) => some ⟨.error (.plain .writeZero), piping.withKernel kernel⟩
      | (.ok (less + 1), kernel) =>
        giveOut fd calls
          ((piping.withKernel kernel).moved (min (less + 1) piping.pipe.pending))
      | (.error error, kernel) =>
        match error.kind with
        | .interrupted => giveOut fd calls (piping.withKernel kernel)
        | .wouldBlock =>
          match kernel.waitWritable fd with
          | (.error fault, kernel) => some ⟨.error fault, piping.withKernel kernel⟩
          | (.ok (), kernel) => giveOut fd calls (piping.withKernel kernel)
        | _ => some ⟨.error (.system error), piping.withKernel kernel⟩

/-- How many bytes are read out of a pipe at a time. -/
def scratchSize : Nat := 65536

/-- Reads bytes out of the pipe, which still counts them as its own. -/
def readOut (wanted : Nat) : Nat → Piping → Option (PipeStep Bytes)
  | 0, _ => none
  | calls + 1, piping =>
    match piping.world.kernel.readPipe piping.pipe.id wanted with
    | (.ok bytes, kernel) => some ⟨.ok bytes, piping.withKernel kernel⟩
    | (.error error, kernel) =>
      if error.kind = .interrupted then readOut wanted calls (piping.withKernel kernel)
      else some ⟨.error (.system error), piping.withKernel kernel⟩

/-- Writes bytes to a descriptor, all of them, waiting while it takes none. -/
def writeOut (fd : Fd) : Nat → Bytes → Piping → Option (PipeStep Unit)
  | 0, _, _ => none
  | calls + 1, bytes, piping =>
    if bytes.isEmpty then some ⟨.ok (), piping⟩
    else
      match piping.world.kernel.write fd bytes with
      | (.ok 0, kernel) => some ⟨.error (.plain .writeZero), piping.withKernel kernel⟩
      | (.ok (less + 1), kernel) =>
        writeOut fd calls (bytes.drop (less + 1))
          { piping.withKernel kernel with copied := piping.copied + (less + 1) }
      | (.error error, kernel) =>
        match error.kind with
        | .interrupted => writeOut fd calls bytes (piping.withKernel kernel)
        | .wouldBlock =>
          match kernel.waitWritable fd with
          | (.error fault, kernel) => some ⟨.error fault, piping.withKernel kernel⟩
          | (.ok (), kernel) => writeOut fd calls bytes (piping.withKernel kernel)
        | _ => some ⟨.error (.system error), piping.withKernel kernel⟩

/-- Delivers what is left in the pipe by plain reads and writes. A piece counts as gone from the
pipe once all of it was written. -/
def rescue (fd : Fd) (scratch : Nat) : Nat → Piping → Option (PipeStep Unit)
  | 0, _ => none
  | calls + 1, piping =>
    if piping.pipe.pending = 0 then some ⟨.ok (), piping⟩
    else
      match piping.readOut (min piping.pipe.pending scratch) calls with
      | none => none
      | some ⟨.error fault, piping⟩ => some ⟨.error fault, piping⟩
      | some ⟨.ok [], piping⟩ => some ⟨.ok (), piping⟩
      | some ⟨.ok (first :: rest), piping⟩ =>
        match piping.writeOut fd calls (first :: rest) with
        | none => none
        | some ⟨.error fault, piping⟩ => some ⟨.error fault, piping⟩
        | some ⟨.ok (), piping⟩ =>
          rescue fd scratch calls
            { piping with
              pipe := { piping.pipe with
                pending := piping.pipe.pending - (rest.length + 1) } }

/-- Calls counters with the bytes delivered since there were `earlier`. -/
def countSince (piping : Piping) (counters : CounterSet) (earlier : Nat) : Piping :=
  { piping with world := piping.world.countBoth counters (piping.copied - earlier) }

/-- Notes that the rest is left to a buffer. -/
def fallBack (piping : Piping) (reason : IoFault) (start : Nat) : Piping :=
  { piping with
    world := piping.world.notice (.fallback reason.message (piping.copied - start)) }

/-- Moves chunk after chunk until the source ends. -/
def chunks (source destination : Fd) (counters : CounterSet) (maxChunk start : Nat) :
    Nat → Piping → Option (Except TransferFault Spliced × Piping)
  | 0, _ => none
  | calls + 1, piping =>
    match piping.takeIn source maxChunk calls with
    | none => none
    | some ⟨.error fault, piping⟩ =>
      if isRejection fault then some (.ok .notHandled, piping.fallBack fault start)
      else some (.error (fault.toTransfer.within Stage.spliceRead), piping)
    | some ⟨.ok 0, piping⟩ => some (.ok .done, piping)
    | some ⟨.ok (less + 1), piping⟩ =>
      let earlier := piping.copied
      match piping.giveOut destination calls with
      | none => none
      | some ⟨.ok (), piping⟩ =>
        let piping := piping.countSince counters earlier
        chunks source destination counters maxChunk start calls
          { piping with world := piping.world.notice (.spliced (less + 1)) }
      | some ⟨.error fault, piping⟩ =>
        if isRejection fault then
          match piping.rescue destination (min piping.pipe.pending scratchSize) calls with
          | none => none
          | some ⟨.ok (), piping⟩ =>
            some (.ok .notHandled, (piping.countSince counters earlier).fallBack fault start)
          | some ⟨.error loss, piping⟩ =>
            some (.error (loss.toTransfer.within Stage.spliceWrite),
              piping.countSince counters earlier)
        else
          some (.error (fault.toTransfer.within Stage.spliceWrite),
            piping.countSince counters earlier)

end Piping

structure SpliceOutcome where
  result : Except TransferFault Spliced
  /-- The bytes delivered by the whole copy so far. -/
  copied : Nat
  world : World

/-- Moves everything from one descriptor to another through a pipe of a pool, which gets the pipe
back in any case. Without a pipe nothing is moved. -/
def spliceCopy (calls : Nat) (pool : PipePoolId) (source destination : Fd) (counters : CounterSet)
    (maxChunk copied : Nat) (world : World) : Option SpliceOutcome :=
  match world.checkoutPipe pool with
  | (.error fault, world) =>
    some ⟨.ok .notHandled, copied, world.notice (.fallback fault.message 0)⟩
  | (.ok pipe, world) =>
    match Piping.chunks source destination counters (max maxChunk 1) copied calls
      ⟨pipe, copied, world⟩ with
    | none => none
    | some (result, piping) =>
      some ⟨result, piping.copied, piping.world.checkinPipe pool piping.pipe⟩

end Conduit
