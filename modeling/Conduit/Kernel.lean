import Conduit.Bytes
import Conduit.Fault.Basic
import Conduit.Table

set_option autoImplicit false

namespace Conduit

/-- The number of an open descriptor. -/
abbrev Fd := Nat

abbrev PipeId := Nat

structure Descriptor where
  /-- The bytes that reading still delivers. -/
  incoming : Bytes
  /-- Once these are gone reading waits for more, instead of ending. -/
  staysOpen : Bool
  /-- Every read fails with this error. -/
  readError : Option SystemError
  /-- What the file held before anything was written. -/
  initial : Bytes
  /-- Writes go to the end of the file; the kernel refuses to splice into such a descriptor. -/
  appends : Bool
  /-- Every write fails with this error, even one of no bytes. -/
  writeError : Option SystemError
  /-- Every write of at least one byte fails with this error. -/
  obstacle : Option SystemError
  /-- The bytes written, the last piece first. -/
  pieces : List Bytes

namespace Descriptor

/-- A descriptor that delivers nothing and takes everything. -/
def blank : Descriptor :=
  ⟨[], false, none, [], false, none, none, []⟩

instance : Inhabited Descriptor := ⟨blank⟩

def delivering (bytes : Bytes) : Descriptor := { blank with incoming := bytes }

def unreadable : Descriptor := { blank with readError := some .badDescriptor }

def file (contents : Bytes) : Descriptor := { blank with initial := contents }

def unwritable : Descriptor := { blank with writeError := some .badDescriptor }

def received (descriptor : Descriptor) : Bytes := descriptor.pieces.reverse.flatten

/-- What the file holds: the bytes written stand at its end, or else at its start over the old
ones. -/
def contents (descriptor : Descriptor) : Bytes :=
  let received := descriptor.received
  if descriptor.appends then descriptor.initial ++ received
  else received ++ descriptor.initial.drop received.length

def receive (descriptor : Descriptor) (bytes : Bytes) : Descriptor :=
  { descriptor with pieces := bytes :: descriptor.pieces }

def deliver (descriptor : Descriptor) (count : Nat) : Descriptor :=
  { descriptor with incoming := descriptor.incoming.drop count }

@[simp] theorem received_receive (descriptor : Descriptor) (bytes : Bytes) :
    (descriptor.receive bytes).received = descriptor.received ++ bytes := by
  simp [receive, received]

end Descriptor

inductive KernelCall where
  | openPipe
  | spliceIn
  | spliceOut
  | readPipe
  | read
  | write
  | wait
  deriving DecidableEq, Repr

/-- How a call turns out, as far as the descriptors leave it open. -/
inductive Verdict where
  /-- The call is made, and moves at most this many bytes, but at least one. -/
  | grants (limit : Nat)
  /-- The call fails and moves nothing. -/
  | refuses (error : SystemError)
  deriving DecidableEq, Repr

structure Kernel where
  /-- The open descriptors. -/
  descriptors : Table Descriptor
  /-- The bytes that each pipe holds. -/
  pipes : Table Bytes
  /-- No descriptor can be opened any more. -/
  exhausted : Bool
  /-- How many calls were decided. -/
  calls : Nat
  /-- The verdict on each call, by its number and kind. -/
  verdict : Nat → KernelCall → Verdict

namespace Kernel

/-- A kernel without descriptors that grants every call in full. -/
def generous : Kernel := ⟨.empty, .empty, false, 0, fun _ _ => .grants (1 <<< 64)⟩

/-- Opens a descriptor, whose number is `kernel.descriptors.next`. -/
def openDescriptor (kernel : Kernel) (descriptor : Descriptor) : Kernel :=
  { kernel with descriptors := kernel.descriptors.add descriptor }

def ruling (kernel : Kernel) (call : KernelCall) : Verdict := kernel.verdict kernel.calls call

def tick (kernel : Kernel) : Kernel := { kernel with calls := kernel.calls + 1 }

/-- How many of `count` bytes a granted call moves. -/
def granted (limit count : Nat) : Nat := min count (max limit 1)

/-- Makes an empty pipe, and gives its number. -/
def openPipe (kernel : Kernel) : Except SystemError PipeId × Kernel :=
  if kernel.exhausted then (.error .tooManyOpenFiles, kernel.tick)
  else match kernel.ruling .openPipe with
    | .refuses error => (.error error, kernel.tick)
    | .grants _ =>
      (.ok kernel.pipes.next, { kernel.tick with pipes := kernel.pipes.add [] })

/-- What keeps a descriptor from delivering right now. A read of no bytes is kept waiting too. -/
def readBlock (descriptor : Descriptor) : Option SystemError :=
  match descriptor.readError with
  | some error => some error
  | none => if descriptor.incoming.isEmpty && descriptor.staysOpen then some .tryAgain else none

/-- What keeps a descriptor from taking `offered` bytes right now. -/
def writeBlock (descriptor : Descriptor) (offered : Nat) : Option SystemError :=
  match descriptor.writeError with
  | some error => some error
  | none => if offered = 0 then none else descriptor.obstacle

/-- Reads up to `wanted` bytes; no byte means that the descriptor ended. -/
def read (kernel : Kernel) (fd : Fd) (wanted : Nat) : Except SystemError Bytes × Kernel :=
  let descriptor := kernel.descriptors.get fd
  match kernel.ruling .read, readBlock descriptor with
  | .refuses error, _ => (.error error, kernel.tick)
  | .grants _, some error => (.error error, kernel.tick)
  | .grants limit, none =>
    let moved := descriptor.incoming.take (granted limit wanted)
    (.ok moved, { kernel.tick with
      descriptors := kernel.descriptors.put fd (descriptor.deliver moved.length) })

/-- Writes up to all of `bytes` and says how many went out. -/
def write (kernel : Kernel) (fd : Fd) (bytes : Bytes) : Except SystemError Nat × Kernel :=
  let descriptor := kernel.descriptors.get fd
  match kernel.ruling .write, writeBlock descriptor bytes.length with
  | .refuses error, _ => (.error error, kernel.tick)
  | .grants _, some error => (.error error, kernel.tick)
  | .grants limit, none =>
    let moved := bytes.take (granted limit bytes.length)
    (.ok moved.length, { kernel.tick with
      descriptors := kernel.descriptors.put fd (descriptor.receive moved) })

/-- Moves up to `wanted` bytes from a descriptor into a pipe; none means that the descriptor
ended. -/
def spliceIn (kernel : Kernel) (fd : Fd) (pipe : PipeId) (wanted : Nat) :
    Except SystemError Nat × Kernel :=
  let descriptor := kernel.descriptors.get fd
  match kernel.ruling .spliceIn, readBlock descriptor with
  | .refuses error, _ => (.error error, kernel.tick)
  | .grants _, some error => (.error error, kernel.tick)
  | .grants limit, none =>
    let moved := descriptor.incoming.take (granted limit wanted)
    (.ok moved.length, { kernel.tick with
      descriptors := kernel.descriptors.put fd (descriptor.deliver moved.length)
      pipes := kernel.pipes.put pipe (kernel.pipes.get pipe ++ moved) })

def spliceOut (kernel : Kernel) (pipe : PipeId) (fd : Fd) (wanted : Nat) :
    Except SystemError Nat × Kernel :=
  let descriptor := kernel.descriptors.get fd
  match kernel.ruling .spliceOut with
  | .refuses error => (.error error, kernel.tick)
  | .grants limit =>
    if descriptor.appends then (.error .invalidArgument, kernel.tick)
    else match writeBlock descriptor wanted with
      | some error => (.error error, kernel.tick)
      | none =>
        let held := kernel.pipes.get pipe
        let moved := held.take (granted limit wanted)
        (.ok moved.length, { kernel.tick with
          descriptors := kernel.descriptors.put fd (descriptor.receive moved)
          pipes := kernel.pipes.put pipe (held.drop moved.length) })

def readPipe (kernel : Kernel) (pipe : PipeId) (wanted : Nat) :
    Except SystemError Bytes × Kernel :=
  match kernel.ruling .readPipe with
  | .refuses error => (.error error, kernel.tick)
  | .grants limit =>
    let held := kernel.pipes.get pipe
    let moved := held.take (granted limit wanted)
    (.ok moved, { kernel.tick with pipes := kernel.pipes.put pipe (held.drop moved.length) })

def notReady : IoFault := .custom .timedOut (.text "descriptor not ready before its deadline")

/-- Waits until a descriptor is ready, unless something keeps it from ever being. -/
def wait (kernel : Kernel) (block : Option SystemError) : Except IoFault Unit × Kernel :=
  match kernel.ruling .wait with
  | .refuses error => (.error (.system error), kernel.tick)
  | .grants _ =>
    (if block = some .tryAgain then .error notReady else .ok (), kernel.tick)

/-- Waits until a descriptor has bytes to deliver. -/
def waitReadable (kernel : Kernel) (fd : Fd) : Except IoFault Unit × Kernel :=
  kernel.wait (readBlock (kernel.descriptors.get fd))

/-- Waits until a descriptor takes bytes. -/
def waitWritable (kernel : Kernel) (fd : Fd) : Except IoFault Unit × Kernel :=
  kernel.wait (writeBlock (kernel.descriptors.get fd) 1)

end Kernel

end Conduit
