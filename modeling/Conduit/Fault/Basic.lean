import Conduit.Fault.System

set_option autoImplicit false

namespace Conduit

mutual

/-- What a reader or writer reports. -/
inductive IoFault where
  | plain (kind : FaultKind)
  | system (error : SystemError)
  /-- A kind together with what lies behind it. -/
  | custom (kind : FaultKind) (payload : Payload)

/-- What lies behind a fault of a reader or writer. -/
inductive Payload where
  | text (message : String)
  | buffer (fault : BufferFault)
  | transfer (fault : TransferFault)
  /-- A copy that failed after so many bytes. -/
  | copy (copied : Nat) (cause : TransferFault)

inductive BufferFault where
  /-- The buffer has no room for the bytes asked for. -/
  | shortBuffer
  /-- A size, a count or a cursor goes beyond the storage. -/
  | overflow
  /-- No unread byte is left to hand out. -/
  | endOfStream
  /-- The peer made no progress in too many attempts in a row. -/
  | noProgress
  /-- The reader or writer behind the buffer failed. -/
  | io (fault : IoFault)

inductive TransferFault where
  | buffer (fault : BufferFault)
  /-- A fault of a reader, a writer or the system. -/
  | io (fault : IoFault)
  /-- A fault within a named stage. -/
  | stage (tag : String) (fault : TransferFault)
  | many (faults : List TransferFault)

end

structure CopyFault where
  /-- The bytes that had reached the destination. -/
  copied : Nat
  cause : TransferFault

namespace Stage

def copyEarly : String := "copyEarly"
def copyPure : String := "copyPure"
def handshake : String := "handshake"
def handshakeRead : String := "handshakeRead"
def writeCache : String := "writeCache"
def flush : String := "flush"
def spliceRead : String := "splice read"
def spliceWrite : String := "splice write"

end Stage

namespace IoFault

def kind : IoFault → FaultKind
  | .plain kind => kind
  | .system error => error.kind
  | .custom kind _ => kind

/-- Nothing was moved, and the call may be made again. -/
def isTransient (fault : IoFault) : Bool := fault.kind.isTransient

/-- The call was cut short by a signal. -/
def isInterrupted (fault : IoFault) : Bool := fault.kind == .interrupted

/-- The fault of a buffer that this fault carries, or this fault as the cause of one. -/
def toBuffer : IoFault → BufferFault
  | .custom _ (.buffer fault) => fault
  | fault => .io fault

end IoFault

namespace BufferFault

/-- The kind that a fault has once it crosses to a reader or writer. -/
def kind : BufferFault → FaultKind
  | .shortBuffer => .writeZero
  | .overflow => .invalidInput
  | .endOfStream => .unexpectedEof
  | .noProgress => .other
  | .io fault => fault.kind

def name : BufferFault → String
  | .shortBuffer => "ShortBuffer"
  | .overflow => "Overflow"
  | .endOfStream => "EndOfStream"
  | .noProgress => "NoProgress"
  | .io _ => "Io"

def ofName? (name : String) : Option BufferFault :=
  [.shortBuffer, .overflow, .endOfStream, .noProgress].find? fun fault => fault.name == name

/-- No unread byte was left. -/
def isEndOfStream : BufferFault → Bool
  | .endOfStream => true
  | _ => false

/-- The fault as a reader or writer reports it. -/
def toIo : BufferFault → IoFault
  | .io fault => fault
  | fault => .custom fault.kind (.buffer fault)

def toTransfer : BufferFault → TransferFault
  | .io fault => .io fault
  | fault => .buffer fault

end BufferFault

namespace TransferFault

/-- The fault seen from a stage around it. -/
def within (fault : TransferFault) (tag : String) : TransferFault := .stage tag fault

def stage? : TransferFault → Option String
  | .stage tag _ => some tag
  | _ => none

def stages : TransferFault → List String
  | .stage tag fault => tag :: fault.stages
  | _ => []

def root : TransferFault → TransferFault
  | .stage _ fault => fault.root
  | fault => fault

mutual

/-- The fault says only that a stream ended; several faults do so when each of them does. -/
def isEndOfStream : TransferFault → Bool
  | .buffer fault => fault.isEndOfStream
  | .io _ => false
  | .stage _ fault => fault.isEndOfStream
  | .many faults => !faults.isEmpty && allEndOfStream faults

def allEndOfStream : List TransferFault → Bool
  | [] => true
  | fault :: rest => fault.isEndOfStream && allEndOfStream rest

end

def isNoProgress (fault : TransferFault) : Bool :=
  match fault.root with
  | .buffer .noProgress => true
  | _ => false

def kind (fault : TransferFault) : FaultKind :=
  match fault.root with
  | .buffer fault => fault.kind
  | .io fault => fault.kind
  | _ => .other

/-- The fault as a reader or writer reports it. -/
def toIo : TransferFault → IoFault
  | .io fault => fault
  | .buffer fault => fault.toIo
  | fault => .custom fault.kind (.transfer fault)

theorem allEndOfStream_eq_all (faults : List TransferFault) :
    allEndOfStream faults = faults.all isEndOfStream := by
  induction faults with
  | nil => rw [allEndOfStream]; rfl
  | cons fault rest ih => rw [allEndOfStream, ih, List.all_cons]

theorem isEndOfStream_many (faults : List TransferFault) :
    (many faults).isEndOfStream = (!faults.isEmpty && faults.all isEndOfStream) := by
  rw [isEndOfStream, allEndOfStream_eq_all]

end TransferFault

namespace IoFault

/-- The fault of a transfer that this fault carries, or else what it says as one. -/
def toTransfer : IoFault → TransferFault
  | .custom _ (.transfer fault) => fault
  | fault => fault.toBuffer.toTransfer

end IoFault

namespace CopyFault

/-- A failed copy as a reader or writer reports it. -/
def toIo (fault : CopyFault) : IoFault :=
  .custom fault.cause.kind (.copy fault.copied fault.cause)

end CopyFault

end Conduit
