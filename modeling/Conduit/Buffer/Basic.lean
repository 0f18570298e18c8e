import Conduit.Bytes
import Conduit.Fault.Basic

set_option autoImplicit false

/- A buffer is a fixed storage cut in three: the bytes already handed out, the unread bytes, and the
rest, of which the part within the buffer's size is free. The storage never grows, and what lies
outside the unread bytes keeps its old contents.

`Buffer.Sound` says that the cursors are in order. Seen as a queue a buffer is its `unread` list. -/
namespace Conduit

abbrev PoolId := Nat

/-- A storage with a read cursor, a write cursor and a size up to which it may be filled. -/
structure Buffer where
  /-- The bytes before the read cursor, the last one handed out first. -/
  spent : Bytes
  unread : Bytes
  /-- The bytes from the write cursor to the end of the storage. -/
  spare : Bytes
  /-- How far the storage may be filled. -/
  size : Nat
  /-- The pool to which the storage goes back. -/
  owner : Option PoolId
  deriving DecidableEq, Repr

namespace Buffer

def zeroed (size : Nat) : Buffer := ⟨[], [], List.replicate size 0, size, none⟩

def ofBytes (bytes : Bytes) : Buffer := ⟨[], bytes, [], bytes.length, none⟩

def ofStorage (storage : Bytes) (size : Nat) (owner : PoolId) : Buffer :=
  ⟨[], [], storage, size, some owner⟩

def hollow : Buffer := ⟨[], [], [], 0, none⟩

instance : Inhabited Buffer := ⟨hollow⟩

/-- The whole storage. -/
def storage (buffer : Buffer) : Bytes :=
  buffer.spent.reverse ++ (buffer.unread ++ buffer.spare)

def capacity (buffer : Buffer) : Nat :=
  buffer.spent.length + buffer.unread.length + buffer.spare.length

def readAt (buffer : Buffer) : Nat := buffer.spent.length

def writeAt (buffer : Buffer) : Nat := buffer.spent.length + buffer.unread.length

/-- How many bytes can still be put in. -/
def freeLen (buffer : Buffer) : Nat := buffer.size - buffer.writeAt

def isEmpty (buffer : Buffer) : Bool := buffer.unread.isEmpty

def isFull (buffer : Buffer) : Bool := buffer.freeLen == 0

/-- A pool owns the storage. -/
def isManaged (buffer : Buffer) : Bool := buffer.owner.isSome

/-- The write cursor is within the size, and the size within the storage. -/
structure Sound (buffer : Buffer) : Prop where
  /-- The write cursor is within the size. -/
  write_le_size : buffer.writeAt ≤ buffer.size
  /-- The size is within the storage. -/
  size_le_capacity : buffer.size ≤ buffer.capacity

/-- The same storage with the cursors at other places. -/
def cutAt (buffer : Buffer) (read write : Nat) : Buffer :=
  let storage := buffer.storage
  { buffer with
    spent := (storage.take read).reverse
    unread := (storage.take write).drop read
    spare := storage.drop write }

/-- Puts bytes behind the unread ones, as far as there is room. -/
def append (buffer : Buffer) (bytes : Bytes) : Buffer :=
  let fitting := bytes.take buffer.freeLen
  { buffer with
    unread := buffer.unread ++ fitting
    spare := buffer.spare.drop fitting.length }

theorem writeAt_append (buffer : Buffer) (bytes : Bytes) :
    (buffer.append bytes).writeAt = buffer.writeAt + min buffer.freeLen bytes.length := by
  simp only [append, writeAt, List.length_append, List.length_take]
  omega

theorem freeLen_append (buffer : Buffer) (bytes : Bytes) :
    (buffer.append bytes).freeLen = buffer.freeLen - bytes.length := by
  have moved := writeAt_append buffer bytes
  have same : (buffer.append bytes).size = buffer.size := rfl
  simp only [freeLen] at moved ⊢
  omega

/-- Hands out up to `count` of the first unread bytes. -/
def consume (buffer : Buffer) (count : Nat) : Buffer :=
  { buffer with
    spent := (buffer.unread.take count).reverse ++ buffer.spent
    unread := buffer.unread.drop count }

/-- The part of the storage that is free, with what it happens to hold. -/
def freeRegion (buffer : Buffer) : Bytes := buffer.spare.take buffer.freeLen

/-- Stores bytes at the start of the free region, as far as they fit, without making them unread. -/
def stash (buffer : Buffer) (bytes : Bytes) : Buffer :=
  let fitting := bytes.take buffer.freeLen
  { buffer with spare := fitting ++ buffer.spare.drop fitting.length }

/-- Makes the first `count` free bytes unread. -/
def commit (buffer : Buffer) (count : Nat) : Except BufferFault Buffer :=
  if buffer.freeLen < count then .error .overflow
  else .ok { buffer with
    unread := buffer.unread ++ buffer.spare.take count
    spare := buffer.spare.drop count }

/-- Changes the size and pulls both cursors back into it. -/
def resize (buffer : Buffer) (size : Nat) : Except BufferFault Buffer :=
  if buffer.capacity < size then .error .overflow
  else
    let write := min buffer.writeAt size
    .ok { buffer.cutAt (min buffer.readAt write) write with size := size }

/-- Keeps the first `count` unread bytes. -/
def truncate (buffer : Buffer) (count : Nat) : Buffer :=
  { buffer with
    unread := buffer.unread.take count
    spare := buffer.unread.drop count ++ buffer.spare }

/-- Moves both cursors to the start. -/
def reset (buffer : Buffer) : Buffer :=
  { buffer with spent := [], unread := [], spare := buffer.storage }

/-- Parts a buffer from its storage. The storage comes with the pool it goes back to; a buffer
that has none left stays as it is. -/
def free (buffer : Buffer) : Buffer × Option (PoolId × Bytes) :=
  if buffer.capacity = 0 then (buffer, none)
  else (hollow, buffer.owner.map fun pool => (pool, buffer.storage))

def read (buffer : Buffer) (wanted : Nat) : Bytes × Buffer :=
  (buffer.unread.take wanted, buffer.consume wanted)

/-- Writes what fits and says how much that was. Nothing to write is no fault even when the buffer
is full. -/
def write (buffer : Buffer) (bytes : Bytes) : Except IoFault Nat × Buffer :=
  if bytes.isEmpty then (.ok 0, buffer)
  else if buffer.isFull then (.error BufferFault.shortBuffer.toIo, buffer)
  else (.ok (min bytes.length buffer.freeLen), buffer.append bytes)

def readByte (buffer : Buffer) : Except BufferFault UInt8 × Buffer :=
  match buffer.unread with
  | [] => (.error .endOfStream, buffer)
  | byte :: _ => (.ok byte, buffer.consume 1)

def writeByte (buffer : Buffer) (byte : UInt8) : Except BufferFault Unit × Buffer :=
  if buffer.isFull then (.error .shortBuffer, buffer) else (.ok (), buffer.append [byte])

/-- Puts all bytes in, or none when they do not all fit. -/
def writeAll (buffer : Buffer) (bytes : Bytes) : Except BufferFault Nat × Buffer :=
  if buffer.freeLen < bytes.length then (.error .shortBuffer, buffer)
  else (.ok bytes.length, buffer.append bytes)

/-- The next `count` unread bytes, which stay unread. -/
def peek (buffer : Buffer) (count : Nat) : Except BufferFault Bytes :=
  if count = 0 then .ok []
  else if buffer.isEmpty then .error .endOfStream
  else if buffer.unread.length < count then .error .overflow
  else .ok (buffer.unread.take count)

/-- Skips up to `count` unread bytes and says how many. -/
def discard (buffer : Buffer) (count : Nat) : Except BufferFault Nat × Buffer :=
  if buffer.isEmpty then (.error .endOfStream, buffer)
  else (.ok (min count buffer.unread.length), buffer.consume count)

/-- The cursors, the size, the storage's length and whether a pool owns it, as a text. -/
def describe (buffer : Buffer) : String :=
  "Buffer \x7b read: " ++ toString buffer.readAt ++ ", write: " ++ toString buffer.writeAt ++
    ", size: " ++ toString buffer.size ++ ", capacity: " ++ toString buffer.capacity ++
    ", managed: " ++ toString buffer.isManaged ++ " \x7d"

end Buffer

end Conduit
