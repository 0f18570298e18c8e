import Conduit.Bench.Basic

set_option autoImplicit false

namespace Conduit

namespace Bench

def placeBuffer (name : String) (buffer : Buffer) : Work Buffer := do
  place name (.buffer buffer)
  return buffer

def newPool (name : String) (size maxRetained : Nat) : Work Unit := do
  let pool ← inWorld fun world => (world.pools.next, world.addPool size maxRetained)
  place name (.pool pool)

def poolRow (name : String) : Work Pool := do
  let pool ← find Part.pool? name
  return (← theWorld).pools.get pool

def takeFromPool (name : String) (size? : Option Nat) (target : String) : Work Buffer := do
  let pool ← find Part.pool? name
  let size := size?.getD ((← theWorld).pools.get pool).size
  placeBuffer target (← inWorld fun world => world.takeBuffer pool size)

def putIntoPool (name buffer : String) : Work Unit := do
  let pool ← find Part.pool? name
  let buffer ← take Part.buffer? buffer
  setWorld ((← theWorld).putBuffer pool buffer)

def newAllocator (name : String) (settings : BufferSettings) : Work Unit := do
  let allocator ← inWorld (Allocator.new settings)
  place name (.allocator allocator)

def allocatorRows (name : String) : Work (List Pool) := do
  let allocator ← find Part.allocator? name
  let world ← theWorld
  return allocator.classes.map world.pools.get

def takeFromAllocator (name : String) (request : Allocator → World → Buffer × World)
    (target : String) : Work Buffer := do
  let allocator ← find Part.allocator? name
  placeBuffer target (← inWorld (request allocator))

def putIntoAllocator (name buffer : String) : Work Unit := do
  let allocator ← find Part.allocator? name
  let buffer ← take Part.buffer? buffer
  setWorld (allocator.put buffer (← theWorld))

def shareBuffer (buffer name : String) : Work SharedId := do
  let buffer ← take Part.buffer? buffer
  let handle ← inWorld fun world => world.share buffer
  place name (.handle handle)
  return handle

/-- One more handle on a shared buffer. It counts as an owner before the part that had its name is
let go; the answer is the number of owners at that moment. -/
def retainHandle (name target : String) : Work Nat := do
  let handle ← find Part.handle? name
  setWorld ((← theWorld).retain handle)
  let owners := (← theWorld).owners handle
  place target (.handle handle)
  return owners

def releaseHandle (name : String) : Work Unit := do
  let handle ← take Part.handle? name
  setWorld ((← theWorld).release handle)

/-- Turns a shared buffer back into a buffer; with several owners it says how many there are, and
nothing changes. -/
def unshareBuffer (name target : String) : Work (Except Nat Buffer) := do
  let handle ← find Part.handle? name
  let world ← theWorld
  match world.takeShared handle with
  | none => return .error (world.owners handle)
  | some (buffer, world) =>
    setWorld world
    let _ ← take Part.handle? name
    return .ok (← placeBuffer target buffer)

def takeHandle (name : String) : Work SharedId := do
  match ← take some name with
  | .handle handle => return handle
  | .buffer buffer => inWorld fun world => world.share buffer
  | _ => throw (.unknown name)

def readBuffer (name : String) : Work Buffer := do
  match ← find some name with
  | .buffer buffer => return buffer
  | .handle handle => return (← theWorld).shared handle
  | _ => throw (.unknown name)

def keepBuffer (name : String) (buffer : Buffer) : Work Unit := do
  match ← find some name with
  | .handle handle => setWorld ((← theWorld).setShared handle buffer)
  | _ => keep name (.buffer buffer)

/-- An operation on a buffer that needs nothing else. -/
def onBuffer {α : Type} (name : String) (act : Buffer → α × Buffer) : Work α := do
  let (value, buffer) := act (← readBuffer name)
  keepBuffer name buffer
  return value

/-- An operation that makes another buffer of one, or fails and leaves it. -/
def tryBuffer {ε : Type} (name : String) (act : Buffer → Except ε Buffer) :
    Work (Except ε Unit) :=
  onBuffer name fun buffer =>
    match act buffer with
    | .ok buffer => (.ok (), buffer)
    | .error fault => (.error fault, buffer)

/-- Frees a buffer, which stays on the bench without its storage. -/
def freeBuffer (name : String) : Work Unit := do
  let buffer ← readBuffer name
  keepBuffer name (← inWorld fun world => world.freeBuffer buffer)

end Bench

end Conduit
