import Conduit.World.Basic

set_option autoImplicit false

namespace Conduit

namespace World

/-- Makes a pool, whose number is `world.pools.next`. -/
def addPool (world : World) (size maxRetained : Nat) : World :=
  { world with pools := world.pools.add (.new size maxRetained) }

def recycle (world : World) (pool : PoolId) (storage : Bytes) : World :=
  { world with pools := world.pools.update pool (·.recycle storage) }

/-- Frees a buffer: its storage goes back to the pool that owns it. -/
def freeBuffer (world : World) (buffer : Buffer) : Buffer × World :=
  match buffer.free with
  | (buffer, none) => (buffer, world)
  | (buffer, some (pool, storage)) => (buffer, world.recycle pool storage)

/-- Lets go of a buffer for good. -/
def dropBuffer (world : World) (buffer : Buffer) : World := (world.freeBuffer buffer).2

/-- An empty buffer of a size from a pool: over the storage put back last, or over a new one. A
size that the pool does not serve gets a storage that no pool owns. -/
def takeBuffer (world : World) (pool : PoolId) (size : Nat) : Buffer × World :=
  let row := world.pools.get pool
  if row.serves size then
    match row.idle with
    | storage :: rest =>
      (.ofStorage storage size pool,
        { world with pools := world.pools.put pool { row with idle := rest } })
    | [] =>
      (.ofStorage (List.replicate row.size 0) size pool, world.notice (.poolMiss row.size))
  else (.zeroed size, world)

/-- Puts a buffer back into a pool. A buffer of another pool, or of none, loses its storage. -/
def putBuffer (world : World) (pool : PoolId) (buffer : Buffer) : World :=
  if buffer.owner = some pool then world.dropBuffer buffer else world

/-- Turns a buffer into a shared one with one owner, whose number is `world.cells.next`. -/
def share (world : World) (buffer : Buffer) : SharedId × World :=
  (world.cells.next, { world with cells := world.cells.add ⟨buffer, 1⟩ })

def shared (world : World) (handle : SharedId) : Buffer := (world.cells.get handle).buffer

/-- How many handles on a shared buffer are alive. -/
def owners (world : World) (handle : SharedId) : Nat := (world.cells.get handle).owners

/-- Leaves a buffer behind a handle as an operation on it made it. -/
def setShared (world : World) (handle : SharedId) (buffer : Buffer) : World :=
  { world with cells := world.cells.update handle fun cell => { cell with buffer } }

def retain (world : World) (handle : SharedId) : World :=
  { world with cells := world.cells.update handle fun cell =>
      { cell with owners := cell.owners + 1 } }

/-- One owner lets go; the last one frees the buffer. -/
def release (world : World) (handle : SharedId) : World :=
  let cell := world.cells.get handle
  if cell.owners = 1 then
    { world with cells := world.cells.put handle default }.dropBuffer cell.buffer
  else
    { world with cells := world.cells.put handle { cell with owners := cell.owners - 1 } }

/-- Gives the buffer back to its only owner, whose handle is spent; with several owners nothing
changes. -/
def takeShared (world : World) (handle : SharedId) : Option (Buffer × World) :=
  let cell := world.cells.get handle
  if cell.owners = 1 then
    some (cell.buffer, { world with cells := world.cells.put handle default })
  else none

def readShared (world : World) (handle : SharedId) (wanted : Nat) : Bytes × World :=
  let (bytes, buffer) := (world.shared handle).read wanted
  (bytes, world.setShared handle buffer)

def describeShared (world : World) (handle : SharedId) : String :=
  "SharedBuffer \x7b owners: " ++ toString (world.owners handle) ++ ", buffer: " ++
    (world.shared handle).describe ++ " \x7d"

end World

end Conduit
