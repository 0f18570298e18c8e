import Conduit.World.Storage

set_option autoImplicit false

namespace Conduit

structure BufferSettings where
  classSizes : List Nat
  /-- How many idle storages each pool keeps. -/
  maxRetained : Nat
  /-- The size of buffers for handshakes. -/
  standardSize : Nat
  /-- The size of buffers for the bulk of a copy. -/
  hugeSize : Nat
  deriving DecidableEq, Repr

structure Allocator where
  classes : List PoolId
  /-- The size of buffers for handshakes. -/
  standardSize : Nat
  /-- The size of buffers for the bulk of a copy. -/
  hugeSize : Nat
  deriving DecidableEq, Repr

namespace Allocator

/-- The smallest buffer, where there is no pool. -/
def minimalSize : Nat := 512

/-- Puts a size into an ascending list, unless it is there already. -/
def insertSize (size : Nat) : List Nat → List Nat
  | [] => [size]
  | first :: rest =>
    if size < first then size :: first :: rest
    else if size = first then first :: rest
    else first :: insertSize size rest

/-- The sizes for which there are pools: ascending, without zeros and repetitions. -/
def poolSizes (sizes : List Nat) : List Nat :=
  (sizes.filter (0 < ·)).foldr insertSize []

def new (settings : BufferSettings) (world : World) : Allocator × World :=
  let sizes := poolSizes settings.classSizes
  let first := world.pools.next
  (⟨(List.range sizes.length).map (first + ·), settings.standardSize, settings.hugeSize⟩,
    sizes.foldl (fun world size => world.addPool size settings.maxRetained) world)

def alloc (allocator : Allocator) (size : Nat) (world : World) : Buffer × World :=
  match allocator.classes.find? fun pool => (world.pools.get pool).serves size with
  | some pool => world.takeBuffer pool size
  | none => (.zeroed size, world)

def minimal (allocator : Allocator) (world : World) : Buffer × World :=
  match allocator.classes with
  | [] => allocator.alloc minimalSize world
  | pool :: _ => allocator.alloc (world.pools.get pool).size world

def standard (allocator : Allocator) (world : World) : Buffer × World :=
  allocator.alloc allocator.standardSize world

def huge (allocator : Allocator) (world : World) : Buffer × World :=
  allocator.alloc allocator.hugeSize world

/-- Puts a buffer back. A buffer of no pool of the allocator loses its storage. -/
def put (allocator : Allocator) (buffer : Buffer) (world : World) : World :=
  match allocator.classes.find? fun pool => buffer.owner == some pool with
  | some pool => world.putBuffer pool buffer
  | none => world

end Allocator

end Conduit
