import Conduit.Buffer.Basic
import Conduit.Journal
import Conduit.Kernel
import Conduit.Table

set_option autoImplicit false

namespace Conduit

/-- Idle storages of one size. -/
structure Pool where
  size : Nat
  /-- How many idle storages are kept. -/
  maxRetained : Nat
  /-- The idle storages, the last one put back first. -/
  idle : List Bytes
  deriving Repr

namespace Pool

/-- Storages of this size or more are never kept. -/
def pooledBelow : Nat := 65536

/-- A pool without idle storages. -/
def new (size maxRetained : Nat) : Pool := ⟨size, maxRetained, []⟩

instance : Inhabited Pool := ⟨new 0 0⟩

def isPooling (pool : Pool) : Bool :=
  decide (0 < pool.size ∧ pool.size < pooledBelow ∧ 0 < pool.maxRetained)

/-- The pool has a storage for this many bytes, idle or new. -/
def serves (pool : Pool) (size : Nat) : Bool := pool.isPooling && decide (size ≤ pool.size)

/-- Takes a storage back, if it is of the pool's size and there is room for it. -/
def recycle (pool : Pool) (storage : Bytes) : Pool :=
  if storage.length = pool.size ∧ pool.isPooling ∧ pool.idle.length < pool.maxRetained then
    { pool with idle := storage :: pool.idle }
  else pool

end Pool

abbrev SharedId := Nat

abbrev PipePoolId := Nat

/-- A buffer with several owners. -/
structure Cell where
  buffer : Buffer
  /-- How many handles on it are alive. -/
  owners : Nat
  deriving Repr

instance : Inhabited Cell := ⟨⟨.hollow, 0⟩⟩

/-- A pipe, and the bytes that its user believes to be in it. -/
structure Pipe where
  id : PipeId
  /-- The bytes put in and not yet taken out, by its user's account. -/
  pending : Nat
  deriving DecidableEq, Repr

structure PipePool where
  /-- How many idle pipes are kept. -/
  maxIdle : Nat
  /-- The idle pipes, the last one put back first. -/
  idle : List Pipe
  created : Nat
  /-- Times an idle pipe was given out. -/
  reused : Nat
  /-- Times a pipe was put back. -/
  recycled : Nat
  destroyed : Nat
  deriving Repr

def PipePool.new (maxIdle : Nat) : PipePool := ⟨maxIdle, [], 0, 0, 0, 0⟩

instance : Inhabited PipePool := ⟨.new 0⟩

/-- All that endpoints share. -/
structure World where
  pools : Table Pool
  cells : Table Cell
  pipePools : Table PipePool
  kernel : Kernel
  journal : Journal

namespace World

/-- A world in which nothing was made and nothing happened. -/
def initial : World := ⟨.empty, .empty, .empty, .generous, .empty⟩

def record (world : World) (event : Event) : World :=
  { world with journal := world.journal.record event }

def notice (world : World) (notice : Notice) : World := world.record (.noticed notice)

def count (world : World) (counters : List Counter) (bytes : Nat) : World :=
  { world with journal := world.journal.count counters bytes }

def countBoth (world : World) (counters : CounterSet) (bytes : Nat) : World :=
  (world.count counters.read bytes).count counters.write bytes

end World

/-- An endpoint after a call on it. -/
structure Called (τ α : Type) where
  answer : Except IoFault α
  after : τ
  world : World

end Conduit
