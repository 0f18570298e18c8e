import Conduit.Bench.Basic
import Conduit.Digest

set_option autoImplicit false

namespace Conduit

inductive Figure where
  /-- How many of something there are. -/
  | count (number : Nat)
  /-- The idle storages of each class. -/
  | classes (idle : List Nat)
  /-- The pipes made, given out again, put back, given up and idle. -/
  | pipes (stats : List Nat)
  /-- The idle storages and the pipes of an engine. -/
  | engine (idle stats : List Nat)
  deriving DecidableEq

namespace PipePool

/-- The pipes made, given out again, put back, given up and idle. -/
def stats (pool : PipePool) : List Nat :=
  [pool.created, pool.reused, pool.recycled, pool.destroyed, pool.idle.length]

end PipePool

namespace Allocator

/-- How many storages lie idle in each class. -/
def idle (allocator : Allocator) (world : World) : List Nat :=
  allocator.classes.map fun pool => (world.pools.get pool).idle.length

end Allocator

namespace Part

def figure? (world : World) : Part → Option Figure
  | .pool row => some (.count (world.pools.get row).idle.length)
  | .allocator pools => some (.classes (pools.idle world))
  | .handle shared => some (.count (world.owners shared))
  | .engine machine =>
    some (.engine (machine.buffers.idle world) (world.pipePool machine.pipes).stats)
  | .pipes row => some (.pipes (world.pipePool row).stats)
  | _ => none

end Part

namespace Journal

def total (journal : Journal) (counter : Counter) : UInt64 :=
  journal.latestFirst.foldl (fun total event => total + UInt64.ofNat (event.tally counter)) 0

end Journal

/-- What a piece of work left behind. -/
structure Observed (α : Type) where
  value : α
  /-- The figures that are new or changed. -/
  figures : List (String × Figure)
  /-- The lines of what happened, equal neighbours put together. -/
  lines : List String
  notices : List Notice

namespace Bench

/-- The name of a live reader or writer, if any of its calls are shown. -/
def shownName? (bench : Bench) (peer : PeerId) : Option String :=
  match bench.labels[peer]? with
  | some label => if label.shown = .nothing then none else some label.name
  | none => none

/-- The record is not one of a flush that is kept out of the log. -/
def shows (bench : Bench) : Event → Bool
  | .flushed peer _ => (bench.labels[peer]?).any fun label => label.shown = .calls
  | _ => true

def figures (bench : Bench) : List (String × Figure) :=
  (bench.parts.entries.filterMap fun (name, part) =>
    (part.figure? bench.world).map fun figure => (name, figure)) ++
  bench.tallies.map fun counter =>
    (counter.name, .count (bench.world.journal.total counter).toNat)

/-- Does work and watches what it leaves behind. -/
def observe {α : Type} (work : Work α) : Work (Observed α) := do
  let before ← get
  let value ← work
  let after ← get
  let events := after.world.journal.since before.world.journal.size
  let known := before.figures
  let lines := (events.filter after.shows).filterMap (Event.line? after.shownName? fun counter =>
    decide (counter ∈ after.tallies))
  return ⟨value, after.figures.filter (· ∉ known), (runs lines).map repeated,
    events.filterMap Event.notice?⟩

/-- The bytes that sinks received, by the names of the sinks. -/
def received (bench : Bench) : List (String × Bytes) :=
  bench.receipts.entries.map fun (name, receipt) =>
    (name, match receipt with
      | .peer peer => bench.world.journal.events.flatMap (Event.delivered peer)
      | .greeting peer => bench.world.journal.events.flatMap (Event.greeting peer)
      | .descriptor fd => (bench.world.kernel.descriptors.get fd).contents)

end Bench

end Conduit
