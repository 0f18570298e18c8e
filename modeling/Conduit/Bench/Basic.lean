import Conduit.Engine.Copy
import Conduit.Rehearsal
import Conduit.Sink.Pull
import Conduit.Table

set_option autoImplicit false

namespace Conduit

abbrev Inlet := Source RehearsedReader

abbrev Outlet := AnySink RehearsedWriter

/-- A counting layer by itself, with what lies beneath it. -/
structure Metered (τ : Type) where
  counters : List Counter
  total : Nat
  inner : τ

/-- A sink with a write buffer in front, as it stands on the bench. -/
structure StagedOutlet where
  peer : PeerId
  /-- The fault of closing what lies beneath, if there is one. -/
  closeFault : Option IoFault
  staged : Staged Outlet

/-- A pipe in use, and the pool it goes back to. -/
structure Loan where
  pool : PipePoolId
  pipe : Pipe

/-- What a name on the bench stands for. -/
inductive Part where
  | pool (pool : PoolId)
  | allocator (allocator : Allocator)
  | buffer (buffer : Buffer)
  | handle (handle : SharedId)
  | inlet (inlet : Inlet)
  | meteredInlet (metered : Metered Inlet)
  | outlet (outlet : Outlet)
  | meteredOutlet (metered : Metered Outlet)
  | stagedOutlet (outlet : StagedOutlet)
  | engine (engine : Engine)
  | pipes (pool : PipePoolId)
  | loan (loan : Loan)

namespace Part

def pool? : Part → Option PoolId
  | .pool found => some found
  | _ => none

def allocator? : Part → Option Allocator
  | .allocator found => some found
  | _ => none

def buffer? : Part → Option Buffer
  | .buffer found => some found
  | _ => none

def handle? : Part → Option SharedId
  | .handle found => some found
  | _ => none

def inlet? : Part → Option Inlet
  | .inlet found => some found
  | _ => none

def meteredInlet? : Part → Option (Metered Inlet)
  | .meteredInlet found => some found
  | _ => none

def outlet? : Part → Option Outlet
  | .outlet found => some found
  | _ => none

def meteredOutlet? : Part → Option (Metered Outlet)
  | .meteredOutlet found => some found
  | _ => none

def stagedOutlet? : Part → Option StagedOutlet
  | .stagedOutlet found => some found
  | _ => none

def engine? : Part → Option Engine
  | .engine found => some found
  | _ => none

def pipes? : Part → Option PipePoolId
  | .pipes found => some found
  | _ => none

/-- Lets go of a part: buffers are freed, owners let go, and a pipe goes back to its pool. -/
def letGo (world : World) : Part → World
  | .buffer stock => world.dropBuffer stock
  | .handle shared => world.release shared
  | .inlet source => source.drop world
  | .meteredInlet metered => metered.inner.drop world
  | .outlet sink => sink.2.drop world
  | .meteredOutlet metered => metered.inner.2.drop world
  | .stagedOutlet sink => (Sink.gathered sink.staged).2.drop world
  | .loan lent => world.checkinPipe lent.pool lent.pipe
  | .pool _ | .allocator _ | .engine _ | .pipes _ => world

end Part

/-- Which calls of a live reader or writer are shown in the log. -/
inductive Shown where
  | nothing
  | transfers
  | calls
  deriving DecidableEq, Repr

/-- How a live reader or writer is shown. -/
structure PeerLabel where
  name : String
  shown : Shown

/-- Where the bytes that a sink received are found. -/
inductive Receipt where
  | peer (peer : PeerId)
  | greeting (peer : PeerId)
  | descriptor (fd : Fd)

structure Bench where
  world : World
  parts : Named Part
  /-- The labels of live readers and writers, by their numbers. -/
  labels : List PeerLabel
  /-- Where sinks left what they received. -/
  receipts : Named Receipt
  /-- The counters that only keep a total. -/
  tallies : List Counter

/-- Why work on the bench cannot be done. -/
inductive BenchFault where
  | unknown (name : String)
  | endless

abbrev Work := StateT Bench (Except BenchFault)

namespace Bench

def empty : Bench := ⟨.initial, .empty, [], .empty, []⟩

/-- How patient work is with ends that never come to an end. -/
def allowance : Allowance := ⟨1 <<< 40, 1 <<< 40⟩

def theWorld : Work World := return (← get).world

def setWorld (world : World) : Work Unit := modify fun bench => { bench with world }

/-- Changes the world and keeps what comes of it. -/
def inWorld {α : Type} (act : World → α × World) : Work α := do
  let (value, world) := act (← theWorld)
  setWorld world
  return value

def ended {α : Type} : Option α → Work α
  | some value => return value
  | none => throw .endless

def find {α : Type} (view : Part → Option α) (name : String) : Work α := do
  match ((← get).parts.get? name).bind view with
  | some value => return value
  | none => throw (.unknown name)

/-- Leaves a part under its name as work on it made it. -/
def keep (name : String) (part : Part) : Work Unit :=
  modify fun bench => { bench with parts := bench.parts.put name part }

def take {α : Type} (view : Part → Option α) (name : String) : Work α := do
  let value ← find view name
  modify fun bench => { bench with parts := bench.parts.erase name }
  return value

def place (name : String) (part : Part) : Work Unit := do
  let earlier := (← get).parts.get? name
  keep name part
  if let some earlier := earlier then setWorld (earlier.letGo (← theWorld))

def discard (name : String) : Work Bool := do
  match (← get).parts.get? name with
  | none => return false
  | some part =>
    let _ ← take some name
    setWorld (part.letGo (← theWorld))
    return true

/-- The number of a new live reader or writer. -/
def newPeer (name : String) (shown : Shown) : Work PeerId := do
  let labels := (← get).labels
  modify fun bench => { bench with labels := labels ++ [⟨name, shown⟩] }
  return labels.length

/-- Remembers where a sink leaves what it receives. -/
def addReceipt (name : String) (receipt : Receipt) : Work Unit :=
  modify fun bench => { bench with receipts := bench.receipts.put name receipt }

/-- Has a counter keep a total, and nothing else. -/
def addTally (counter : Counter) : Work Unit :=
  modify fun bench =>
    if counter ∈ bench.tallies then bench
    else { bench with tallies := bench.tallies ++ [counter] }

/-- Opens a descriptor. -/
def openDescriptor (descriptor : Descriptor) : Work Fd :=
  inWorld fun world =>
    (world.kernel.descriptors.next,
      { world with kernel := world.kernel.openDescriptor descriptor })

end Bench

end Conduit
