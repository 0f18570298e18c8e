import Conduit.Bench.Ends

set_option autoImplicit false

namespace Conduit

namespace Bench

/-- Puts an engine on the bench, over an allocator and a pool of pipes of the bench where they are
given. -/
def newEngine (name : String) (settings : Settings) (allocator? pipes? : Option String) :
    Work Engine := do
  let allocator ← match allocator? with
    | none => inWorld (Allocator.new settings.buffers)
    | some allocator => find Part.allocator? allocator
  let pipes ← match pipes? with
    | none => inWorld fun world =>
      (world.pipePools.next, world.addPipePool settings.splice.maxIdlePipes)
    | some pipes => find Part.pipes? pipes
  let engine := Engine.withPools settings allocator pipes
  place name (.engine engine)
  return engine

/-- Does work while descriptors can, or cannot, be opened. -/
def whileExhausted {α : Type} (exhausted : Bool) (work : Work α) : Work α := do
  let setExhausted (exhausted : Bool) : Work Unit := do
    let world ← theWorld
    setWorld { world with kernel := { world.kernel with exhausted } }
  setExhausted exhausted
  let value ← work
  setExhausted false
  return value

/-- Copies a source of the bench to a sink of the bench; both are used up. Without a set of counters
those on the two ends are called. -/
def copyThrough (name sink source : String) (counters : Option CounterSet) :
    Work (Except CopyFault Nat) := do
  let engine ← find Part.engine? name
  let outlet ← take Part.outlet? sink
  let inlet ← take Part.inlet? source
  let world ← theWorld
  let outcome ← ended <| match counters with
    | none => engine.copy allowance outlet.2 inlet world
    | some counters => engine.copyCounted allowance outlet.2 inlet counters world
  setWorld outcome.world
  return outcome.result

def newPipes (name : String) (settings : SpliceSettings) : Work Unit := do
  let pool ← inWorld fun world =>
    (world.pipePools.next, world.addPipePool settings.maxIdlePipes)
  place name (.pipes pool)

def prewarm (name : String) (wanted : Nat) : Work (Except IoFault Nat) := do
  let pool ← find Part.pipes? name
  inWorld fun world => world.prewarmPipes pool wanted

def borrowPipe (name target : String) : Work (Except IoFault Pipe) := do
  let pool ← find Part.pipes? name
  let result ← inWorld fun world => world.checkoutPipe pool
  if let .ok pipe := result then place target (.loan ⟨pool, pipe⟩)
  return result

/-- Splices a source of the bench into a sink of the bench; both stay. -/
def spliceThrough (name sink source : String) (counters : CounterSet) (maxChunk start : Nat) :
    Work (Except TransferFault Spliced × Nat) := do
  let pool ← find Part.pipes? name
  let input ← find (fun part => part.inlet?.bind (·.descriptor?)) source
  let output ← find (fun part => part.outlet?.bind (·.2.descriptor?)) sink
  let outcome ← ended
    (spliceCopy allowance.rounds pool input output counters maxChunk start (← theWorld))
  setWorld outcome.world
  return (outcome.result, outcome.copied)

end Bench

end Conduit
