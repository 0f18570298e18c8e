import Conduit.Bench.Ends
import Conduit.Closing

set_option autoImplicit false

namespace Conduit

namespace Bench

/-- Puts a write buffer in front of a sink of the bench, over a buffer of the bench if one is given.
-/
def newStaged (name sink : String) (buffer? : Option String) (closeFault : Option IoFault) :
    Work Unit := do
  let outlet ← take Part.outlet? sink
  let staged ← match buffer? with
    | none => pure (Staged.new outlet)
    | some buffer => do pure ⟨outlet, ← take Part.buffer? buffer⟩
  place name (.stagedOutlet ⟨← newPeer name .calls, closeFault, staged⟩)

/-- A call on a write buffer, which stays on the bench. -/
def callStaged {α : Type} (name : String)
    (act : StagedOutlet → World → Option (Called (Staged Outlet) α)) : Work (Except IoFault α) := do
  let outlet ← find Part.stagedOutlet? name
  let called ← ended (act outlet (← theWorld))
  setWorld called.world
  keep name (.stagedOutlet { outlet with staged := called.after })
  return called.answer

def gathered (name : String) : Work Bytes := do
  return (← find Part.stagedOutlet? name).staged.buffer.unread

/-- Moves everything from a source of the bench through a write buffer. -/
def moveThrough (name source : String) : Work (Except IoFault Nat) := do
  let outlet ← find Part.stagedOutlet? name
  let inlet ← find Part.inlet? source
  match Staged.readFrom AnySink.write allowance.retries allowance.rounds
    (AnySink.pull allowance.retries allowance.rounds) outlet.staged inlet (← theWorld) with
  | .finished result inlet staged world =>
    setWorld world
    keep source (.inlet inlet)
    keep name (.stagedOutlet { outlet with staged })
    return result
  | .unsupported | .unfinished => throw .endless

/-- Sends the gathered bytes out and takes the sink back. After a fault both are gone. -/
def unstage (name target : String) : Work (Except IoFault Unit) := do
  let outlet ← take Part.stagedOutlet? name
  let freed := Staged.free AnySink.write outlet.staged (← theWorld)
  match freed.answer with
  | .ok () =>
    setWorld (freed.world.dropBuffer freed.after.buffer)
    place target (.outlet freed.after.inner)
  | .error _ =>
    setWorld (Part.letGo freed.world (.stagedOutlet { outlet with staged := freed.after }))
  return freed.answer

/-- Turns a write buffer into a sink. -/
def boxStaged (name target : String) : Work Unit := do
  place target (.outlet (Sink.gathered (← take Part.stagedOutlet? name).staged))

end Bench

end Conduit
