import Conduit.Bench.Ends

set_option autoImplicit false

namespace Conduit

namespace Metered

def source (metered : Metered Inlet) : Inlet :=
  .counted metered.counters metered.total metered.inner

def sink (metered : Metered Outlet) : Outlet :=
  ⟨_, .counted metered.counters metered.total metered.inner.2⟩

def ofSource : Inlet → Option (Metered Inlet)
  | .counted counters total inner => some ⟨counters, total, inner⟩
  | _ => none

def ofSink : Outlet → Option (Metered Outlet)
  | ⟨_, .counted counters total inner⟩ => some ⟨counters, total, ⟨_, inner⟩⟩
  | _ => none

theorem ofSource_source (metered : Metered Inlet) : ofSource metered.source = some metered := rfl

theorem ofSink_sink (metered : Metered Outlet) : ofSink metered.sink = some metered := rfl

end Metered

namespace Bench

/-- Puts a counting layer around a source of the bench. -/
def meterInlet (source name : String) (counters : List Counter) : Work Unit := do
  place name (.meteredInlet ⟨counters, 0, ← take Part.inlet? source⟩)

/-- Puts a counting layer around a sink of the bench. -/
def meterOutlet (sink name : String) (counters : List Counter) : Work Unit := do
  place name (.meteredOutlet ⟨counters, 0, ← take Part.outlet? sink⟩)

def callMeteredInlet {α : Type} (name : String) (act : Inlet → World → Called Inlet α) :
    Work (Except IoFault α × Nat) := do
  let metered ← find Part.meteredInlet? name
  let called := act metered.source (← theWorld)
  setWorld called.world
  let after := (Metered.ofSource called.after).getD metered
  keep name (.meteredInlet after)
  return (called.answer, after.total)

def callMeteredOutlet {α : Type} (name : String) (act : Outlet → World → Called Outlet α) :
    Work (Except IoFault α × Nat) := do
  let metered ← find Part.meteredOutlet? name
  let called := act metered.sink (← theWorld)
  setWorld called.world
  let after := (Metered.ofSink called.after).getD metered
  keep name (.meteredOutlet after)
  return (called.answer, after.total)

/-- Turns a metered source into a source. -/
def unmeterInlet (name target : String) (view : Metered Inlet → Inlet) : Work Unit := do
  place target (.inlet (view (← take Part.meteredInlet? name)))

/-- Turns a metered sink into a sink. -/
def unmeterOutlet (name target : String) (view : Metered Outlet → Outlet) : Work Unit := do
  place target (.outlet (view (← take Part.meteredOutlet? name)))

end Bench

end Conduit
