import Conduit.Bench.Storage

set_option autoImplicit false

namespace Conduit

namespace Bench

def readerEnd (name : String) (shown : Shown) (cues : List ReadCue) (finale : ReadFinale) :
    Work Inlet := do
  return .peer ⟨← newPeer name shown, cues, finale⟩

def descriptorInlet (descriptor : Descriptor) : Work Inlet := do
  return .descriptor (← openDescriptor descriptor)

/-- A source that reads a buffer, which is taken off the bench. -/
def bufferInlet (buffer : String) : Work Inlet := do
  return .buffer (← take Part.buffer? buffer)

def writerEnd (name : String) (shown : Shown) (part : PeerId → RehearsedWriter) :
    Work (PeerId × Outlet) := do
  let peer ← newPeer name shown
  return (peer, ⟨0, .peer (part peer)⟩)

def descriptorOutlet (descriptor : Descriptor) : Work Outlet := do
  return ⟨0, .descriptor (← openDescriptor descriptor)⟩

/-- A sink with a descriptor at its end, of which it is remembered what it receives. -/
def recordingDescriptor (name : String) (descriptor : Descriptor) : Work Outlet := do
  let fd ← openDescriptor descriptor
  addReceipt name (.descriptor fd)
  return ⟨0, .descriptor fd⟩

/-- A sink that fills a shared buffer, of which it is one more owner. -/
def sharedOutlet (name : String) : Work Outlet := do
  let handle ← find Part.handle? name
  setWorld ((← theWorld).retain handle)
  return ⟨0, .shared handle⟩

/-- Work on a source, which stays on the bench. -/
def onInlet {α : Type} (name : String) (act : Inlet → World → α × Inlet × World) : Work α := do
  let inlet ← find Part.inlet? name
  let (value, inlet, world) := act inlet (← theWorld)
  setWorld world
  keep name (.inlet inlet)
  return value

/-- Work on a sink, which stays on the bench. -/
def onOutlet {α : Type} (name : String) (act : Outlet → World → α × Outlet × World) :
    Work α := do
  let outlet ← find Part.outlet? name
  let (value, outlet, world) := act outlet (← theWorld)
  setWorld world
  keep name (.outlet outlet)
  return value

def callInlet {α : Type} (name : String) (act : Inlet → World → Called Inlet α) :
    Work (Except IoFault α) :=
  onInlet name fun inlet world =>
    let called := act inlet world
    (called.answer, called.after, called.world)

def callOutlet {α : Type} (name : String) (act : Outlet → World → Called Outlet α) :
    Work (Except IoFault α) :=
  onOutlet name fun outlet world =>
    let called := act outlet world
    (called.answer, called.after, called.world)

/-- Puts buffers of the bench in front of a source. -/
def cacheBuffers (name : String) (buffers : List String) : Work Unit := do
  let handles ← buffers.mapM takeHandle
  onInlet name fun inlet world => ((), inlet.cacheAll handles world)

/-- The number of owners of a shared buffer, and the bytes it holds. -/
def sight (handle : SharedId) : Work (Nat × Bytes) := do
  let world ← theWorld
  return (world.owners handle, (world.shared handle).unread)

/-- Takes the outermost cached buffer off a source, and shows it as it was before it got its name.
-/
def pickBuffer (name target : String) : Work (Option (Nat × Bytes)) := do
  match ← onInlet name fun inlet world =>
    let (inlet, picked) := inlet.pick
    (picked, inlet, world) with
  | none => return none
  | some handle =>
    let seen ← sight handle
    place target (.handle handle)
    return some seen

/-- Takes every cached buffer off a source, and shows them as they were before they got their names,
which are a stem and a number. -/
def pickBuffers (name stem : String) : Work (List (Nat × Bytes)) := do
  let handles ← onInlet name fun inlet world =>
    let (inlet, handles, world) := inlet.pickAll world
    (handles, inlet, world)
  let seen ← handles.mapM sight
  for (handle, index) in handles.zipIdx do
    place (stem ++ toString index) (.handle handle)
  return seen

def fillBuffer (buffer source : String)
    (fill : Buffer → Inlet → World → Option (Filled RehearsedReader)) :
    Work (Except BufferFault Nat) := do
  let stock ← readBuffer buffer
  let inlet ← find Part.inlet? source
  let filled ← ended (fill stock inlet (← theWorld))
  setWorld filled.world
  keep source (.inlet filled.source)
  keepBuffer buffer filled.buffer
  return filled.result

def drainBuffer (buffer sink : String) (drain : Buffer → Outlet → World → Option (Drained Outlet)) :
    Work (Except BufferFault Nat) := do
  let stock ← readBuffer buffer
  let outlet ← find Part.outlet? sink
  let drained ← ended (drain stock outlet (← theWorld))
  setWorld drained.world
  keep sink (.outlet drained.sink)
  keepBuffer buffer drained.buffer
  return drained.result

def pullThrough (sink source : String) : Work (Option (Except IoFault Nat)) := do
  let outlet ← find Part.outlet? sink
  let inlet ← find Part.inlet? source
  match AnySink.pull allowance.retries allowance.rounds outlet inlet (← theWorld) with
  | .unsupported => return none
  | .unfinished => throw .endless
  | .finished result inlet outlet world =>
    setWorld world
    keep source (.inlet inlet)
    keep sink (.outlet outlet)
    return some result

end Bench

end Conduit
