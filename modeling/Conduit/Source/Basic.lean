import Conduit.Journal
import Conduit.World.Storage

set_option autoImplicit false

namespace Conduit

/-- Where bytes come from. -/
inductive Source (ρ : Type) where
  | peer (reader : ρ)
  | descriptor (fd : Fd)
  /-- A buffer, which ends when it is read out. -/
  | buffer (stock : Buffer)
  /-- A cached buffer in front, until it is handed out, and the fault that the next read reports. -/
  | cached (layer : Option SharedId) (deferred : Option IoFault) (inner : Source ρ)
  /-- Counters, called for every read, and the bytes read so far. -/
  | counted (counters : List Counter) (total : Nat) (inner : Source ρ)
  /-- Hides all abilities of what lies beneath. -/
  | plain (inner : Source ρ)

namespace Source

variable {ρ : Type}

/-- Reads up to `wanted` bytes. A cache layer hands out cached bytes first and fills up from
beneath; a hard fault from beneath then waits for the next read, and a transient one is dropped. -/
def read [ReadPeer ρ] : Source ρ → Nat → World → Called (Source ρ) Bytes
  | .peer reader, wanted, world =>
    let (answer, reader') := ReadPeer.read reader wanted
    let answer := answer.map (·.take wanted)
    ⟨answer, .peer reader', world.record (.read (ReadPeer.id reader) wanted answer)⟩
  | .descriptor fd, wanted, world =>
    let (answer, kernel) := world.kernel.read fd wanted
    ⟨answer.mapError .system, .descriptor fd, { world with kernel }⟩
  | .buffer stock, wanted, world =>
    let (bytes, stock) := stock.read wanted
    ⟨.ok bytes, .buffer stock, world⟩
  | .cached layer (some fault) inner, _, world => ⟨.error fault, .cached layer none inner, world⟩
  | .cached layer none inner, 0, world => ⟨.ok [], .cached layer none inner, world⟩
  | .cached none none inner, wanted + 1, world =>
    let beneath := inner.read (wanted + 1) world
    ⟨beneath.answer, .cached none none beneath.after, beneath.world⟩
  | .cached (some handle) none inner, wanted + 1, world =>
    let (head, world) := world.readShared handle (wanted + 1)
    let drained := (world.shared handle).isEmpty
    let layer := if drained then none else some handle
    let world := if drained then world.release handle else world
    if head.length = wanted + 1 then ⟨.ok head, .cached layer none inner, world⟩
    else
      let beneath := inner.read (wanted + 1 - head.length) world
      match beneath.answer with
      | .ok tail => ⟨.ok (head ++ tail), .cached layer none beneath.after, beneath.world⟩
      | .error fault =>
        if head.isEmpty then ⟨.error fault, .cached layer none beneath.after, beneath.world⟩
        else
          let deferred := if fault.isTransient then none else some fault
          ⟨.ok head, .cached layer deferred beneath.after, beneath.world⟩
  | .counted counters total inner, wanted, world =>
    let beneath := inner.read wanted world
    match beneath.answer with
    | .ok bytes =>
      ⟨.ok bytes, .counted counters (total + bytes.length) beneath.after,
        beneath.world.count counters bytes.length⟩
    | .error fault => ⟨.error fault, .counted counters total beneath.after, beneath.world⟩
  | .plain inner, wanted, world =>
    let beneath := inner.read wanted world
    ⟨beneath.answer, .plain beneath.after, beneath.world⟩

/-- The descriptor that the kernel can splice from, if nothing hides it. -/
def descriptor? : Source ρ → Option Fd
  | .descriptor fd => some fd
  | _ => none

/-- Lets go of a source: what lies beneath a layer goes first. -/
def drop : Source ρ → World → World
  | .peer _, world => world
  | .descriptor _, world => world
  | .buffer stock, world => world.dropBuffer stock
  | .cached layer _ inner, world =>
    let world := inner.drop world
    match layer with
    | none => world
    | some handle => world.release handle
  | .counted _ _ inner, world => inner.drop world
  | .plain inner, world => inner.drop world

/-- Takes the outermost layer off if it counts, with its counters. -/
def peel : Source ρ → Source ρ × Option (List Counter)
  | .counted counters _ inner => (inner, some counters)
  | source => (source, none)

/-- Takes every counting layer off. Counters of inner layers were there first and come first. -/
def uncounted : Source ρ → Source ρ × List Counter
  | .counted counters _ inner =>
    let (bare, earlier) := inner.uncounted
    (bare, earlier ++ counters)
  | source => (source, [])

def count (source : Source ρ) (counters : List Counter) : Source ρ :=
  if counters.isEmpty then source
  else
    let (bare, earlier) := source.uncounted
    .counted (earlier ++ counters) 0 bare

/-- Puts a shared buffer in front of a source. An empty one is let go and adds no layer. -/
def cache (source : Source ρ) (handle : SharedId) (world : World) : Source ρ × World :=
  if (world.shared handle).isEmpty then (source, world.release handle)
  else (.cached (some handle) none source, world)

/-- Puts several shared buffers in front of a source, so that the first one is read first. -/
def cacheAll (source : Source ρ) (handles : List SharedId) (world : World) : Source ρ × World :=
  handles.foldr (fun handle (source, world) => source.cache handle world) (source, world)

/-- Takes the outermost cache layer off, with its buffer. Layers that are handed out vanish on the
way; a layer that still has to report a fault stays. -/
def pick : Source ρ → Source ρ × Option SharedId
  | .cached layer (some fault) inner => (.cached layer (some fault) inner, none)
  | .cached (some handle) none inner => (inner, some handle)
  | .cached none none inner => inner.pick
  | source => (source, none)

/-- Takes every cache layer off, outermost first. Buffers that are empty by now are let go. -/
def pickAll : Source ρ → World → Source ρ × List SharedId × World
  | .cached layer (some fault) inner, world => (.cached layer (some fault) inner, [], world)
  | .cached (some handle) none inner, world =>
    if (world.shared handle).isEmpty then inner.pickAll (world.release handle)
    else
      let (rest, handles, world) := inner.pickAll world
      (rest, handle :: handles, world)
  | .cached none none inner, world => inner.pickAll world
  | source, world => (source, [], world)

end Source

end Conduit
