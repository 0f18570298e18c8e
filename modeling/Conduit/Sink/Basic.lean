import Conduit.Staged

set_option autoImplicit false

namespace Conduit

/-- Where bytes go, through so many layers. Every operation keeps the number of layers, so that an
operation on a layer may use those beneath it as often as it likes. -/
inductive Sink (σ : Type) : Nat → Type where
  | peer (writer : σ) : Sink σ 0
  | descriptor (fd : Fd) : Sink σ 0
  /-- A shared buffer, which takes bytes until it is full. -/
  | shared (handle : SharedId) : Sink σ 0
  /-- Counters, called for every write, and the bytes written so far. -/
  | counted {depth : Nat} (counters : List Counter) (total : Nat) (inner : Sink σ depth) :
    Sink σ (depth + 1)
  /-- Hides all abilities of what lies beneath. -/
  | plain {depth : Nat} (inner : Sink σ depth) : Sink σ (depth + 1)
  | staged {depth : Nat} (buffer : Buffer) (inner : Sink σ depth) : Sink σ (depth + 1)

abbrev AnySink (σ : Type) := (depth : Nat) × Sink σ depth

namespace Called

/-- The same call, seen from outside a layer. -/
def through {τ υ α : Type} (called : Called τ α) (wrap : τ → υ) : Called υ α :=
  ⟨called.answer, wrap called.after, called.world⟩

end Called

namespace Sink

variable {σ : Type}

/-- A sink with its write buffer back in front. -/
def ofStaged {depth : Nat} (staged : Staged (Sink σ depth)) : Sink σ (depth + 1) :=
  .staged staged.buffer staged.inner

def write [WritePeer σ] : (depth : Nat) → Sink σ depth → Bytes → World →
    Called (Sink σ depth) Nat
  | _, .peer writer, bytes, world =>
    let (answer, writer') := WritePeer.write writer bytes
    ⟨answer, .peer writer', world.record (.wrote (WritePeer.id writer) bytes answer)⟩
  | _, .descriptor fd, bytes, world =>
    let (answer, kernel) := world.kernel.write fd bytes
    ⟨answer.mapError .system, .descriptor fd, { world with kernel }⟩
  | _, .shared handle, bytes, world =>
    let (answer, buffer) := (world.shared handle).write bytes
    ⟨answer, .shared handle, world.setShared handle buffer⟩
  | depth + 1, .counted counters total inner, bytes, world =>
    let beneath := inner.write depth bytes world
    match beneath.answer with
    | .ok taken =>
      ⟨.ok taken, .counted counters (total + taken) beneath.after,
        beneath.world.count counters taken⟩
    | .error fault => ⟨.error fault, .counted counters total beneath.after, beneath.world⟩
  | depth + 1, .plain inner, bytes, world => (inner.write depth bytes world).through .plain
  | depth + 1, .staged buffer inner, bytes, world =>
    (Staged.write (write depth) ⟨inner, buffer⟩ bytes world).through ofStaged

def flush [WritePeer σ] : (depth : Nat) → Sink σ depth → World → Called (Sink σ depth) Unit
  | _, .peer writer, world =>
    let (answer, writer') := WritePeer.flush writer
    ⟨answer, .peer writer', world.record (.flushed (WritePeer.id writer) answer)⟩
  | _, .descriptor fd, world => ⟨.ok (), .descriptor fd, world⟩
  | _, .shared handle, world => ⟨.ok (), .shared handle, world⟩
  | depth + 1, .counted counters total inner, world =>
    (inner.flush depth world).through (.counted counters total)
  | depth + 1, .plain inner, world => (inner.flush depth world).through .plain
  | depth + 1, .staged buffer inner, world =>
    (Staged.flush (write depth) (flush depth) ⟨inner, buffer⟩ world).through ofStaged

/-- Takes the outermost layer off if it counts, with its counters. -/
def peel {depth : Nat} : Sink σ depth → AnySink σ × Option (List Counter)
  | .counted counters _ inner => (⟨_, inner⟩, some counters)
  | sink => (⟨_, sink⟩, none)

/-- Takes every counting layer off. Counters of inner layers were there first and come first. -/
def uncounted {depth : Nat} : Sink σ depth → AnySink σ × List Counter
  | .counted counters _ inner =>
    let (bare, earlier) := inner.uncounted
    (bare, earlier ++ counters)
  | sink => (⟨_, sink⟩, [])

def count {depth : Nat} (sink : Sink σ depth) (counters : List Counter) : AnySink σ :=
  if counters.isEmpty then ⟨_, sink⟩
  else
    let (bare, earlier) := sink.uncounted
    ⟨_, .counted (earlier ++ counters) 0 bare.2⟩

variable {depth : Nat}

/-- The handshake that a sink still needs; every layer hides it. -/
def handshake? [WritePeer σ] : Sink σ depth → Option Handshake
  | .peer writer => WritePeer.handshake writer
  | _ => none

/-- Drives a handshake without input. -/
def greet [WritePeer σ] : Sink σ depth → World → Called (Sink σ depth) Unit
  | .peer writer, world =>
    let (answer, writer') := WritePeer.greet writer
    ⟨answer, .peer writer', world.record (.greeted (WritePeer.id writer) answer)⟩
  | sink, world => ⟨.ok (), sink, world⟩

/-- Offers bytes to a handshake, which says how many it took. -/
def feed [WritePeer σ] : Sink σ depth → Bytes → World → Called (Sink σ depth) Nat
  | .peer writer, bytes, world =>
    let (answer, writer') := WritePeer.feed writer bytes
    ⟨answer, .peer writer', world.record (.fed (WritePeer.id writer) bytes answer)⟩
  | sink, _, world => ⟨.ok 0, sink, world⟩

/-- The descriptor that the kernel can splice into, if nothing hides it. -/
def descriptor? : Sink σ depth → Option Fd
  | .descriptor fd => some fd
  | _ => none

/-- Lets go of a sink: what lies beneath a layer goes first, and nothing is sent out. -/
def drop : {depth : Nat} → Sink σ depth → World → World
  | _, .peer _, world => world
  | _, .descriptor _, world => world
  | _, .shared handle, world => world.release handle
  | _, .counted _ _ inner, world => inner.drop world
  | _, .plain inner, world => inner.drop world
  | _, .staged buffer inner, world => (inner.drop world).dropBuffer buffer

end Sink

end Conduit
