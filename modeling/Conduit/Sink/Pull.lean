import Conduit.Sink.Basic

set_option autoImplicit false

namespace Conduit

namespace Pull

/-- The same pull, seen from outside a layer. -/
def through {ρ τ υ : Type} (pull : Pull ρ τ) (wrap : τ → υ) : Pull ρ υ :=
  match pull with
  | .unsupported => .unsupported
  | .unfinished => .unfinished
  | .finished result source sink world => .finished result source (wrap sink) world

end Pull

namespace Sink

variable {ρ σ : Type} [ReadPeer ρ]

/-- Puts one more counting layer around a sink, whatever layers it has. -/
def layered (sink : AnySink σ) (counters : List Counter) : AnySink σ :=
  ⟨_, .counted counters 0 sink.2⟩

def hidden (sink : AnySink σ) : AnySink σ := ⟨_, .plain sink.2⟩

/-- A write buffer as one more layer around its sink. -/
def gathered (staged : Staged (AnySink σ)) : AnySink σ :=
  ⟨_, .staged staged.buffer staged.inner.2⟩

/-- Reads a source in slices until it ends or fails, recording what a writer takes. -/
def pullSlices (peer : PeerId) (slice : Nat) (source : Source ρ) (world : World) :
    (rounds total : Nat) → Pull ρ Unit
  | 0, _ => .unfinished
  | rounds + 1, total =>
    let reading := source.read slice world
    match reading.answer with
    | .error fault => .finished (.error fault) reading.after () reading.world
    | .ok [] => .finished (.ok total) reading.after () reading.world
    | .ok (first :: rest) =>
      pullSlices peer slice reading.after (reading.world.record (.pulled peer (first :: rest)))
        rounds (total + (rest.length + 1))

/-- Moves everything from a source into a sink by the sink's own means, if it has any: a live writer
by its plan, a shared buffer by being filled, and a write buffer by what lies beneath or by itself.
-/
def pull [WritePeer σ] (retries rounds : Nat) : (depth : Nat) → Sink σ depth → Source ρ → World →
    Pull ρ (Sink σ depth)
  | _, .peer writer, source, world =>
    match WritePeer.pull writer with
    | none => .unsupported
    | some plan =>
      let world := world.record (.pulling (WritePeer.id writer))
      match plan with
      | .refuses fault => .finished (.error fault) source (.peer writer) world
      | .slices slice =>
        (pullSlices (WritePeer.id writer) slice source world rounds 0).through fun _ => .peer writer
  | _, .descriptor _, _, _ => .unsupported
  | _, .shared handle, source, world =>
    let filled := (world.shared handle).fill source world
    .finished (filled.result.mapError (·.toIo)) filled.source (.shared handle)
      (filled.world.setShared handle filled.buffer)
  | _ + 1, .counted _ _ _, _, _ => .unsupported
  | _ + 1, .plain _, _, _ => .unsupported
  | depth + 1, .staged buffer inner, source, world =>
    (Staged.readFrom (write depth) retries rounds (pull retries rounds depth) ⟨inner, buffer⟩ source
      world).through ofStaged

end Sink

namespace AnySink

variable {ρ σ : Type} [ReadPeer ρ] [WritePeer σ]

def write : Writing (AnySink σ) := fun sink bytes world =>
  (Sink.write sink.1 sink.2 bytes world).through fun inner => ⟨sink.1, inner⟩

def flush (sink : AnySink σ) (world : World) : Called (AnySink σ) Unit :=
  (Sink.flush sink.1 sink.2 world).through fun inner => ⟨sink.1, inner⟩

/-- Moves everything from a source into a sink by the sink's own means, if it has any. -/
def pull (retries rounds : Nat) (sink : AnySink σ) (source : Source ρ) (world : World) :
    Pull ρ (AnySink σ) :=
  (Sink.pull retries rounds sink.1 sink.2 source world).through fun inner => ⟨sink.1, inner⟩

end AnySink

end Conduit
