import Conduit.Fault.Message
import Conduit.Transfer.Drain

set_option autoImplicit false

namespace Conduit

/-- A sink with a write buffer in front. -/
structure Staged (τ : Type) where
  inner : τ
  buffer : Buffer

inductive Pull (ρ τ : Type) where
  | unsupported
  /-- The allowance of calls was used up. -/
  | unfinished
  | finished (result : Except IoFault Nat) (source : Source ρ) (sink : τ) (world : World)

namespace Staged

/-- The size of a write buffer that none was given for. -/
def standardSize : Nat := 4096

/-- A sink with an empty write buffer of the standard size. -/
def new {τ : Type} (inner : τ) : Staged τ := ⟨inner, .zeroed standardSize⟩

section

variable {τ : Type} (send : Writing τ)

/-- Sends the gathered bytes out. When there were any, the buffer starts afresh; one that is empty
stays as it is. -/
def settle (staged : Staged τ) (world : World) : Called (Staged τ) Unit :=
  if staged.buffer.isEmpty then ⟨.ok (), staged, world⟩
  else
    let drained := staged.buffer.drain send [] staged.inner world
    match drained.result with
    | .ok _ => ⟨.ok (), ⟨drained.sink, drained.buffer.reset⟩, drained.world⟩
    | .error fault =>
      ⟨.error (fault.toTransfer.within Stage.flush).toIo, ⟨drained.sink, drained.buffer⟩,
        drained.world⟩

/-- Gathers bytes that fit; others go to the sink after the gathered ones. -/
def write (staged : Staged τ) (bytes : Bytes) (world : World) : Called (Staged τ) Nat :=
  if bytes.isEmpty then ⟨.ok 0, staged, world⟩
  else if staged.buffer.freeLen < bytes.length then
    let settled := staged.settle send world
    match settled.answer with
    | .error fault => ⟨.error fault, settled.after, settled.world⟩
    | .ok () =>
      let wrote := send settled.after.inner bytes settled.world
      ⟨wrote.answer, { settled.after with inner := wrote.after }, wrote.world⟩
  else
    let (answer, buffer) := staged.buffer.write bytes
    ⟨answer, { staged with buffer }, world⟩

/-- Gathers all bytes, after sending the earlier ones out if there is no room; what is longer than
the buffer is written to the sink as a whole. -/
def writeWhole (retries : Nat) (staged : Staged τ) (bytes : Bytes) (world : World) :
    Option (Called (Staged τ) Nat) :=
  if bytes.length ≤ staged.buffer.freeLen then
    let (answer, buffer) := staged.buffer.writeAll bytes
    some ⟨answer.mapError (·.toIo), { staged with buffer }, world⟩
  else
    let settled := staged.settle send world
    match settled.answer with
    | .error fault => some ⟨.error fault, settled.after, settled.world⟩
    | .ok () =>
      let staged := settled.after
      if bytes.length ≤ staged.buffer.freeLen then
        let (answer, buffer) := staged.buffer.writeAll bytes
        some ⟨answer.mapError (·.toIo), { staged with buffer }, settled.world⟩
      else
        (writeAll retries send bytes staged.inner settled.world retries).map fun wrote =>
          ⟨wrote.answer.map fun () => bytes.length, { staged with inner := wrote.after },
            wrote.world⟩

/-- Gathers one byte. A buffer without storage lets it straight through. -/
def writeByte (retries : Nat) (staged : Staged τ) (byte : UInt8) (world : World) :
    Option (Called (Staged τ) Unit) :=
  let settled := if staged.buffer.isFull then staged.settle send world
    else ⟨.ok (), staged, world⟩
  match settled.answer with
  | .error fault => some ⟨.error fault, settled.after, settled.world⟩
  | .ok () =>
    let staged := settled.after
    if staged.buffer.isFull then
      (writeAll retries send [byte] staged.inner settled.world retries).map fun wrote =>
        ⟨wrote.answer, { staged with inner := wrote.after }, wrote.world⟩
    else
      let (answer, buffer) := staged.buffer.writeByte byte
      some ⟨answer.mapError (·.toIo), { staged with buffer }, settled.world⟩

/-- Sends the gathered bytes out and flushes the sink. -/
def flush (flushInner : τ → World → Called τ Unit) (staged : Staged τ) (world : World) :
    Called (Staged τ) Unit :=
  let settled := staged.settle send world
  match settled.answer with
  | .error fault => ⟨.error fault, settled.after, settled.world⟩
  | .ok () =>
    let flushed := flushInner settled.after.inner settled.world
    ⟨flushed.answer, { settled.after with inner := flushed.after }, flushed.world⟩

def giveUpBuffer (staged : Staged τ) (world : World) : Staged τ × World :=
  let (buffer, world) := world.freeBuffer staged.buffer
  ({ staged with buffer }, world)

/-- Sends the gathered bytes out and frees the buffer; from then on writes go straight through. -/
def free (staged : Staged τ) (world : World) : Called (Staged τ) Unit :=
  let settled := staged.settle send world
  match settled.answer with
  | .error fault => ⟨.error fault, settled.after, settled.world⟩
  | .ok () =>
    let (staged, world) := settled.after.giveUpBuffer settled.world
    ⟨.ok (), staged, world⟩

/-- Sends the gathered bytes out, frees the buffer and closes the sink, which is closed in any case.
Both faults are joined. -/
def close (closeInner : τ → World → Called τ Unit) (staged : Staged τ) (world : World) :
    Called (Staged τ) Unit :=
  let freed := staged.free send world
  let (staged, world) := match freed.answer with
    | .ok () => (freed.after, freed.world)
    | .error _ => freed.after.giveUpBuffer freed.world
  let closed := closeInner staged.inner world
  let faults := [freed.answer, closed.answer].filterMap fun answer =>
    match answer with
    | .ok () => none
    | .error fault => some fault.toTransfer
  let answer := match TransferFault.join faults with
    | none => .ok ()
    | some fault => .error fault.toIo
  ⟨answer, { staged with inner := closed.after }, closed.world⟩

variable {ρ : Type} [ReadPeer ρ]

/-- Fills the buffer and sends it out, round after round, until the source ends. -/
def moveLoop (retries : Nat) (staged : Staged τ) (source : Source ρ) (world : World) :
    (rounds total : Nat) → Pull ρ (Staged τ)
  | 0, _ => .unfinished
  | rounds + 1, total =>
    match staged.buffer.fillOnce retries [] source world with
    | none => .unfinished
    | some filled =>
      let staged := { staged with buffer := filled.buffer }
      match filled.result with
      | .error fault => .finished (.error fault.toIo) filled.source staged filled.world
      | .ok 0 => .finished (.ok total) filled.source staged filled.world
      | .ok (less + 1) =>
        let settled := staged.settle send filled.world
        match settled.answer with
        | .error fault => .finished (.error fault) filled.source settled.after settled.world
        | .ok () =>
          moveLoop retries settled.after filled.source settled.world rounds (total + (less + 1))

/-- Moves everything from a source to the sink, behind the gathered bytes. A sink that can pull by
itself does so; otherwise the bytes go through the buffer, for which there is a new one when it has
no room at all. -/
def readFrom (retries rounds : Nat) (pullInner : τ → Source ρ → World → Pull ρ τ)
    (staged : Staged τ) (source : Source ρ) (world : World) : Pull ρ (Staged τ) :=
  let settled := staged.settle send world
  match settled.answer with
  | .error fault => .finished (.error fault) source settled.after settled.world
  | .ok () =>
    match pullInner settled.after.inner source settled.world with
    | .finished result source inner world =>
      .finished result source { settled.after with inner } world
    | .unfinished => .unfinished
    | .unsupported =>
      if settled.after.buffer.size = 0 then
        moveLoop send retries { settled.after with buffer := .zeroed standardSize } source
          (settled.world.dropBuffer settled.after.buffer) rounds 0
      else moveLoop send retries settled.after source settled.world rounds 0

end

end Staged

end Conduit
