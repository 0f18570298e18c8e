import Conduit.Source.Basic

set_option autoImplicit false

namespace Conduit

/-- How many stalls in a row a transfer stands; the next one ends it. -/
def stallLimit : Nat := 100

structure Filled (ρ : Type) where
  result : Except BufferFault Nat
  buffer : Buffer
  source : Source ρ
  world : World

namespace Buffer

variable {ρ : Type} [ReadPeer ρ]

/-- Fills a buffer with room until the source ends, the buffer is full, or a fault comes, standing
`patience` more stalls before the next progress. -/
def fillLoop (buffer : Buffer) (source : Source ρ) (world : World) (patience total : Nat) :
    Filled ρ :=
  let reading := source.read buffer.freeLen world
  match reading.answer with
  | .ok [] => ⟨.ok total, buffer, reading.after, reading.world⟩
  | .ok (first :: rest) =>
    let filled := buffer.append (first :: rest)
    if filled.isFull then ⟨.error .shortBuffer, filled, reading.after, reading.world⟩
    else fillLoop filled reading.after reading.world stallLimit (total + (rest.length + 1))
  | .error fault =>
    if fault.isTransient then
      match patience with
      | 0 => ⟨.error .noProgress, buffer, reading.after, reading.world⟩
      | patience + 1 => fillLoop buffer reading.after reading.world patience total
    else ⟨.error fault.toBuffer, buffer, reading.after, reading.world⟩
termination_by (buffer.freeLen, patience)
decreasing_by
  · apply Prod.Lex.left
    rename_i roomy
    have shrinks := freeLen_append buffer (first :: rest)
    simp only [filled, isFull, beq_iff_eq, List.length_cons] at roomy shrinks
    omega
  · exact Prod.Lex.right _ (Nat.lt_succ_self _)

/-- Fills a buffer until the source ends. A buffer that is full first is a fault, and what was read
stays in it. -/
def fill (buffer : Buffer) (source : Source ρ) (world : World) : Filled ρ :=
  if buffer.isFull then ⟨.error .shortBuffer, buffer, source, world⟩
  else fillLoop buffer source world stallLimit 0

/-- Makes one read into a buffer with room, and makes it again when it is interrupted. There is no
result when more interruptions come than `retries`. -/
def fillOnceLoop (counters : List Counter) (buffer : Buffer) (source : Source ρ) (world : World)
    (retries : Nat) : Option (Filled ρ) :=
  let reading := source.read buffer.freeLen world
  match reading.answer with
  | .ok bytes =>
    some ⟨.ok bytes.length, buffer.append bytes, reading.after,
      reading.world.count counters bytes.length⟩
  | .error fault =>
    if fault.isInterrupted then
      match retries with
      | 0 => none
      | retries + 1 => fillOnceLoop counters buffer reading.after reading.world retries
    else some ⟨.error fault.toBuffer, buffer, reading.after, reading.world⟩

/-- Makes one read into a buffer and calls counters for what came. No byte means the end of the
stream. -/
def fillOnce (retries : Nat) (counters : List Counter) (buffer : Buffer) (source : Source ρ)
    (world : World) : Option (Filled ρ) :=
  if buffer.isFull then some ⟨.error .shortBuffer, buffer, source, world⟩
  else fillOnceLoop counters buffer source world retries

/-- Reads until `missing` more bytes came, standing up to `patience` interruptions before the next
progress. -/
def fillExactlyLoop (retries : Nat) (buffer : Buffer) (source : Source ρ) (world : World)
    (wanted missing patience : Nat) : Option (Filled ρ) :=
  match missing with
  | 0 => some ⟨.ok wanted, buffer, source, world⟩
  | missing + 1 =>
    let reading := source.read (missing + 1) world
    match reading.answer with
    | .ok [] =>
      some ⟨.error (.io (.plain .unexpectedEof)), buffer, reading.after, reading.world⟩
    | .ok (first :: rest) =>
      fillExactlyLoop retries (buffer.append (first :: rest)) reading.after reading.world wanted
        (missing - rest.length) retries
    | .error fault =>
      if fault.isInterrupted then
        match patience with
        | 0 => none
        | patience + 1 =>
          fillExactlyLoop retries buffer reading.after reading.world wanted (missing + 1) patience
      else some ⟨.error fault.toBuffer, buffer, reading.after, reading.world⟩
termination_by (missing, patience)
decreasing_by
  · apply Prod.Lex.left
    omega
  · exact Prod.Lex.right _ (Nat.lt_succ_self _)

/-- Reads exactly `wanted` bytes into a buffer. What came before a fault stays in it. -/
def fillExactly (retries : Nat) (buffer : Buffer) (source : Source ρ) (world : World)
    (wanted : Nat) : Option (Filled ρ) :=
  if buffer.freeLen < wanted then some ⟨.error .shortBuffer, buffer, source, world⟩
  else fillExactlyLoop retries buffer source world wanted wanted retries

end Buffer

end Conduit
