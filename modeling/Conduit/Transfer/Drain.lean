import Conduit.Transfer.Fill

set_option autoImplicit false

namespace Conduit

/-- A way to write to a sink. -/
abbrev Writing (τ : Type) := τ → Bytes → World → Called τ Nat

structure Drained (τ : Type) where
  result : Except BufferFault Nat
  /-- How many bytes the sink said it took. -/
  reported : Nat
  buffer : Buffer
  sink : τ
  world : World

namespace Buffer

variable {τ : Type}

/-- Writes unread bytes out until none is left or a fault comes, standing `patience` more stalls
before the next progress. -/
def drainLoop (write : Writing τ) (counters : List Counter) (buffer : Buffer) (sink : τ)
    (world : World) (patience total reported : Nat) : Drained τ :=
  let wrote := write sink buffer.unread world
  match wrote.answer with
  | .ok 0 =>
    match patience with
    | 0 => ⟨.error .noProgress, reported, buffer, wrote.after, wrote.world⟩
    | patience + 1 =>
      drainLoop write counters buffer wrote.after wrote.world patience total reported
  | .ok (less + 1) =>
    let world := wrote.world.count counters (less + 1)
    let left := buffer.consume (less + 1)
    let total := total + min (less + 1) buffer.unread.length
    if left.isEmpty then ⟨.ok total, reported + (less + 1), left, wrote.after, world⟩
    else drainLoop write counters left wrote.after world stallLimit total (reported + (less + 1))
  | .error fault =>
    if fault.isTransient then
      match patience with
      | 0 => ⟨.error .noProgress, reported, buffer, wrote.after, wrote.world⟩
      | patience + 1 =>
        drainLoop write counters buffer wrote.after wrote.world patience total reported
    else ⟨.error fault.toBuffer, reported, buffer, wrote.after, wrote.world⟩
termination_by (buffer.unread.length, patience)
decreasing_by
  · exact Prod.Lex.right _ (Nat.lt_succ_self _)
  · apply Prod.Lex.left
    rename_i remains
    simp only [left, consume, isEmpty, List.isEmpty_iff, List.drop_eq_nil_iff, Nat.not_le]
      at remains
    simp only [consume, List.length_drop]
    omega
  · exact Prod.Lex.right _ (Nat.lt_succ_self _)

/-- Writes every unread byte out, calling counters for each write. Bytes written before a fault are
consumed. -/
def drain (write : Writing τ) (counters : List Counter) (buffer : Buffer) (sink : τ)
    (world : World) : Drained τ :=
  if buffer.isEmpty then ⟨.error .endOfStream, 0, buffer, sink, world⟩
  else drainLoop write counters buffer sink world stallLimit 0 0

/-- Makes one write of the unread bytes, and makes it again when it is interrupted. -/
def drainOnceLoop (write : Writing τ) (buffer : Buffer) (sink : τ) (world : World)
    (retries : Nat) : Option (Drained τ) :=
  let wrote := write sink buffer.unread world
  match wrote.answer with
  | .ok taken =>
    some ⟨.ok (min taken buffer.unread.length), taken, buffer.consume taken, wrote.after,
      wrote.world⟩
  | .error fault =>
    if fault.isInterrupted then
      match retries with
      | 0 => none
      | retries + 1 => drainOnceLoop write buffer wrote.after wrote.world retries
    else some ⟨.error fault.toBuffer, 0, buffer, wrote.after, wrote.world⟩

/-- Makes one write of the unread bytes and consumes what was taken. -/
def drainOnce (retries : Nat) (write : Writing τ) (buffer : Buffer) (sink : τ) (world : World) :
    Option (Drained τ) :=
  if buffer.isEmpty then some ⟨.error .endOfStream, 0, buffer, sink, world⟩
  else drainOnceLoop write buffer sink world retries

end Buffer

/-- The fault of a sink that takes none of the bytes it has to take. -/
def refusedAll : IoFault := .custom .writeZero (.text "failed to write whole buffer")

/-- Writes all bytes to a sink, without a buffer. A write that takes none is a fault; interruptions
are sat out, up to `retries` in a row. -/
def writeAll {τ : Type} (retries : Nat) (write : Writing τ) (bytes : Bytes) (sink : τ)
    (world : World) (patience : Nat) : Option (Called τ Unit) :=
  match bytes with
  | [] => some ⟨.ok (), sink, world⟩
  | first :: rest =>
    let wrote := write sink (first :: rest) world
    match wrote.answer with
    | .ok 0 => some ⟨.error refusedAll, wrote.after, wrote.world⟩
    | .ok (less + 1) =>
      writeAll retries write (rest.drop less) wrote.after wrote.world retries
    | .error fault =>
      if fault.isInterrupted then
        match patience with
        | 0 => none
        | patience + 1 => writeAll retries write (first :: rest) wrote.after wrote.world patience
      else some ⟨.error fault, wrote.after, wrote.world⟩
termination_by (bytes.length, patience)
decreasing_by
  · apply Prod.Lex.left
    simp only [List.length_drop, List.length_cons]
    omega
  · exact Prod.Lex.right _ (Nat.lt_succ_self _)

end Conduit
