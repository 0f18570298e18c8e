import Conduit.Closing
import Conduit.Proofs.Fault.Joining
import Conduit.Proofs.Transfer.Draining
import Conduit.Proofs.World.Pools
import Conduit.Staged
import Mathlib.Data.List.ReduceOption

set_option autoImplicit false

namespace Conduit

section

variable {ε : Type}

def Called.fault? (call : Called ε Unit) : Option TransferFault :=
  match call.answer with
  | .ok () => none
  | .error fault => some fault.toTransfer

/-- Each of some endpoints was closed once, in order, and each one in the world that the one
before it left. -/
inductive InTurn (close : Closing ε) : List ε → World → List (Called ε Unit) → World → Prop where
  | done (world : World) : InTurn close [] world [] world
  | next {endpoint : ε} {rest : List ε} {world final : World} {calls : List (Called ε Unit)}
      (later : InTurn close rest (close endpoint world).world calls final) :
      InTurn close (endpoint :: rest) world (close endpoint world :: calls) final

/-- Endpoints that say that they are closed say so once each, in order, and do so as well when
closing them fails. -/
theorem InTurn.events {peer : ε → PeerId} {fault? : ε → Option IoFault} {endpoints : List ε}
    {world final : World} {calls : List (Called ε Unit)}
    (turns : InTurn (fun each => closeRecorded (peer each) (fault? each) each) endpoints world calls
      final) :
    final.journal.events =
      world.journal.events ++ endpoints.map fun each => .closed (peer each) := by
  induction turns with
  | done world => simp
  | next later ih => simp [ih, closeRecorded, World.record]

variable (close : Closing ε)

end

namespace Staged

variable {τ : Type} (send : Writing τ) (closeInner : Closing τ)

/-- A sink behind a write buffer was closed, after the gathered bytes were sent out or not. -/
structure Closes (staged : Staged τ) (flushed : Called (Staged τ) Unit) (call : Called τ Unit)
    (closed : Called (Staged τ) Unit) : Prop where
  /-- The sink is closed once, when the buffer is already let go of. -/
  turn : InTurn closeInner [flushed.after.inner]
    (flushed.world.dropBuffer flushed.after.buffer) [call] closed.world
  inner : closed.after.inner = call.after
  spent : closed.after.buffer.capacity = 0
  /-- The pool that the storage came from has it back. -/
  released : ∀ pool, staged.buffer.owner = some pool → staged.buffer.capacity ≠ 0 →
    flushed.world.dropBuffer flushed.after.buffer =
      flushed.world.recycle pool staged.buffer.storage
  ok_iff : closed.answer = .ok () ↔ flushed.answer = .ok () ∧ call.answer = .ok ()
  error_iff : ∀ fault, closed.answer = .error fault ↔ ∃ joined,
    TransferFault.join [flushed.fault?, call.fault?].reduceOption = some joined ∧
      fault = joined.toIo

end Staged

end Conduit
