import Conduit.Fault.Basic
import Mathlib.Data.List.Basic

set_option autoImplicit false

/- Transfer faults on their way through a reader or writer into a buffer. A fault with stages, and
one that is several, travels inside the fault of the reader or writer. The way straight back,
`IoFault.toTransfer`, takes it out again; the way back through a buffer, `IoFault.toBuffer` and then
`BufferFault.toTransfer`, leaves it inside, so that only its kind is still seen from without. -/
namespace Conduit

namespace IoFault

/-- The fault carries no fault of a buffer and none of a transfer. -/
def Plain : IoFault → Prop
  | .custom _ (.buffer _) | .custom _ (.transfer _) => False
  | _ => True

/-- The fault is the endpoint's own: it carries none of a buffer. -/
def Own : IoFault → Prop
  | .custom _ (.buffer _) => False
  | _ => True

theorem Own.toBuffer_eq {fault : IoFault} (own : fault.Own) : fault.toBuffer = .io fault := by
  cases fault with
  | plain kind => rfl
  | system error => rfl
  | custom kind payload =>
    cases payload with
    | buffer fault => exact own.elim
    | _ => rfl

theorem Plain.own {fault : IoFault} (plain : fault.Plain) : fault.Own := by
  cases fault with
  | plain kind => trivial
  | system error => trivial
  | custom kind payload =>
    cases payload with
    | buffer fault => exact plain.elim
    | _ => trivial

theorem Plain.toBuffer_eq {fault : IoFault} (plain : fault.Plain) : fault.toBuffer = .io fault :=
  plain.own.toBuffer_eq

theorem Plain.toTransfer_eq {fault : IoFault} (plain : fault.Plain) :
    fault.toTransfer = .io fault := by
  cases fault with
  | plain kind => rfl
  | system error => rfl
  | custom kind payload =>
    cases payload with
    | buffer fault => exact plain.elim
    | transfer fault => exact plain.elim
    | _ => rfl

end IoFault

namespace BufferFault

/-- If the fault is that of a reader or writer, that one is plain. -/
def Plain : BufferFault → Prop
  | .io fault => fault.Plain
  | _ => True

/-- A buffer's fault comes back from a reader or writer as what it was. -/
theorem Plain.toBuffer_toIo {fault : BufferFault} (plain : fault.Plain) :
    fault.toIo.toBuffer = fault := by
  cases fault with
  | io fault => exact IoFault.Plain.toBuffer_eq plain
  | _ => rfl

theorem kind_toIo (fault : BufferFault) : fault.toIo.kind = fault.kind := by
  cases fault <;> rfl

theorem kind_toTransfer (fault : BufferFault) : fault.toTransfer.kind = fault.kind := by
  cases fault <;> rfl

theorem stages_toTransfer (fault : BufferFault) : fault.toTransfer.stages = [] := by
  cases fault <;> rfl

end BufferFault

namespace TransferFault

/-- Every fault of a reader or writer in it is plain, below any stages and among any number of
faults. -/
def Plain : TransferFault → Prop
  | .buffer fault => fault.Plain
  | .io fault => fault.Plain
  | .stage _ fault => fault.Plain
  | .many faults => ∀ fault ∈ faults, fault.Plain

def Wrapped : TransferFault → Prop
  | .stage _ _ | .many _ => True
  | _ => False

/-- Two faults of which a caller is told the same. -/
structure Alike (one other : TransferFault) : Prop where
  stages : one.stages = other.stages
  kind : one.kind = other.kind
  noProgress : one.isNoProgress = other.isNoProgress
  endOfStream : one.isEndOfStream = other.isEndOfStream

/-- What a transfer is told of a buffer whose reader or writer failed with a fault. -/
def relayed (sent : TransferFault) : TransferFault := sent.toIo.toBuffer.toTransfer

section

variable {sent : TransferFault}

theorem kind_toIo (sent : TransferFault) : sent.toIo.kind = sent.kind := by
  cases sent with
  | buffer fault => exact fault.kind_toIo
  | _ => rfl

/-- What is wrapped comes out of the buffer still inside the fault that carried it. -/
theorem Wrapped.toBuffer_toIo (wrapped : sent.Wrapped) :
    sent.toIo.toBuffer = .io (.custom sent.kind (.transfer sent)) := by
  cases sent with
  | stage tag fault => rfl
  | many faults => rfl
  | _ => exact wrapped.elim

/-- The way straight back recovers what was sent, the fault of a reader or writer in a buffer's
apart. -/
theorem toTransfer_toIo (plain : sent.Plain) (bare : ∀ fault, sent ≠ .buffer (.io fault)) :
    sent.toIo.toTransfer = sent := by
  cases sent with
  | stage tag fault => rfl
  | many faults => rfl
  | io fault => exact IoFault.Plain.toTransfer_eq (by rwa [Plain] at plain)
  | buffer fault =>
    cases fault with
    | io fault => exact absurd rfl (bare fault)
    | _ => rfl

theorem kind_relayed (plain : sent.Plain) : sent.relayed.kind = sent.kind := by
  rw [relayed, BufferFault.kind_toTransfer]
  cases sent with
  | stage tag fault => rfl
  | many faults => rfl
  | io fault =>
    rw [Plain] at plain
    rw [toIo, plain.toBuffer_eq]
    rfl
  | buffer fault =>
    rw [Plain] at plain
    rw [toIo, plain.toBuffer_toIo]
    rfl

theorem wrapped_many (faults : List TransferFault) : Wrapped (.many faults) := trivial

theorem alike_relayed (plain : sent.Plain) (bare : ¬ sent.Wrapped) : Alike sent sent.relayed := by
  have same := kind_relayed plain
  cases sent with
  | stage tag fault => exact absurd trivial bare
  | many faults => exact absurd trivial bare
  | io fault =>
    rw [Plain] at plain
    have whole : relayed (.io fault) = .io fault := by
      rw [relayed, toIo, plain.toBuffer_eq]
      rfl
    rw [whole]
    exact ⟨rfl, rfl, rfl, rfl⟩
  | buffer fault =>
    rw [Plain] at plain
    have whole : relayed (.buffer fault) = fault.toTransfer := by
      rw [relayed, toIo, plain.toBuffer_toIo]
    rw [whole] at same ⊢
    refine ⟨fault.stages_toTransfer.symm, same.symm, ?_, ?_⟩
    · cases fault <;> rfl
    · cases fault <;> rfl

/-- Of what is wrapped, a transfer is told the kind and nothing else. -/
theorem Wrapped.relayed_eq (wrapped : sent.Wrapped) :
    sent.relayed = .io (.custom sent.kind (.transfer sent)) := by
  rw [relayed, wrapped.toBuffer_toIo]
  rfl

/-- A fault is relayed as what it was exactly when it has no stages and is not the ends of several
streams. -/
theorem alike_relayed_iff (plain : sent.Plain) :
    Alike sent sent.relayed ↔
      sent.stages = [] ∧ ∀ faults, sent = .many faults → sent.isEndOfStream = false := by
  constructor
  · intro alike
    have untagged := alike.stages
    have goesOn := alike.endOfStream
    rw [relayed, BufferFault.stages_toTransfer] at untagged
    refine ⟨untagged, ?_⟩
    rintro faults rfl
    rw [goesOn, (wrapped_many faults).relayed_eq]
    exact isEndOfStream.eq_2 _
  · rintro ⟨untagged, goesOn⟩
    cases sent with
    | stage tag fault => cases untagged
    | many faults =>
      rw [(wrapped_many faults).relayed_eq]
      refine ⟨rfl, rfl, rfl, ?_⟩
      rw [goesOn faults rfl]
      exact (isEndOfStream.eq_2 _).symm
    | io fault => exact alike_relayed plain id
    | buffer fault => exact alike_relayed plain id

/-- What a buffer tells of a reader or writer that failed with a fault. -/
structure Relays (sent : TransferFault) (received : BufferFault) : Prop where
  kind : received.toTransfer.kind = sent.kind
  alike : Alike sent received.toTransfer ↔
    sent.stages = [] ∧ ∀ faults, sent = .many faults → sent.isEndOfStream = false
  /-- Nothing is gone for good: what was wrapped is still inside. -/
  inside : sent.Wrapped → ∃ carrier, received = .io carrier ∧ carrier.toTransfer = sent

theorem relays_toBuffer_toIo (plain : sent.Plain) : sent.Relays sent.toIo.toBuffer where
  kind := kind_relayed plain
  alike := alike_relayed_iff plain
  inside := fun wrapped => ⟨_, wrapped.toBuffer_toIo, rfl⟩

end

end TransferFault

end Conduit
