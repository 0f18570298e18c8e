import Conduit.Proofs.Fault.Crossing

set_option autoImplicit false

namespace Conduit

namespace BufferFault

/-- If the fault is that of a reader or writer, it is the endpoint's own. -/
def Own : BufferFault → Prop
  | .io fault => fault.Own
  | _ => True

theorem Own.toBuffer_toIo {fault : BufferFault} (own : fault.Own) :
    fault.toIo.toBuffer = fault := by
  cases fault with
  | io fault => exact IoFault.Own.toBuffer_eq own
  | _ => rfl

/-- A fault that carries another one of a buffer loses what is around it. -/
theorem own_of_toBuffer_toIo {fault : BufferFault} (same : fault.toIo.toBuffer = fault) :
    fault.Own := by
  cases fault with
  | io carrier =>
    cases carrier with
    | custom kind payload =>
      cases payload with
      | buffer inside =>
        -- What is inside is smaller than what is around it.
        have size : sizeOf inside = sizeOf (io (.custom kind (.buffer inside))) :=
          congrArg sizeOf same
        simp only [io.sizeOf_spec, IoFault.custom.sizeOf_spec, Payload.buffer.sizeOf_spec] at size
        omega
      | _ => trivial
    | _ => trivial
  | _ => trivial

theorem toBuffer_toIo_iff (fault : BufferFault) : fault.toIo.toBuffer = fault ↔ fault.Own :=
  ⟨own_of_toBuffer_toIo, Own.toBuffer_toIo⟩

end BufferFault

namespace TransferFault

/-- A fault that crossed to a reader or writer and came straight back. -/
def returned (fault : TransferFault) : TransferFault := fault.toIo.toTransfer

variable {fault : TransferFault}

/-- The fault of a reader or writer comes back without the buffer around it. -/
theorem returned_buffer_io {inner : IoFault} (plain : inner.Plain) :
    returned (.buffer (.io inner)) = .io inner :=
  plain.toTransfer_eq

/-- What comes back is the fault itself, or the fault of a reader or writer that was within a
buffer's. -/
theorem returned_cases (plain : fault.Plain) :
    (fault.returned = fault ∧ ∀ inner, fault ≠ .buffer (.io inner)) ∨
      ∃ inner : IoFault, inner.Plain ∧ fault = .buffer (.io inner) ∧
        fault.returned = .io inner := by
  by_cases bare : ∀ inner, fault ≠ .buffer (.io inner)
  · exact .inl ⟨toTransfer_toIo plain bare, bare⟩
  · simp only [ne_eq, not_forall, not_not] at bare
    obtain ⟨inner, rfl⟩ := bare
    have plain : inner.Plain := by simpa only [Plain, BufferFault.Plain] using plain
    exact .inr ⟨inner, plain, rfl, returned_buffer_io plain⟩

theorem returned_eq_iff (plain : fault.Plain) :
    fault.returned = fault ↔ ∀ inner, fault ≠ .buffer (.io inner) := by
  constructor
  · rintro same inner rfl
    rw [returned_buffer_io (by simpa only [Plain, BufferFault.Plain] using plain)] at same
    cases same
  · exact toTransfer_toIo plain

/-- Of what comes back a caller is told the same. -/
theorem alike_returned (plain : fault.Plain) : Alike fault fault.returned := by
  rcases returned_cases plain with ⟨same, -⟩ | ⟨inner, -, rfl, without⟩
  · rw [same]
    exact ⟨rfl, rfl, rfl, rfl⟩
  · rw [without]
    refine ⟨rfl, rfl, rfl, ?_⟩
    rw [isEndOfStream, isEndOfStream]
    rfl

theorem returned_returned (plain : fault.Plain) :
    fault.returned.returned = fault.returned := by
  rcases returned_cases plain with ⟨same, -⟩ | ⟨inner, plain, -, without⟩
  · rw [same, same]
  · rw [without]
    exact plain.toTransfer_eq

/-- Faults cross to a reader or writer and back. One of a buffer comes back as itself exactly when
no other is inside. One of a transfer crosses with its kind; it comes back as itself unless it is
the bare fault of a reader or writer within a buffer's, which comes back without the buffer. Either
way a caller is told the same, and a second crossing changes nothing. -/
theorem faults_return :
    (∀ fault : BufferFault, fault.toIo.toBuffer = fault ↔ fault.Own) ∧
    (∀ fault : TransferFault, fault.toIo.kind = fault.kind) ∧
    ∀ fault : TransferFault, fault.Plain →
      (fault.returned = fault ↔ ∀ inner, fault ≠ .buffer (.io inner)) ∧
      (∀ inner, fault = .buffer (.io inner) → fault.returned = .io inner) ∧
      Alike fault fault.returned ∧
      fault.returned.returned = fault.returned := by
  refine ⟨BufferFault.toBuffer_toIo_iff, kind_toIo, fun fault plain => ?_⟩
  refine ⟨returned_eq_iff plain, ?_, alike_returned plain, returned_returned plain⟩
  rintro inner rfl
  exact returned_buffer_io (by simpa only [Plain, BufferFault.Plain] using plain)

/-- A flush that failed twice over, once in a nested stage, comes back whole; a broken pipe within a
buffer's fault comes back as the broken pipe. -/
theorem faults_return_sample :
    let inner : IoFault := .plain .brokenPipe
    let flushed : TransferFault :=
      .stage Stage.flush (.many [.stage Stage.writeCache (.buffer (.io inner)),
        .io (.custom .timedOut (.text "late")), .buffer .noProgress])
    flushed.Plain ∧ flushed.returned = flushed ∧ flushed.toIo.kind = .other ∧
      (TransferFault.buffer (.io inner)).Plain ∧ returned (.buffer (.io inner)) = .io inner ∧
      (BufferFault.io (.custom .other (.transfer flushed))).Own ∧
      (BufferFault.io (.custom .other (.transfer flushed))).toIo.toBuffer =
        .io (.custom .other (.transfer flushed)) := by
  intro inner flushed
  have plain : flushed.Plain := by
    simp [flushed, inner, Plain, BufferFault.Plain, IoFault.Plain]
  have bare : (TransferFault.buffer (.io inner)).Plain := by
    simp [inner, Plain, BufferFault.Plain, IoFault.Plain]
  have own : (BufferFault.io (.custom .other (.transfer flushed))).Own := trivial
  obtain ⟨buffers, kinds, transfers⟩ := faults_return
  refine ⟨plain, (transfers flushed plain).1.mpr (by simp [flushed]), kinds flushed, bare,
    (transfers _ bare).2.1 inner rfl, own, (buffers _).mpr own⟩

end TransferFault

end Conduit
