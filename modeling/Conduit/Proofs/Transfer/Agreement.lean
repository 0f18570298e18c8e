import Conduit.Proofs.World.Agreement
import Conduit.Transfer.Drain

set_option autoImplicit false

namespace Conduit

/-- Two fills end the same, in worlds that agree. -/
structure Filled.Agrees {ρ : Type} (filled other : Filled ρ) : Prop where
  result : filled.result = other.result
  buffer : filled.buffer = other.buffer
  source : filled.source = other.source
  world : filled.world.Agrees other.world

/-- Two drains end the same, in worlds that agree, with sinks that are alike. -/
structure Drained.Agrees {τ υ : Type} (Like : τ → υ → Prop) (drained : Drained τ)
    (other : Drained υ) : Prop where
  result : drained.result = other.result
  reported : drained.reported = other.reported
  buffer : drained.buffer = other.buffer
  sink : Like drained.sink other.sink
  world : drained.world.Agrees other.world

/-- Sinks that are alike answer writes the same and stay alike. -/
def Writing.Agrees {τ υ : Type} (Like : τ → υ → Prop) (write : Writing τ) (another : Writing υ) :
    Prop :=
  ∀ {sink : τ} {other : υ} {world later : World} (bytes : Bytes), Like sink other →
    world.Agrees later → Called.Agrees Like (write sink bytes world) (another other bytes later)

namespace Buffer

section

variable {ρ : Type} [ReadPeer ρ] (counters others : List Counter)

theorem fillOnceLoop_agrees (buffer : Buffer) (source : Source ρ) {world other : World}
    (agrees : world.Agrees other) (retries : Nat) :
    Option.Rel Filled.Agrees (fillOnceLoop counters buffer source world retries)
      (fillOnceLoop others buffer source other retries) := by
  induction retries generalizing source world other with
  | zero =>
    have reads := source.read_agrees buffer.freeLen agrees
    rw [fillOnceLoop, fillOnceLoop, reads.answer, reads.after]
    split
    · exact .some ⟨rfl, rfl, rfl, reads.world.count _ _ _ _⟩
    · split
      · exact .none
      · exact .some ⟨rfl, rfl, rfl, reads.world⟩
  | succ retries ih =>
    have reads := source.read_agrees buffer.freeLen agrees
    rw [fillOnceLoop, fillOnceLoop, reads.answer, reads.after]
    split
    · exact .some ⟨rfl, rfl, rfl, reads.world.count _ _ _ _⟩
    · split
      · exact ih _ reads.world
      · exact .some ⟨rfl, rfl, rfl, reads.world⟩

theorem fillOnce_agrees (buffer : Buffer) (source : Source ρ) {world other : World}
    (agrees : world.Agrees other) (retries : Nat) :
    Option.Rel Filled.Agrees (buffer.fillOnce retries counters source world)
      (buffer.fillOnce retries others source other) := by
  unfold fillOnce
  split
  · exact .some ⟨rfl, rfl, rfl, agrees⟩
  · exact fillOnceLoop_agrees counters others buffer source agrees retries

end

variable {τ υ : Type} {Like : τ → υ → Prop} {write : Writing τ} {another : Writing υ}
  (writes : Writing.Agrees Like write another) (counters others : List Counter)

include writes

theorem drainLoop_agrees (buffer : Buffer) {sink : τ} {opposite : υ} {world later : World}
    (like : Like sink opposite) (agrees : world.Agrees later) (patience total reported : Nat) :
    Drained.Agrees Like (drainLoop write counters buffer sink world patience total reported)
      (drainLoop another others buffer opposite later patience total reported) := by
  have alike := writes buffer.unread like agrees
  unfold drainLoop
  simp only [← alike.answer]
  split
  · cases again : patience with
    | zero => exact ⟨rfl, rfl, rfl, alike.after, alike.world⟩
    | succ fewer => exact drainLoop_agrees buffer alike.after alike.world fewer total reported
  · split
    · exact ⟨rfl, rfl, rfl, alike.after, alike.world.count _ _ _ _⟩
    · exact drainLoop_agrees _ alike.after (alike.world.count _ _ _ _) stallLimit _ _
  · split
    · cases again : patience with
      | zero => exact ⟨rfl, rfl, rfl, alike.after, alike.world⟩
      | succ fewer => exact drainLoop_agrees buffer alike.after alike.world fewer total reported
    · exact ⟨rfl, rfl, rfl, alike.after, alike.world⟩
termination_by (buffer.unread.length, patience)
decreasing_by
  · rw [again]
    exact Prod.Lex.right _ (Nat.lt_succ_self _)
  · apply Prod.Lex.left
    rename_i remains
    simp only [consume, isEmpty, List.isEmpty_iff, List.drop_eq_nil_iff, Nat.not_le] at remains
    simp only [consume, List.length_drop]
    omega
  · rw [again]
    exact Prod.Lex.right _ (Nat.lt_succ_self _)

theorem drain_agrees (buffer : Buffer) {sink : τ} {opposite : υ} {world later : World}
    (like : Like sink opposite) (agrees : world.Agrees later) :
    Drained.Agrees Like (buffer.drain write counters sink world)
      (buffer.drain another others opposite later) := by
  unfold drain
  split
  · exact ⟨rfl, rfl, rfl, like, agrees⟩
  · exact drainLoop_agrees writes counters others buffer like agrees stallLimit 0 0

end Buffer

end Conduit
