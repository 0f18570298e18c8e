import Conduit.Proofs.Source.Heeding

set_option autoImplicit false

namespace Conduit

/-- A run comes to one and the same result with every large enough number of interruptions in a row
that it sits out. -/
def Steady {α : Type} (run : Nat → Option α) : Prop :=
  ∃ patience result, ∀ retries, patience ≤ retries → run retries = some result

namespace Steady

variable {α β : Type} {run : Nat → Option α}

theorem always (result : α) : Steady fun _ => some result := ⟨0, result, fun _ _ => rfl⟩

theorem map (steady : Steady run) (f : α → β) : Steady fun retries => (run retries).map f := by
  obtain ⟨patience, result, same⟩ := steady
  refine ⟨patience, f result, fun retries fits => ?_⟩
  dsimp only
  rw [same retries fits, Option.map_some]

/-- A run goes on as a second one, which is steady wherever the first one may lead. -/
theorem bind {next : Nat → α → Option β} (steady : Steady run)
    (on : ∀ retries result, run retries = some result → Steady fun retries => next retries result) :
    Steady fun retries => (run retries).bind (next retries) := by
  obtain ⟨patience, result, same⟩ := steady
  obtain ⟨longer, last, goes⟩ := on patience result (same patience (Nat.le_refl _))
  refine ⟨max patience longer, last, fun retries fits => ?_⟩
  dsimp only
  rw [same retries (by omega), Option.bind_some]
  exact goes retries (by omega)

end Steady

namespace Buffer

variable {ρ : Type} [ReadPeer ρ] {source : Source ρ} {world : World}

theorem fillOnceLoop_steady (counters : List Counter) (buffer : Buffer)
    (heeds : source.Heeds buffer.freeLen world) :
    Steady (buffer.fillOnceLoop counters source world) := by
  induction heeds with
  | @now source world settled =>
    exact ⟨0, _, fun retries _ => fillOnceLoop_settled counters buffer source world retries settled⟩
  | @later source world next ih =>
    rcases settled_or_interrupted (source.read buffer.freeLen world).answer with
      settled | ⟨fault, failed, interrupted⟩
    · exact ⟨0, _, fun retries _ =>
        fillOnceLoop_settled counters buffer source world retries settled⟩
    · obtain ⟨patience, filled, same⟩ := ih
      refine ⟨patience + 1, filled, fun retries fits => ?_⟩
      obtain ⟨less, rfl⟩ : ∃ less, retries = less + 1 := ⟨retries - 1, by omega⟩
      rw [fillOnceLoop_interrupted _ _ _ _ _ failed interrupted]
      exact same less (by omega)

/-- A fill by one read comes to an end when the source answers at last. -/
theorem fillOnce_steady (counters : List Counter) (buffer : Buffer) {most : Nat}
    (ends : source.Ends world.kernel most) :
    Steady fun retries => buffer.fillOnce retries counters source world := by
  unfold fillOnce
  by_cases full : buffer.isFull = true
  · simp only [full, if_true]
    exact Steady.always _
  · simp only [full, Bool.false_eq_true, if_false]
    have room : 0 < buffer.freeLen := by
      simp only [isFull, beq_iff_eq] at full
      omega
    exact fillOnceLoop_steady counters buffer (ends.heeds room)

/-- What a fill by one read puts into a buffer counts against what the source delivers. -/
theorem fillOnce_finite {retries bytes : Nat} {counters : List Counter} {buffer : Buffer}
    {filled : Filled ρ} (blank : buffer.unread = []) (finite : source.Finite world bytes)
    (ended : buffer.fillOnce retries counters source world = some filled) :
    ∃ left, filled.buffer.unread.length + left ≤ bytes ∧
      filled.source.Finite filled.world left := by
  unfold fillOnce at ended
  by_cases full : buffer.isFull = true
  · simp only [full, if_true, Option.some.injEq] at ended
    rw [← ended]
    exact ⟨bytes, by simp [blank], finite⟩
  · simp only [full, Bool.false_eq_true, if_false] at ended
    have room : 0 < buffer.freeLen := by
      simp only [isFull, beq_iff_eq] at full
      omega
    -- Interrupted reads bring nothing, so each leaves as much to be delivered as before.
    have sitsOut : SitsOut buffer.freeLen fun _ (last : Source ρ) later =>
        last.Finite later bytes := by
      intro _ last later fault within _ _
      obtain ⟨left, fits, on⟩ := (Source.reads_read last buffer.freeLen later).finite room within
      exact on.mono (by omega)
    obtain ⟨_, last, later, within, _, rfl⟩ := fillOnceLoop_ends counters buffer source world
      retries sitsOut finite filled ended
    obtain ⟨left, fits, on⟩ := (Source.reads_read last buffer.freeLen later).finite room within
    unfold filledFrom
    dsimp only
    split
    · rename_i bytes success
      have grown : (buffer.append bytes).unread.length ≤ bytes.length := by
        simp only [append, blank, List.nil_append, List.length_take]
        omega
      rw [success, ReadPeer.brought] at fits
      refine ⟨left, ?_, on.still rfl (World.elsewhere_count _ _ _).continues⟩
      dsimp only
      omega
    · refine ⟨left, ?_, on⟩
      rw [blank, List.length_nil]
      omega

end Buffer

end Conduit
