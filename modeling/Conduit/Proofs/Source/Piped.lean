import Conduit.Proofs.Source.Layers
import Conduit.Proofs.Transfer.Fetching
import Conduit.Proofs.World.Obliging

set_option autoImplicit false

namespace Conduit

namespace Source

variable {ρ : Type}

/-- A source is a descriptor beneath cached and counting layers, none of which holds a fault back.
-/
def Piped (input : Fd) : Source ρ → Prop
  | .peer _ => False
  | .descriptor fd => fd = input
  | .buffer _ => False
  | .cached _ deferred inner => deferred = none ∧ inner.Piped input
  | .counted _ _ inner => inner.Piped input
  | .plain _ => False

section Piped

variable {input : Fd} {source rest : Source ρ}

theorem Piped.orderly [ReadPeer ρ] (piped : source.Piped input) : source.Orderly := by
  induction source with
  | peer | buffer | plain => exact absurd piped id
  | descriptor => trivial
  | cached layer deferred inner ih => exact ⟨by simp [piped.1], ih piped.2⟩
  | counted counters total inner ih => exact ih piped

theorem Piped.uncounted (piped : source.Piped input) : source.uncounted.1.Piped input := by
  induction source with
  | counted counters total inner ih => exact ih piped
  | peer | buffer | plain | descriptor | cached => exact piped

theorem Piped.putBack_pick (piped : source.Piped input) :
    (putBack source.pick).Piped input := by
  induction source with
  | peer | buffer | plain | descriptor | counted => exact piped
  | cached layer deferred inner ih =>
    obtain ⟨rfl, beneath⟩ := piped
    cases layer with
    | none => exact ih beneath
    | some handle => exact ⟨rfl, beneath⟩

theorem Piped.descriptor_eq {fd : Fd} (piped : source.Piped input)
    (found : source.descriptor? = some fd) : fd = input ∧ source = .descriptor input := by
  cases source with
  | descriptor far =>
    cases found
    exact ⟨piped, congrArg Source.descriptor piped⟩
  | peer | buffer | plain | cached | counted => cases found

end Piped

variable [ReadPeer ρ]

/-- A read of such a source leaves such a source, asks no live reader, and fails only by being
interrupted, before the last call that may be put off. -/
theorem Reads.piped {source : Source ρ} {wanted : Nat} {world : World}
    {reading : Called (Source ρ) Bytes} (reads : Reads source wanted world reading)
    {input output : Fd} {last : Nat} (piped : source.Piped input)
    (obliges : world.kernel.Obliges input output last) :
    reading.after.Piped input ∧ reading.world.obtained = world.obtained ∧
      ∀ fault, reading.answer = .error fault → fault.isInterrupted = true ∧
        world.kernel.calls < last ∧ world.kernel.calls < reading.world.kernel.calls := by
  have release (world : World) (handle : SharedId) (wanted : Nat) :
      World.Elsewhere world ((world.readShared handle wanted).2.release handle) ∧
        ((world.readShared handle wanted).2.release handle).obtained = world.obtained :=
    ⟨(world.elsewhere_setShared handle _).trans (World.elsewhere_release _ handle),
      World.obtained_of_journal_eq (by simp)⟩
  induction reads with
  | peer | buffer | plain => exact absurd piped id
  | descriptor fd wanted world =>
    cases piped
    refine ⟨rfl, rfl, ?_⟩
    rintro fault failed
    cases called : world.kernel.read input wanted with
    | mk answer later =>
      rw [called] at failed
      cases answer with
      | ok bytes => cases failed
      | error error =>
        cases failed
        obtain ⟨rfl, interrupted, soon⟩ := obliges.read_error called
        refine ⟨?_, soon, ?_⟩
        · show (error.kind == .interrupted) = true
          rw [interrupted]
          rfl
        · exact Nat.lt_succ_self _
  | deferred => cases piped.1
  | nothing | part => exact ⟨piped, World.obtained_of_journal_eq rfl, by simp⟩
  | @whole handle inner wanted world =>
    exact ⟨⟨rfl, piped.2⟩, (release world handle _).2, by simp⟩
  | through _ ih =>
    obtain ⟨after, same, failed⟩ := ih piped.2 obliges
    exact ⟨⟨rfl, after⟩, same, failed⟩
  | @joined handle inner wanted world _ _ _ _ _ ih =>
    obtain ⟨elsewhere, silent⟩ := release world handle (wanted + 1)
    obtain ⟨after, same, -⟩ := ih piped.2 (obliges.continues elsewhere.continues)
    exact ⟨⟨rfl, after⟩, same.trans silent, by simp⟩
  | @kept handle inner wanted world beneath fault _ _ _ failed ih =>
    obtain ⟨elsewhere, silent⟩ := release world handle (wanted + 1)
    obtain ⟨after, same, why⟩ := ih piped.2 (obliges.continues elsewhere.continues)
    -- An interruption behind bytes is dropped, so that no fault waits in the layer.
    have transient := IoFault.isTransient_of_isInterrupted (why fault failed).1
    exact ⟨⟨by rw [if_pos transient], after⟩, same.trans silent, by simp⟩
  | @failed handle inner wanted world beneath fault _ _ failed ih =>
    obtain ⟨elsewhere, silent⟩ := release world handle (wanted + 1)
    obtain ⟨after, same, why⟩ := ih piped.2 (obliges.continues elsewhere.continues)
    have before := elsewhere.calls
    refine ⟨⟨rfl, after⟩, same.trans silent, ?_⟩
    rintro other ⟨⟩
    obtain ⟨interrupted, soon, further⟩ := why fault failed
    exact ⟨interrupted, Nat.lt_of_le_of_lt before soon, Nat.lt_of_le_of_lt before further⟩
  | counted _ _ ih =>
    obtain ⟨after, same, -⟩ := ih piped obliges
    exact ⟨after, (World.obtained_count _ _ _).trans same, by simp⟩
  | uncounted _ failed ih =>
    obtain ⟨after, same, why⟩ := ih piped obliges
    refine ⟨after, same, ?_⟩
    rintro other ⟨⟩
    exact why _ failed

end Source

namespace Buffer

variable {ρ : Type} [ReadPeer ρ]

theorem fillOnce_piped {input output : Fd} {last retries : Nat} {source : Source ρ} {world : World}
    (counters : List Counter) (buffer : Buffer) (room : 0 < buffer.freeLen)
    (piped : source.Piped input) (obliges : world.kernel.Obliges input output last)
    (patient : last ≤ retries) :
    ∃ filled count, buffer.fillOnce retries counters source world = some filled ∧
      filled.result = .ok count ∧ filled.source.Piped input ∧
      filled.world.obtained = world.obtained := by
  -- Each interruption that is sat out uses up a call that may be put off.
  have sitsOut : SitsOut buffer.freeLen fun patience (source : Source ρ) later =>
      source.Piped input ∧ later.kernel.Obliges input output last ∧
        later.obtained = world.obtained ∧ last - later.kernel.calls ≤ patience := by
    rintro patience source later fault ⟨piped, obliges, same, patient⟩ failed -
    have reads := Source.reads_read source buffer.freeLen later
    obtain ⟨after, silent, why⟩ := reads.piped piped obliges
    obtain ⟨-, soon, further⟩ := why fault failed
    exact ⟨after, obliges.continues reads.elsewhere.continues, silent.trans same, by omega⟩
  have start : source.Piped input ∧ world.kernel.Obliges input output last ∧
      world.obtained = world.obtained ∧ last - world.kernel.calls ≤ retries :=
    ⟨piped, obliges, rfl, by omega⟩
  have some := fillOnceLoop_isSome counters buffer source world retries sitsOut start ?final
  case final =>
    rintro source later ⟨piped, obliges, -, spent⟩ fault failed
    obtain ⟨-, -, why⟩ := (Source.reads_read source buffer.freeLen later).piped piped obliges
    have soon := (why fault failed).2.1
    omega
  obtain ⟨filled, ended⟩ := Option.isSome_iff_exists.mp some
  obtain ⟨_, final, later, ⟨piped, obliges, same, -⟩, settled, shape⟩ :=
    fillOnceLoop_ends counters buffer source world retries sitsOut start filled ended
  obtain ⟨after, silent, why⟩ := (Source.reads_read final buffer.freeLen later).piped piped obliges
  have full : ¬ buffer.isFull = true := by
    simp only [isFull, beq_iff_eq]
    omega
  rw [fillOnce, if_neg full, ended, shape, filledFrom]
  cases answer : (final.read buffer.freeLen later).answer with
  | ok bytes =>
    exact ⟨_, _, rfl, rfl, after, (World.obtained_count _ _ _).trans (silent.trans same)⟩
  | error fault =>
    have interrupted := (why fault answer).1
    rw [settled fault answer] at interrupted
    cases interrupted

end Buffer

end Conduit
