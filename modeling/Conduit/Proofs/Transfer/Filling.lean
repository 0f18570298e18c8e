import Conduit.Transfer.Fill
import Mathlib.Data.List.Basic

set_option autoImplicit false

namespace Conduit

namespace Buffer

variable {ρ : Type} [ReadPeer ρ]

def Settled (answer : Except IoFault Bytes) : Prop :=
  ∀ fault, answer = .error fault → fault.isInterrupted = false

/-- What an invariant of repeated reads has to outlast. Its number is how many more interruptions
are sat out. -/
def SitsOut (wanted : Nat) (Inv : Nat → Source ρ → World → Prop) : Prop :=
  ∀ patience source world fault, Inv (patience + 1) source world →
    (source.read wanted world).answer = .error fault → fault.isInterrupted = true →
    Inv patience (source.read wanted world).after (source.read wanted world).world

/-- What a fill by one read comes to when its last read starts from this source and world. -/
def filledFrom (counters : List Counter) (buffer : Buffer) (source : Source ρ) (world : World) :
    Filled ρ :=
  let reading := source.read buffer.freeLen world
  match reading.answer with
  | .ok bytes =>
    ⟨.ok bytes.length, buffer.append bytes, reading.after,
      reading.world.count counters bytes.length⟩
  | .error fault => ⟨.error fault.toBuffer, buffer, reading.after, reading.world⟩

section

variable (counters : List Counter) (buffer : Buffer) (source : Source ρ) (world : World)
  (retries : Nat)

theorem fillOnceLoop_settled (settled : Settled (source.read buffer.freeLen world).answer) :
    buffer.fillOnceLoop counters source world retries =
      some (buffer.filledFrom counters source world) := by
  unfold fillOnceLoop filledFrom
  cases answer : (source.read buffer.freeLen world).answer with
  | ok bytes => simp only [answer]
  | error fault => simp only [answer, settled fault answer, Bool.false_eq_true, if_false]

theorem fillOnceLoop_interrupted {fault : IoFault}
    (failed : (source.read buffer.freeLen world).answer = .error fault)
    (interrupted : fault.isInterrupted = true) :
    buffer.fillOnceLoop counters source world retries =
      match retries with
      | 0 => none
      | retries + 1 =>
        buffer.fillOnceLoop counters (source.read buffer.freeLen world).after
          (source.read buffer.freeLen world).world retries := by
  cases retries <;> simp only [fillOnceLoop, failed, interrupted, if_true]

theorem settled_or_interrupted (answer : Except IoFault Bytes) :
    Settled answer ∨ ∃ fault, answer = .error fault ∧ fault.isInterrupted = true := by
  cases answer with
  | ok bytes => exact .inl fun _ absurd => by cases absurd
  | error fault =>
    cases interrupted : fault.isInterrupted with
    | true => exact .inr ⟨fault, rfl, interrupted⟩
    | false => exact .inl fun _ same => by cases same; exact interrupted

end

variable {Inv : Nat → Source ρ → World → Prop}

theorem fillOnceLoop_ends (counters : List Counter) (buffer : Buffer) (source : Source ρ)
    (world : World) (retries : Nat) (sitsOut : SitsOut buffer.freeLen Inv)
    (inv : Inv retries source world) (filled : Filled ρ)
    (ended : buffer.fillOnceLoop counters source world retries = some filled) :
    ∃ patience last later, Inv patience last later ∧
      Settled (last.read buffer.freeLen later).answer ∧
      filled = buffer.filledFrom counters last later := by
  induction retries generalizing source world with
  | zero =>
    rcases settled_or_interrupted (source.read buffer.freeLen world).answer with
      settled | ⟨fault, failed, interrupted⟩
    · rw [fillOnceLoop_settled _ _ _ _ _ settled, Option.some.injEq] at ended
      exact ⟨0, source, world, inv, settled, ended.symm⟩
    · rw [fillOnceLoop_interrupted _ _ _ _ _ failed interrupted] at ended
      cases ended
  | succ retries ih =>
    rcases settled_or_interrupted (source.read buffer.freeLen world).answer with
      settled | ⟨fault, failed, interrupted⟩
    · rw [fillOnceLoop_settled _ _ _ _ _ settled, Option.some.injEq] at ended
      exact ⟨retries + 1, source, world, inv, settled, ended.symm⟩
    · rw [fillOnceLoop_interrupted _ _ _ _ _ failed interrupted] at ended
      exact ih _ _ (sitsOut _ _ _ _ inv failed interrupted) ended

/-- A fill by one read ends when the invariant rules out interruptions once patience is used up. -/
theorem fillOnceLoop_isSome (counters : List Counter) (buffer : Buffer) (source : Source ρ)
    (world : World) (retries : Nat) (sitsOut : SitsOut buffer.freeLen Inv)
    (inv : Inv retries source world)
    (final : ∀ last later, Inv 0 last later → Settled (last.read buffer.freeLen later).answer) :
    (buffer.fillOnceLoop counters source world retries).isSome = true := by
  induction retries generalizing source world with
  | zero =>
    rw [fillOnceLoop_settled _ _ _ _ _ (final source world inv)]
    rfl
  | succ retries ih =>
    rcases settled_or_interrupted (source.read buffer.freeLen world).answer with
      settled | ⟨fault, failed, interrupted⟩
    · rw [fillOnceLoop_settled _ _ _ _ _ settled]
      rfl
    · rw [fillOnceLoop_interrupted _ _ _ _ _ failed interrupted]
      exact ih _ _ (sitsOut _ _ _ _ inv failed interrupted)

/-- What every read keeps, and every call of the counters, a fill by one read keeps. -/
theorem fillOnce_keeps {Kept : World → Prop} {retries : Nat} {counters : List Counter}
    {buffer : Buffer} {source : Source ρ} {world : World} {filled : Filled ρ}
    (read : ∀ (source : Source ρ) wanted {now}, Kept now → Kept (source.read wanted now).world)
    (count : ∀ bytes {now}, Kept now → Kept (now.count counters bytes))
    (ended : buffer.fillOnce retries counters source world = some filled) (kept : Kept world) :
    Kept filled.world := by
  unfold fillOnce at ended
  split at ended
  · cases ended
    exact kept
  · have sitsOut : SitsOut buffer.freeLen fun _ (_ : Source ρ) later => Kept later :=
      fun _ last _ _ before _ _ => read last buffer.freeLen before
    obtain ⟨_, last, later, before, _, rfl⟩ :=
      fillOnceLoop_ends counters buffer source world retries sitsOut kept filled ended
    have after := read last buffer.freeLen before
    unfold filledFrom
    dsimp only
    split
    · exact count _ after
    · exact after

end Buffer

end Conduit
