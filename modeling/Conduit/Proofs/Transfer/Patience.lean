import Conduit.Proofs.Fault.Crossing
import Conduit.Proofs.Transfer.Draining
import Conduit.Transfer.Fill
import Mathlib.Logic.Function.Iterate

set_option autoImplicit false

namespace Conduit

/-- Work that is done by one call after the other, as long as some is left. -/
structure Effort (S : Type) where
  /-- What a call makes of a state. -/
  next : S → S
  left : S → Nat
  /-- The call that comes next moves nothing, and may be made again. -/
  stalls : S → Prop
  /-- The call that comes next is the last one, whatever is left. -/
  ends : S → Prop
  stalls_goes_on : ∀ {state}, stalls state → ¬ ends state
  stalls_still : ∀ {state}, stalls state → left (next state) = left state
  moves : ∀ {state}, left state ≠ 0 → ¬ stalls state → ¬ ends state → left (next state) < left state

namespace Effort

variable {S : Type} (effort : Effort S)

/-- There is a call to make, and it does not end the effort by itself. -/
def GoesOn (state : S) : Prop := effort.left state ≠ 0 ∧ ¬ effort.ends state

/-- From so many calls on there are too many stalls in a row, and nothing ends the effort before
the last of them. -/
structure Exhausts (state : S) (first : Nat) : Prop where
  goesOn : ∀ call ≤ first + stallLimit, effort.GoesOn (effort.next^[call] state)
  stalled : ∀ call ≤ stallLimit, effort.stalls (effort.next^[first + call] state)

/-- An effort that stands `patience` more stalls before the next progress makes so many calls, up to
a last state. It is said to give up. -/
inductive Spends (saidUp : Prop) : Nat → S → Nat → S → Prop where
  | gaveUp {state : S} (some : effort.left state ≠ 0) (stalls : effort.stalls state)
    (given : saidUp) : Spends saidUp 0 state 1 (effort.next state)
  | stalled {patience calls : Nat} {state last : S} (some : effort.left state ≠ 0)
    (stalls : effort.stalls state) (on : Spends saidUp patience (effort.next state) calls last) :
    Spends saidUp (patience + 1) state (calls + 1) last
  | moved {patience calls : Nat} {state last : S} (some : effort.left state ≠ 0)
    (moves : ¬ effort.stalls state) (goesOn : ¬ effort.ends state)
    (on : Spends saidUp stallLimit (effort.next state) calls last) :
    Spends saidUp patience state (calls + 1) last
  | ended {patience : Nat} {state : S} (some : effort.left state ≠ 0)
    (moves : ¬ effort.stalls state)
    (closed : effort.ends state ∨ effort.left (effort.next state) = 0) (not : ¬ saidUp) :
    Spends saidUp patience state 1 (effort.next state)

variable {effort} {saidUp : Prop} {patience calls first : Nat} {state last : S}

theorem Exhausts.now (all : ∀ call ≤ stallLimit, effort.GoesOn (effort.next^[call] state) ∧
    effort.stalls (effort.next^[call] state)) : effort.Exhausts state 0 where
  goesOn := by
    intro call within
    apply (all call _).1
    omega
  stalled := by
    intro call within
    rw [Nat.zero_add]
    exact (all call within).2

/-- A call that goes on comes before the stalls. -/
theorem Exhausts.later (goesOn : effort.GoesOn state)
    (exhausts : effort.Exhausts (effort.next state) first) :
    effort.Exhausts state (first + 1) where
  goesOn := by
    intro call within
    cases call with
    | zero => exact goesOn
    | succ call =>
      apply exhausts.goesOn
      omega
  stalled := by
    intro call within
    rw [Nat.succ_add, Function.iterate_succ_apply]
    exact exhausts.stalled call within

theorem Exhausts.next (exhausts : effort.Exhausts state (first + 1)) :
    effort.Exhausts (effort.next state) first where
  goesOn := by
    intro call within
    rw [← Function.iterate_succ_apply]
    apply exhausts.goesOn
    omega
  stalled := by
    intro call within
    have stalls := exhausts.stalled call within
    rwa [Nat.succ_add, Function.iterate_succ_apply] at stalls

namespace Spends

theorem some (spends : effort.Spends saidUp patience state calls last) :
    effort.left state ≠ 0 := by
  cases spends with
  | gaveUp some _ _ => exact some
  | stalled some _ _ => exact some
  | moved some _ _ _ => exact some
  | ended some _ _ _ => exact some

theorem last_eq (spends : effort.Spends saidUp patience state calls last) :
    last = effort.next^[calls] state := by
  induction spends with
  | gaveUp | ended => rfl
  | stalled _ _ _ ih => exact ih
  | moved _ _ _ _ ih => exact ih

/-- Each piece of work takes no more calls than the stalls that are stood and one more. -/
theorem calls_le (spends : effort.Spends saidUp patience state calls last) :
    calls ≤ patience + 1 + (stallLimit + 1) * (effort.left state - 1) := by
  induction spends with
  | gaveUp some stalls given => omega
  | stalled some stalls on ih =>
    rw [effort.stalls_still stalls] at ih
    omega
  | @moved patience calls state last some moves goesOn on ih =>
    have fewer := effort.moves some moves goesOn
    have left := on.some
    have within : (stallLimit + 1) * (effort.left (effort.next state) - 1) + (stallLimit + 1) ≤
        (stallLimit + 1) * (effort.left state - 1) := by
      rw [← Nat.mul_succ]
      apply Nat.mul_le_mul_left
      omega
    omega
  | ended some moves closed not => omega

/-- An effort gives up after its last stalls, or else after too many later ones. -/
theorem exhausts (spends : effort.Spends saidUp patience state calls last) (given : saidUp) :
    (calls = patience + 1 ∧ ∀ call ≤ patience, effort.GoesOn (effort.next^[call] state) ∧
      effort.stalls (effort.next^[call] state)) ∨
    ∃ first, effort.Exhausts state first ∧ calls = first + (stallLimit + 1) := by
  induction spends with
  | gaveUp some stalls _ =>
    refine .inl ⟨rfl, fun call within => ?_⟩
    rw [Nat.le_zero.mp within]
    exact ⟨⟨some, effort.stalls_goes_on stalls⟩, stalls⟩
  | stalled some stalls on ih =>
    have goesOn : effort.GoesOn _ := ⟨some, effort.stalls_goes_on stalls⟩
    rcases ih with ⟨count, all⟩ | ⟨first, exhausts, count⟩
    · refine .inl ⟨congrArg (· + 1) count, fun call within => ?_⟩
      cases call with
      | zero => exact ⟨goesOn, stalls⟩
      | succ call => exact all call (Nat.le_of_succ_le_succ within)
    · refine .inr ⟨first + 1, exhausts.later goesOn, ?_⟩
      omega
  | moved some moves goesOn on ih =>
    rcases ih with ⟨count, all⟩ | ⟨first, exhausts, count⟩
    · refine .inr ⟨1, (Exhausts.now all).later ⟨some, goesOn⟩, ?_⟩
      omega
    · refine .inr ⟨first + 1, exhausts.later ⟨some, goesOn⟩, ?_⟩
      omega
  | ended some moves closed not => exact absurd given not

/-- An effort that meets all the stalls that it stands, and one more, gives up at once. -/
theorem stuck (spends : effort.Spends saidUp patience state calls last)
    (stalled : ∀ call ≤ patience, effort.stalls (effort.next^[call] state)) :
    saidUp ∧ calls = patience + 1 := by
  induction spends with
  | gaveUp some stalls given => exact ⟨given, rfl⟩
  | stalled some stalls on ih =>
    have later := ih fun call within => stalled (call + 1) (Nat.succ_le_succ within)
    exact ⟨later.1, congrArg (· + 1) later.2⟩
  | moved some moves goesOn on ih => exact absurd (stalled 0 (Nat.zero_le _)) moves
  | ended some moves closed not => exact absurd (stalled 0 (Nat.zero_le _)) moves

/-- An effort that meets too many stalls in a row has given up by then. -/
theorem of_exhausts (spends : effort.Spends saidUp patience state calls last)
    (within : patience ≤ stallLimit) (exhausts : effort.Exhausts state first) :
    saidUp ∧ calls ≤ first + (stallLimit + 1) := by
  induction spends generalizing first with
  | gaveUp some stalls given =>
    refine ⟨given, ?_⟩
    omega
  | stalled some stalls on ih =>
    cases first with
    | zero =>
      have all := (on.stalled some stalls).stuck fun call fits => by
        have stalls := exhausts.stalled call (Nat.le_trans fits within)
        rwa [Nat.zero_add] at stalls
      refine ⟨all.1, ?_⟩
      omega
    | succ first =>
      have later := ih (by omega) exhausts.next
      refine ⟨later.1, ?_⟩
      omega
  | moved some moves goesOn on ih =>
    cases first with
    | zero => exact absurd (exhausts.stalled 0 (Nat.zero_le _)) moves
    | succ first =>
      have later := ih (Nat.le_refl _) exhausts.next
      refine ⟨later.1, ?_⟩
      omega
  | ended some moves closed not =>
    cases first with
    | zero => exact absurd (exhausts.stalled 0 (Nat.zero_le _)) moves
    | succ first =>
      rcases closed with ends | none
      · exact absurd ends (exhausts.goesOn 0 (Nat.zero_le _)).2
      · exact absurd none (exhausts.goesOn 1 (by omega)).1

end Spends

/-- What a patient effort comes to, when it makes so many calls: it is said to give up just when
there are too many stalls in a row, and then the last of these is its last call. -/
structure Concludes (effort : Effort S) (saidUp : Prop) (start : S) (calls : Nat) (last : S) :
    Prop where
  last_eq : last = effort.next^[calls] start
  /-- So many calls for every piece of work, and no more. -/
  calls_le : calls ≤ (stallLimit + 1) * effort.left start
  exhausts : saidUp → ∃ first, effort.Exhausts start first ∧ calls = first + (stallLimit + 1)
  of_exhausts : ∀ first, effort.Exhausts start first →
    saidUp ∧ calls ≤ first + (stallLimit + 1)

/-- Without work no call is made. -/
theorem Concludes.nothing (none : effort.left state = 0) (not : ¬ saidUp) :
    effort.Concludes saidUp state 0 state where
  last_eq := rfl
  calls_le := Nat.zero_le _
  exhausts := fun given => absurd given not
  of_exhausts := fun _ exhausts => absurd none (exhausts.goesOn 0 (Nat.zero_le _)).1

theorem Spends.concludes (spends : effort.Spends saidUp stallLimit state calls last) :
    effort.Concludes saidUp state calls last where
  last_eq := spends.last_eq
  calls_le := by
    have within := spends.calls_le
    have some := spends.some
    have sum : stallLimit + 1 + (stallLimit + 1) * (effort.left state - 1) =
        (stallLimit + 1) * effort.left state := by
      rw [Nat.add_comm, ← Nat.mul_succ]
      congr 1
      omega
    rwa [sum] at within
  exhausts := by
    intro given
    rcases spends.exhausts given with ⟨count, all⟩ | later
    · refine ⟨0, .now all, ?_⟩
      rw [count, Nat.zero_add]
    · exact later
  of_exhausts := fun _ exhausts => spends.of_exhausts (Nat.le_refl _) exhausts

end Effort

end Conduit
