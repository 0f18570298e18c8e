import Conduit.Sink.Basic
import Conduit.Source.Basic

set_option autoImplicit false

/-- Two options that are related stay so under functions that carry one relation to another. -/
theorem Option.Rel.map {α β γ δ : Type} {Before : α → β → Prop} {After : γ → δ → Prop}
    {f : α → γ} {g : β → δ} {first : Option α} {second : Option β}
    (related : Option.Rel Before first second)
    (carries : ∀ a b, Before a b → After (f a) (g b)) :
    Option.Rel After (first.map f) (second.map g) := by
  cases related with
  | none => exact .none
  | some before => exact .some (carries _ _ before)

theorem Option.Rel.mono {α β : Type} {Before After : α → β → Prop} {first : Option α}
    {second : Option β} (related : Option.Rel Before first second)
    (weaker : ∀ a b, Before a b → After a b) : Option.Rel After first second := by
  cases related with
  | none => exact .none
  | some before => exact .some (weaker _ _ before)

namespace Conduit

namespace World

/-- A likeness of worlds that keeps what endpoints see the same, and that whatever an endpoint does
to both worlds keeps. -/
structure Likeness (Like : World → World → Prop) : Prop where
  shared : ∀ {world other}, Like world other → ∀ handle, world.shared handle = other.shared handle
  kernel : ∀ {world other}, Like world other → world.kernel = other.kernel
  record : ∀ {world other}, Like world other → ∀ event,
    Like (world.record event) (other.record event)
  inKernel : ∀ {world other}, Like world other → ∀ kernel,
    Like { world with kernel } { other with kernel }
  setShared : ∀ {world other}, Like world other → ∀ handle buffer,
    Like (world.setShared handle buffer) (other.setShared handle buffer)
  release : ∀ {world other}, Like world other → ∀ handle,
    Like (world.release handle) (other.release handle)

theorem count_eq_foldl (world : World) (counters : List Counter) (bytes : Nat) :
    world.count counters bytes = if bytes = 0 then world
      else counters.foldl (fun world counter => world.record (.counted counter bytes)) world := by
  unfold count Journal.count
  split
  · rfl
  · induction counters generalizing world with
    | nil => rfl
    | cons counter rest ih => exact ih (world.record (.counted counter bytes))

theorem Likeness.count {Like : World → World → Prop} (likeness : Likeness Like)
    {world other : World} (like : Like world other) (counters : List Counter) (bytes : Nat) :
    Like (world.count counters bytes) (other.count counters bytes) := by
  rw [count_eq_foldl, count_eq_foldl]
  split
  · exact like
  · induction counters generalizing world other with
    | nil => exact like
    | cons counter rest ih => exact ih (likeness.record like _)

end World

/-- Two calls answer the same and leave the same endpoint, in worlds that are alike. -/
structure Called.Matches {τ α : Type} (Like : World → World → Prop) (called other : Called τ α) :
    Prop where
  answer : called.answer = other.answer
  after : called.after = other.after
  world : Like called.world other.world

theorem Called.Matches.through {τ υ α : Type} {Like : World → World → Prop}
    {called other : Called τ α} (same : called.Matches Like other) (wrap : τ → υ) :
    (called.through wrap).Matches Like (other.through wrap) :=
  ⟨same.answer, congrArg wrap same.after, same.world⟩

theorem Source.read_matches {ρ : Type} [ReadPeer ρ] {Like : World → World → Prop}
    (likeness : World.Likeness Like) (source : Source ρ) (wanted : Nat) {world other : World}
    (like : Like world other) :
    (source.read wanted world).Matches Like (source.read wanted other) := by
  induction source generalizing wanted world other with
  | peer reader => exact ⟨rfl, rfl, likeness.record like _⟩
  | descriptor fd =>
    simp only [read, likeness.kernel like]
    exact ⟨rfl, rfl, likeness.inKernel like _⟩
  | buffer stock => exact ⟨rfl, rfl, like⟩
  | counted counters total inner ih =>
    have beneath := ih wanted like
    simp only [read, beneath.answer, beneath.after]
    split
    · exact ⟨rfl, rfl, likeness.count beneath.world _ _⟩
    · exact ⟨rfl, rfl, beneath.world⟩
  | plain inner ih => exact (ih wanted like).through Source.plain
  | cached layer deferred inner ih =>
    cases deferred with
    | some fault => exact ⟨rfl, rfl, like⟩
    | none =>
      cases wanted with
      | zero => exact ⟨rfl, rfl, like⟩
      | succ wanted =>
        cases layer with
        | none => exact (ih (wanted + 1) like).through (Source.cached none none)
        | some handle =>
          have head : (world.readShared handle (wanted + 1)).1 =
              (other.readShared handle (wanted + 1)).1 := by
            simp only [World.readShared, likeness.shared like]
          have handed : Like (world.readShared handle (wanted + 1)).2
              (other.readShared handle (wanted + 1)).2 := by
            simp only [World.readShared, likeness.shared like]
            exact likeness.setShared like _ _
          simp only [read, head, likeness.shared handed]
          generalize (world.readShared handle (wanted + 1)).2 = after at handed ⊢
          generalize other.readShared handle (wanted + 1) = given at handed ⊢
          -- The layer lets go of the buffer behind its handle in both worlds or in neither.
          have left : Like
              (if (given.2.shared handle).isEmpty then after.release handle else after)
              (if (given.2.shared handle).isEmpty then given.2.release handle else given.2) := by
            split
            · exact likeness.release handed handle
            · exact handed
          have beneath := ih (wanted + 1 - given.1.length) left
          split
          · exact ⟨rfl, rfl, left⟩
          · simp only [beneath.answer, beneath.after]
            split
            · exact ⟨rfl, rfl, beneath.world⟩
            · split <;> exact ⟨rfl, rfl, beneath.world⟩

end Conduit
