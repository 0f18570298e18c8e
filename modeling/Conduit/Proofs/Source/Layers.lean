import Conduit.Proofs.Source.Draws
import Conduit.Source.Basic

set_option autoImplicit false

namespace Conduit

namespace Source

variable {ρ : Type} [ReadPeer ρ]

/-- Two sources deliver the same and keep the same books. -/
structure Alike (source other : Source ρ) : Prop where
  stock : ∀ stores, other.stock stores = source.stock stores
  live : other.live? = source.live?
  gives : ∀ tail patience, source.Gives tail patience → other.Gives tail patience
  due : ∀ counter stores, other.due counter stores = source.due counter stores
  registered : ∀ counter, other.registered counter = source.registered counter
  orderly : source.Orderly → other.Orderly
  far : other.far? = source.far?
  handles : other.handles = source.handles

namespace Alike

theorem refl (source : Source ρ) : Alike source source :=
  ⟨fun _ => rfl, rfl, fun _ _ => id, fun _ _ => rfl, fun _ => rfl, id, rfl, rfl⟩

/-- A layer that is read out and holds no fault back can be left out. -/
theorem through {inner other : Source ρ} (alike : Alike inner other) :
    Alike (.cached none none inner) other :=
  ⟨alike.stock, alike.live, fun tail patience gives => alike.gives tail patience gives.2, alike.due,
    alike.registered, fun orderly => alike.orderly orderly.2, alike.far, alike.handles⟩

theorem draws {source other : Source ρ} (alike : Alike source other) (world : World) :
    Draws source world [] [] other world where
  heard := (List.append_nil _).symm
  flow := by rw [alike.stock, List.append_nil, List.nil_append]
  live := fun reader found => ⟨reader, alike.live.trans found, .still reader⟩
  supply := fun tail patience gives =>
    ⟨tail, patience, rfl, Nat.le_refl _, alike.gives tail patience gives⟩
  books := fun counter => ⟨0, rfl, by simp [alike.due]⟩
  registered := alike.registered
  quiet := rfl
  orderly := alike.orderly
  far := alike.far
  handles := fun _ inside => .inl (alike.handles ▸ inside)
  held := fun _ _ _ => rfl
  made := Nat.le_refl _

end Alike

omit [ReadPeer ρ] in
/-- The source that a picked layer was taken off. -/
def putBack : Source ρ × Option SharedId → Source ρ
  | (rest, none) => rest
  | (rest, some handle) => .cached (some handle) none rest

theorem alike_pick (source : Source ρ) : Alike source (putBack source.pick) := by
  induction source with
  | peer | descriptor | buffer | counted | plain => exact .refl _
  | cached layer deferred inner ih =>
    cases deferred with
    | some fault => exact .refl _
    | none =>
      cases layer with
      | none => exact ih.through
      | some handle => exact .refl _

theorem handles_pick_none {source rest : Source ρ} (picked : source.pick = (rest, none)) :
    source.handles = rest.handles := by
  have same := (alike_pick source).handles
  rw [picked] at same
  exact same.symm

theorem handles_pick_some {source rest : Source ρ} {handle : SharedId}
    (picked : source.pick = (rest, some handle)) : source.handles = handle :: rest.handles := by
  have same := (alike_pick source).handles
  rw [picked] at same
  exact same.symm

theorem far_pick (source : Source ρ) : source.pick.1.far? = source.far? := by
  have same := (alike_pick source).far
  cases picked : source.pick with
  | mk rest cached =>
    rw [picked] at same
    cases cached <;> exact same

/-- A layer whose buffer holds nothing is let go. -/
theorem draws_release (handle : SharedId) (rest : Source ρ) (world : World)
    (empty : world.stores.held handle = []) :
    Draws (.cached (some handle) none rest) world [] [] rest (world.release handle) where
  heard := by
    rw [World.obtained_of_journal_eq (World.journal_release world handle), List.append_nil]
  flow := by
    rw [stock, empty, World.stores_release world handle empty,
      Stores.emptied_of_empty _ _ empty, List.append_nil]
  live := fun reader found => ⟨reader, found, .still reader⟩
  supply := fun tail patience gives => ⟨tail, patience, rfl, Nat.le_refl _, gives.2⟩
  books := by
    intro counter
    refine ⟨0, World.tally_of_journal_eq (World.journal_release world handle) counter, ?_⟩
    rw [World.stores_release world handle empty, due, Stores.emptied_of_empty _ _ empty]
    simp
  registered := fun _ => rfl
  quiet := World.emptyCalls_of_journal_eq (World.journal_release world handle)
  orderly := fun orderly => orderly.2
  far := rfl
  handles := fun _ inside => .inl (List.mem_cons_of_mem handle inside)
  held := fun other outside _ =>
    World.held_release_other world handle other (fun same => outside (same ▸ List.mem_cons_self))
  made := World.next_le_release world handle

/-- The first bytes of a layer are taken out of its buffer. -/
theorem draws_consume (handle : SharedId) (rest : Source ρ) (world : World) (buffer : Buffer)
    (bytes : Bytes) (held : world.stores.held handle = bytes ++ buffer.unread) :
    Draws (.cached (some handle) none rest) world bytes [] (.cached (some handle) none rest)
      (world.setShared handle buffer) where
  heard := (List.append_nil _).symm
  flow := by
    simp only [stock, held, World.stores_setShared, Stores.held_refilled_same, Stores.emptied,
      Stores.refilled_twice, List.append_nil, List.append_assoc]
  live := fun reader found => ⟨reader, found, .still reader⟩
  supply := fun tail patience gives => ⟨tail, patience, rfl, Nat.le_refl _, gives⟩
  books := by
    intro counter
    refine ⟨0, rfl, ?_⟩
    simp only [due, World.stores_setShared, Stores.emptied, Stores.refilled_twice, List.length_nil,
      Nat.mul_zero, Nat.zero_add, Nat.add_zero]
  registered := fun _ => rfl
  quiet := rfl
  orderly := id
  far := rfl
  handles := fun _ inside => .inl inside
  held := by
    intro other outside _
    rw [World.stores_setShared]
    exact Stores.held_refilled_other _ _ _ _ (fun same => outside (same ▸ List.mem_cons_self))
  made := World.next_le_setShared world handle buffer

/-- Bytes that were read are put back in front, in a new shared buffer. -/
theorem Draws.share {source rest : Source ρ} {world after : World} {bytes gained : Bytes}
    (draws : Draws source world bytes gained rest after) (buffer : Buffer)
    (unread : buffer.unread = bytes) :
    Draws source world [] gained (.cached (some (after.share buffer).1) none rest)
      (after.share buffer).2 := by
  have beneath : (after.share buffer).2.stores.emptied (after.share buffer).1 = after.stores := by
    rw [World.stores_share, Stores.emptied]
    exact (Stores.refilled_twice _ _ _ _).trans
      (Stores.emptied_of_empty _ _ (World.held_next after))
  have inFront : (after.share buffer).2.stores.held (after.share buffer).1 = bytes := by
    rw [World.stores_share]
    exact (Stores.held_refilled_same _ _ _).trans unread
  have grown := World.next_share after buffer
  refine ⟨?_, ?_, draws.live, ?_, ?_, draws.registered, ?_, ?_, draws.far, ?_, ?_, ?_⟩
  · exact (World.obtained_of_journal_eq (World.journal_share after buffer)).trans draws.heard
  · rw [stock, inFront, beneath, List.nil_append, draws.flow]
  · intro tail patience gives
    obtain ⟨left, fewer, split, fits, on⟩ := draws.supply tail patience gives
    exact ⟨left, fewer, split, fits, rfl, on⟩
  · intro counter
    obtain ⟨own, called, settled⟩ := draws.books counter
    refine ⟨own, ?_, ?_⟩
    · exact (World.tally_of_journal_eq (World.journal_share after buffer) counter).trans called
    · rw [due, beneath, settled]
  · exact (World.emptyCalls_of_journal_eq (World.journal_share after buffer)).trans draws.quiet
  · intro orderly
    exact ⟨by simp, draws.orderly orderly⟩
  · intro handle inside
    rcases List.mem_cons.mp inside with new | kept
    · exact .inr (new ▸ draws.made)
    · exact draws.handles handle kept
  · intro handle outside old
    have apart : handle ≠ after.cells.next :=
      Nat.ne_of_lt (Nat.lt_of_lt_of_le old draws.made)
    rw [World.stores_share, Stores.held_refilled_other _ _ _ _ apart,
      draws.held handle outside old]
  · rw [grown]
    exact Nat.le_succ_of_le draws.made

omit [ReadPeer ρ] in
/-- Letting go of a source leaves the journal alone. -/
theorem journal_drop (source : Source ρ) (world : World) :
    (source.drop world).journal = world.journal := by
  induction source generalizing world with
  | peer | descriptor => rfl
  | buffer stock => exact World.journal_dropBuffer world stock
  | cached layer deferred inner ih =>
    cases layer with
    | none => exact ih world
    | some handle => exact (World.journal_release _ handle).trans (ih world)
  | counted _ _ _ ih => exact ih world
  | plain _ ih => exact ih world

section

omit [ReadPeer ρ]

variable (source : Source ρ)

@[simp] theorem stock_uncounted (stores : Stores) :
    source.uncounted.1.stock stores = source.stock stores := by
  induction source with
  | peer | descriptor | buffer | cached | plain => rfl
  | counted _ _ _ ih => exact ih

@[simp] theorem live_uncounted : source.uncounted.1.live? = source.live? := by
  induction source with
  | peer | descriptor | buffer | cached | plain => rfl
  | counted _ _ _ ih => exact ih

@[simp] theorem far_uncounted : source.uncounted.1.far? = source.far? := by
  induction source with
  | peer | descriptor | buffer | cached | plain => rfl
  | counted _ _ _ ih => exact ih

@[simp] theorem handles_uncounted : source.uncounted.1.handles = source.handles := by
  induction source with
  | peer | descriptor | buffer | cached | plain => rfl
  | counted _ _ _ ih => exact ih

theorem registered_uncounted (counter : Counter) : source.registered counter =
    source.uncounted.2.count counter + source.uncounted.1.registered counter := by
  induction source with
  | peer | descriptor | buffer | cached | plain => simp [uncounted]
  | counted counters total inner ih =>
    simp only [uncounted, registered, List.count_append]
    omega

theorem due_uncounted (counter : Counter) (stores : Stores) : source.due counter stores =
    source.uncounted.2.count counter * (source.stock stores).length +
      source.uncounted.1.due counter stores := by
  induction source with
  | peer | descriptor | buffer | cached | plain => simp [uncounted]
  | counted counters total inner ih =>
    simp only [uncounted, due, stock, List.count_append, Nat.add_mul]
    omega

/-- Without a descriptor at the far end there is none to splice from. -/
theorem descriptor_eq_none (bare : source.far? = none) :
    source.descriptor? = none := by
  cases source with
  | descriptor fd => cases bare
  | peer | buffer | cached | counted | plain => rfl

end

@[simp] theorem gives_uncounted (source : Source ρ) (tail : Bytes) (patience : Nat) :
    source.uncounted.1.Gives tail patience ↔ source.Gives tail patience := by
  induction source with
  | peer | descriptor | buffer | cached | plain => exact Iff.rfl
  | counted _ _ _ ih => exact ih

@[simp] theorem orderly_uncounted (source : Source ρ) :
    source.uncounted.1.Orderly ↔ source.Orderly := by
  induction source with
  | peer | descriptor | buffer | cached | plain => exact Iff.rfl
  | counted _ _ _ ih => exact ih

end Source

end Conduit
