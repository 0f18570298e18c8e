import Conduit.Proofs.World.Tenancy

set_option autoImplicit false

namespace Conduit

/-- A pool after a step: it gave storages out and kept those that came back and that it had room
for. -/
def Pool.dealt (row : Pool) (pool : PoolId) (deal : Deal) : Pool :=
  (backTo deal.back pool).foldl Pool.accept (row.give (deal.taken.count pool))

theorem Pool.length_dealt (row : Pool) (pool : PoolId) (deal : Deal)
    (few : row.idle.length ≤ row.maxRetained) :
    (row.dealt pool deal).maxRetained = row.maxRetained ∧
      (row.dealt pool deal).idle.length = min row.maxRetained
        (row.idle.length - deal.taken.count pool + (backTo deal.back pool).length) := by
  have less : (row.give (deal.taken.count pool)).idle.length =
      row.idle.length - deal.taken.count pool := List.length_drop
  have kept := HandsBack.length_foldl_accept (row.give (deal.taken.count pool))
    (backTo deal.back pool) (by rw [less]; exact (Nat.sub_le _ _).trans few)
  rw [less] at kept
  exact kept

/-- How many storages of a pool are in buffers, and in shared buffers that only the first handles
are on. -/
def World.within (world : World) (inner outer : Multiset SharedId) (buffers : Multiset Buffer)
    (pool : PoolId) : Nat :=
  (buffers.map (·.owned pool)).sum +
    ∑ handle ∈ inner.toFinset \ outer.toFinset, (world.shared handle).owned pool

/-- Only shared buffers with a live handle are over storages of pools. -/
theorem Estate.Sound.lent_eq {estate : Estate} (sound : estate.Sound) (pool : PoolId) :
    estate.world.lent pool =
      ∑ handle ∈ estate.handles.toFinset, (estate.world.shared handle).owned pool := by
  symm
  apply Finset.sum_subset
  · intro handle alive
    rw [Finset.mem_range]
    exact sound.made (Multiset.count_pos.mpr (Multiset.mem_toFinset.mp alive))
  · intro handle _ dead
    have none := Multiset.count_eq_zero.mpr fun alive => dead (Multiset.mem_toFinset.mpr alive)
    rw [sound.hollow handle none]
    rfl

namespace Tenancy

open Estate

variable {allocator : Allocator} {before middle after : Tenancy} {deals more : List Deal}

def takenFrom (deals : List Deal) (pool : PoolId) : Nat :=
  (deals.map fun deal => deal.taken.count pool).sum

/-- How many storages went back to a pool. -/
def givenBack (deals : List Deal) (pool : PoolId) : Nat :=
  (deals.map fun deal => (backTo deal.back pool).length).sum

theorem takenFrom_snoc (deals : List Deal) (deal : Deal) (pool : PoolId) :
    takenFrom (deals ++ [deal]) pool = takenFrom deals pool + deal.taken.count pool := by
  rw [takenFrom, List.map_append, List.sum_append, takenFrom]
  rfl

theorem givenBack_snoc (deals : List Deal) (deal : Deal) (pool : PoolId) :
    givenBack (deals ++ [deal]) pool =
      givenBack deals pool + (backTo deal.back pool).length := by
  rw [givenBack, List.map_append, List.sum_append, givenBack]
  rfl

/-- Each storage that was taken or on loan before is on loan still or went back once. -/
theorem Path.balance (path : Path allocator before deals after) (whole : before.Whole)
    (pool : PoolId) :
    before.estate.loans pool + takenFrom deals pool =
      after.estate.loans pool + givenBack deals pool := by
  induction path with
  | nil => rfl
  | snoc path step ih =>
    have loans := (step.settles (path.whole whole)).loans pool
    rw [step.stray, List.count_nil] at loans
    rw [takenFrom_snoc, givenBack_snoc]
    omega

/-- A pool does along a path what its steps make it do. -/
theorem Path.pools (path : Path allocator before deals after) (whole : before.Whole) :
    before.world.pools.next ≤ after.world.pools.next ∧
      ∀ pool < before.world.pools.next, after.world.pools.get pool =
        deals.foldl (fun row deal => row.dealt pool deal) (before.world.pools.get pool) := by
  induction path with
  | nil => exact ⟨Nat.le_refl _, fun _ _ => rfl⟩
  | snoc path step ih =>
    have settles := step.settles (path.whole whole)
    refine ⟨ih.1.trans settles.next, fun pool made => ?_⟩
    rw [List.foldl_append, ← ih.2 pool made]
    exact settles.pools pool (Nat.lt_of_lt_of_le made ih.1)

/-- The idle storages of a pool along a path, when so many new ones were made for it. What the
borrower owes counts as idle, since it will go back. -/
structure Holds (pool : PoolId) (before after : Tenancy) (fresh : Nat) : Prop where
  room : (after.world.pools.get pool).maxRetained = (before.world.pools.get pool).maxRetained
  most : (after.world.pools.get pool).idle.length + after.estate.loans pool ≤
    (before.world.pools.get pool).idle.length + before.estate.loans pool + fresh
  least : (before.world.pools.get pool).maxRetained ≤
      (after.world.pools.get pool).idle.length + after.loan.owed after.world pool ∨
    (before.world.pools.get pool).idle.length + before.estate.loans pool + fresh ≤
      (after.world.pools.get pool).idle.length + after.estate.loans pool

/-- A new storage is made only when one is taken and none is idle. -/
theorem Holds.step {pool : PoolId} {deal : Deal} {fresh : Nat}
    (holds : Holds pool before middle fresh) (whole : middle.Whole)
    (made : pool < middle.world.pools.next) (step : Step allocator middle after deal) :
    Holds pool before after
      (fresh + (deal.taken.count pool - (middle.world.pools.get pool).idle.length)) := by
  have settles := step.settles whole
  have loans := settles.loans pool
  have owed := step.owed_le whole pool
  obtain ⟨most, idle⟩ := (middle.world.pools.get pool).length_dealt pool deal
    (whole.sound.stocked pool).few
  have dealt : after.world.pools.get pool = (middle.world.pools.get pool).dealt pool deal :=
    settles.pools pool made
  rw [step.stray, List.count_nil] at loans
  rw [← dealt] at most idle
  obtain ⟨room, high, low⟩ := holds
  rw [room] at most idle
  refine ⟨most, ?_, ?_⟩
  · omega
  · omega

theorem Path.holds (path : Path allocator before deals after) (whole : before.Whole)
    {pool : PoolId} (made : pool < before.world.pools.next) :
    ∃ fresh ≤ takenFrom deals pool, Holds pool before after fresh := by
  induction path with
  | nil => exact ⟨0, Nat.le_refl _, rfl, Nat.le_refl _, .inr (Nat.le_refl _)⟩
  | @snoc deals deal middle after path step ih =>
    obtain ⟨fresh, few, holds⟩ := ih
    have there := Nat.lt_of_lt_of_le made (path.pools whole).1
    refine ⟨_, ?_, holds.step (path.whole whole) there step⟩
    rw [takenFrom_snoc]
    omega

section

variable {world later : World} {inner outer : Multiset SharedId}
  {buffers others : Multiset Buffer}

/-- Where the borrower has nothing at both ends and the others have less at the second one, what is
on loan no more are the storages that only they had. -/
theorem Path.loans
    (path : Path allocator ⟨world, .nothing, inner + outer, buffers + others⟩ deals
      ⟨later, .nothing, outer, others⟩)
    (whole : Whole ⟨world, .nothing, inner + outer, buffers + others⟩) (pool : PoolId) :
    Estate.loans ⟨world, inner + outer, buffers + others⟩ pool =
      Estate.loans ⟨later, outer, others⟩ pool + world.within inner outer buffers pool := by
  have early := whole.sound
  have late := (path.whole whole).sound
  have stays := (path.stays whole).2
  rw [estate_nothing] at early late
  simp only [estate_nothing] at stays
  have same : ∑ handle ∈ outer.toFinset, (later.shared handle).owned pool =
      ∑ handle ∈ outer.toFinset, (world.shared handle).owned pool := by
    apply Finset.sum_congr rfl
    intro handle member
    have alive := Multiset.mem_toFinset.mp member
    have made := early.made (Multiset.count_pos.mpr (Multiset.mem_add.mpr (.inr alive)))
    have owner := ((stays handle made alive).2 (whole.shared handle)).2.2
    rw [Buffer.owned, Buffer.owned, owner]
  have parts : (inner + outer).toFinset = (inner.toFinset \ outer.toFinset) ∪ outer.toFinset := by
    rw [Multiset.toFinset_add, Finset.sdiff_union_self_eq_union]
  have lent := early.lent_eq pool
  have rest := late.lent_eq pool
  dsimp only at lent rest
  rw [parts, Finset.sum_union Finset.sdiff_disjoint] at lent
  rw [same] at rest
  show ((buffers + others).map _).sum + world.lent pool =
    (others.map _).sum + later.lent pool + world.within inner outer buffers pool
  rw [World.within, Multiset.map_add, Multiset.sum_add, lent, rest]
  omega

/-- Such a path leaves a pool with the idle storages that it had, the new ones made for the
borrower, and those that only the others had, as far as it keeps so many. -/
theorem Path.idle
    (path : Path allocator ⟨world, .nothing, inner + outer, buffers + others⟩ deals
      ⟨later, .nothing, outer, others⟩)
    (whole : Whole ⟨world, .nothing, inner + outer, buffers + others⟩) {pool : PoolId}
    (made : pool < world.pools.next) :
    ∃ fresh ≤ takenFrom deals pool,
      (later.pools.get pool).idle.length = min (world.pools.get pool).maxRetained
        ((world.pools.get pool).idle.length + fresh + world.within inner outer buffers pool) := by
  obtain ⟨fresh, few, room, most, least⟩ := path.holds whole made
  have stocked := ((path.whole whole).sound.stocked pool).few
  have loans := path.loans whole pool
  simp only [estate_nothing, Borrowed.owed] at room most least stocked
  rw [room] at stocked
  exact ⟨fresh, few, by omega⟩

/-- Each storage that was taken, and each one that only the others had, went back once. -/
theorem Path.givenBack_eq
    (path : Path allocator ⟨world, .nothing, inner + outer, buffers + others⟩ deals
      ⟨later, .nothing, outer, others⟩)
    (whole : Whole ⟨world, .nothing, inner + outer, buffers + others⟩) (pool : PoolId) :
    givenBack deals pool = takenFrom deals pool + world.within inner outer buffers pool := by
  have balance := path.balance whole pool
  have loans := path.loans whole pool
  rw [estate_nothing, estate_nothing] at balance
  omega

end

end Tenancy

end Conduit
