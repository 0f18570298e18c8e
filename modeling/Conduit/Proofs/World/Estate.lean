import Conduit.Proofs.World.Pools
import Mathlib.Algebra.BigOperators.Group.Finset.Basic
import Mathlib.Data.Multiset.Filter
import Mathlib.Tactic.Abel

set_option autoImplicit false

namespace Conduit

/-- A world with the live handles and the unshared buffers in it. -/
structure Estate where
  world : World
  handles : Multiset SharedId
  buffers : Multiset Buffer

/-- One if a pool owns the storage of the buffer, zero otherwise. -/
def Buffer.owned (buffer : Buffer) (pool : PoolId) : Nat :=
  if buffer.owner = some pool then 1 else 0

theorem Buffer.length_backTo_claim (buffer : Buffer) (pool : PoolId) :
    (backTo buffer.claim.toList pool).length = buffer.owned pool := by
  rw [claim, owned]
  cases buffer.owner with
  | none => rfl
  | some owner =>
    by_cases same : owner = pool
    · simp [backTo, same]
    · simp [backTo, same]

/-- Who owns a storage is a matter of the claim to it. -/
theorem Buffer.owner_of_claim {buffer other : Buffer} (same : other.claim = buffer.claim) :
    other.owner = buffer.owner := by
  have forget : ∀ any : Buffer, any.claim.map Prod.fst = any.owner := by
    intro any
    rw [claim]
    cases any.owner <;> rfl
  rw [← forget, same, forget]

/-- Buffers over storages of a pool are as many as claims to such storages. -/
theorem Buffer.sum_owned (buffers : Multiset Buffer) (pool : PoolId) :
    (buffers.map (·.owned pool)).sum =
      (buffers.filterMap Buffer.claim).countP fun each => each.1 = pool := by
  induction buffers using Multiset.induction_on with
  | empty => rfl
  | cons buffer rest ih =>
    rw [Multiset.map_cons, Multiset.sum_cons, ih, owned]
    cases owner : buffer.owner with
    | none =>
      have claim : buffer.claim = none := by rw [claim, owner]; rfl
      rw [Multiset.filterMap_cons_none _ _ claim, if_neg (by simp), Nat.zero_add]
    | some other =>
      have claim : buffer.claim = some (other, buffer.storage) := by rw [claim, owner]; rfl
      rw [Multiset.filterMap_cons_some _ _ _ claim, Multiset.countP_cons, Nat.add_comm]
      simp only [Option.some.injEq]

/-- How many shared buffers are over storages of a pool. -/
def World.lent (world : World) (pool : PoolId) : Nat :=
  ∑ handle ∈ Finset.range world.cells.next, (world.shared handle).owned pool

namespace World

theorem shared_put (world : World) (handle other : SharedId) (cell : Cell) :
    ({ world with cells := world.cells.put handle cell } : World).shared other =
      if other = handle then cell.buffer else world.shared other := by
  rw [shared, Table.get_put]
  split <;> rfl

theorem owners_put (world : World) (handle other : SharedId) (cell : Cell) :
    ({ world with cells := world.cells.put handle cell } : World).owners other =
      if other = handle then cell.owners else world.owners other := by
  rw [owners, Table.get_put]
  split <;> rfl

theorem owners_setShared (world : World) (handle other : SharedId) (buffer : Buffer) :
    (world.setShared handle buffer).owners other = world.owners other := by
  refine (owners_put world handle other _).trans ?_
  split
  · rename_i same
    rw [same]
    rfl
  · rfl

theorem shared_share (world : World) (buffer : Buffer) (handle : SharedId) :
    (world.share buffer).2.shared handle =
      if handle = world.cells.next then buffer else world.shared handle := by
  rw [shared, share, Table.get_add]
  split <;> rfl

theorem owners_share (world : World) (buffer : Buffer) (handle : SharedId) :
    (world.share buffer).2.owners handle =
      if handle = world.cells.next then 1 else world.owners handle := by
  rw [owners, share, Table.get_add]
  split <;> rfl

/-- Shared buffers that belong to the same pools as before are as many for each pool. -/
theorem lent_congr {world later : World} (next : later.cells.next = world.cells.next)
    (owner : ∀ handle, (later.shared handle).owner = (world.shared handle).owner)
    (pool : PoolId) : later.lent pool = world.lent pool := by
  rw [lent, next, lent]
  apply Finset.sum_congr rfl
  intro handle _
  rw [Buffer.owned, owner, Buffer.owned]

/-- Changing what is behind one handle changes only its part of the sum. -/
theorem lent_change {world later : World} {handle : SharedId} (pool : PoolId)
    (made : handle < world.cells.next) (next : later.cells.next = world.cells.next)
    (others : ∀ other, other ≠ handle → later.shared other = world.shared other) :
    later.lent pool + (world.shared handle).owned pool =
      world.lent pool + (later.shared handle).owned pool := by
  have inside : handle ∈ Finset.range world.cells.next := Finset.mem_range.mpr made
  have rest : ∀ other ∈ (Finset.range world.cells.next).erase handle,
      (later.shared other).owned pool = (world.shared other).owned pool := by
    intro other member
    rw [others other (Finset.ne_of_mem_erase member)]
  rw [lent, lent, next, ← Finset.add_sum_erase _ _ inside, ← Finset.add_sum_erase _ _ inside,
    Finset.sum_congr rfl rest]
  have swap : ∀ first middle last : Nat, first + middle + last = last + middle + first := by omega
  exact swap _ _ _

/-- A buffer that becomes a shared one adds its part to the sum. -/
theorem lent_share (world : World) (buffer : Buffer) (pool : PoolId) :
    (world.share buffer).2.lent pool = world.lent pool + buffer.owned pool := by
  have next : (world.share buffer).2.cells.next = world.cells.next + 1 := Table.next_add _ _
  rw [lent, next, Finset.sum_range_succ, shared_share, if_pos rfl, lent]
  congr 1
  apply Finset.sum_congr rfl
  intro handle member
  rw [shared_share, if_neg (Nat.ne_of_lt (Finset.mem_range.mp member))]

end World

namespace Estate

variable {before middle after : Estate}

/-- How many live handles there are on a shared buffer. -/
def live (estate : Estate) (handle : SharedId) : Nat := estate.handles.count handle

/-- How many storages of a pool are in buffers, shared or not. -/
def loans (estate : Estate) (pool : PoolId) : Nat :=
  (estate.buffers.map (·.owned pool)).sum + estate.world.lent pool

def claims (estate : Estate) : Multiset (PoolId × Bytes) :=
  estate.buffers.filterMap Buffer.claim

/-- Every owner is counted, every storage of a pool fits it, and nothing is left behind handles that
are gone. -/
structure Sound (estate : Estate) : Prop where
  stocked : ∀ pool, (estate.world.pools.get pool).Stocked
  owners : ∀ handle, estate.world.owners handle = estate.live handle
  fits : ∀ buffer ∈ estate.buffers, estate.world.Fits buffer
  shared : ∀ handle, estate.world.Fits (estate.world.shared handle)
  hollow : ∀ handle, estate.live handle = 0 → estate.world.shared handle = .hollow

/-- Handles and buffers were let go of, and these storages went back to their pools. -/
structure Lets (before after : Estate) (back : List (PoolId × Bytes)) : Prop where
  sound : after.Sound
  pools : HandsBack before.world.pools after.world.pools back
  loans : ∀ pool, before.loans pool = after.loans pool + (backTo back pool).length
  fewer : ∀ handle, after.live handle ≤ before.live handle
  kept : ∀ handle, 0 < after.live handle →
    (after.world.shared handle).claim = (before.world.shared handle).claim
  /-- What went back are the storages of the buffers let go of and of the shared buffers that lost
  their last handle. -/
  parts : ∃ (freed : Multiset (PoolId × Bytes)) (ended : List SharedId),
    before.claims = after.claims + freed ∧ ended.Nodup ∧
    (∀ handle, handle ∈ ended ↔ 0 < before.live handle ∧ after.live handle = 0) ∧
    (back : Multiset (PoolId × Bytes)) =
      freed + (ended.filterMap fun handle => (before.world.shared handle).claim : List _)

theorem Sound.made (sound : before.Sound) {handle : SharedId} (alive : 0 < before.live handle) :
    handle < before.world.cells.next := by
  by_contra beyond
  have owners := sound.owners handle
  rw [World.owners, Table.get_of_next_le _ (Nat.not_lt.mp beyond)] at owners
  rw [← owners] at alive
  cases alive

namespace Lets

variable {first second : List (PoolId × Bytes)}

theorem trans (one : Lets before middle first) (other : Lets middle after second) :
    Lets before after (first ++ second) := by
  obtain ⟨freed, ended, claims, distinct, exact, parts⟩ := one.parts
  obtain ⟨later, gone, claimed, distinctGone, exactGone, partsGone⟩ := other.parts
  refine ⟨other.sound, one.pools.trans other.pools, ?_,
    fun handle => (other.fewer handle).trans (one.fewer handle), ?_, freed + later, ended ++ gone,
    ?_, ?_, ?_, ?_⟩
  · intro pool
    rw [one.loans pool, other.loans pool, backTo_append, List.length_append]
    omega
  · intro handle alive
    rw [other.kept handle alive]
    exact one.kept handle (Nat.lt_of_lt_of_le alive (other.fewer handle))
  · rw [claims, claimed, add_assoc, add_comm later freed]
  · -- A handle that is dead in between does not die again.
    refine List.nodup_append.mpr ⟨distinct, distinctGone, ?_⟩
    rintro handle inside _ member rfl
    have dead := ((exact handle).mp inside).2
    have alive := ((exactGone handle).mp member).1
    omega
  · intro handle
    have less := one.fewer handle
    have lesser := other.fewer handle
    rw [List.mem_append, exact, exactGone]
    omega
  · have same : (gone.filterMap fun handle => (middle.world.shared handle).claim) =
        gone.filterMap fun handle => (before.world.shared handle).claim := by
      apply List.filterMap_congr
      intro handle member
      exact one.kept handle ((exactGone handle).mp member).1
    rw [← Multiset.coe_add, parts, partsGone, same, List.filterMap_append, ← Multiset.coe_add]
    abel

variable {world later : World} {handles : Multiset SharedId} {buffers others : Multiset Buffer}

/-- No buffer loses its last owner, and whatever changes is over the storage that it was over. -/
theorem quiet {copies : Multiset SharedId} (sound : Sound ⟨world, handles, buffers⟩)
    (pools : later.pools = world.pools) (next : later.cells.next = world.cells.next)
    (owners : ∀ handle, later.owners handle = copies.count handle)
    (fewer : ∀ handle, copies.count handle ≤ handles.count handle)
    (alive : ∀ handle, copies.count handle = 0 → handles.count handle = 0)
    (shared : ∀ handle, (later.shared handle).claim = (world.shared handle).claim)
    (hollow : ∀ handle, handles.count handle = 0 → later.shared handle = world.shared handle)
    (stocks : others.filterMap Buffer.claim = buffers.filterMap Buffer.claim) :
    Lets ⟨world, handles, buffers⟩ ⟨later, copies, others⟩ [] := by
  have hands : HandsBack world.pools later.pools [] := by
    rw [pools]
    exact .refl _
  refine ⟨⟨?_, owners, ?_, ?_, ?_⟩, hands, ?_, fewer, fun handle _ => shared handle,
    0, [], ?_, List.nodup_nil, ?_, rfl⟩
  · intro pool
    show (later.pools.get pool).Stocked
    rw [pools]
    exact sound.stocked pool
  · intro buffer member
    cases claim : buffer.claim with
    | none => exact later.fits_of_unowned (Option.map_eq_none_iff.mp claim)
    | some each =>
      have claimed := (Multiset.mem_filterMap _ _).mpr ⟨buffer, member, claim⟩
      rw [stocks] at claimed
      obtain ⟨former, inside, same⟩ := (Multiset.mem_filterMap _ _).mp claimed
      exact ((sound.fits former inside).of_claim (claim.trans same.symm)).handsBack hands
  · exact fun handle => ((sound.shared handle).of_claim (shared handle)).handsBack hands
  · intro handle gone
    have dead := alive handle gone
    exact (hollow handle dead).trans (sound.hollow handle dead)
  · intro pool
    have lent := World.lent_congr next (fun handle => Buffer.owner_of_claim (shared handle)) pool
    show (buffers.map _).sum + world.lent pool = (others.map _).sum + later.lent pool + 0
    rw [Buffer.sum_owned, Buffer.sum_owned, stocks, lent, Nat.add_zero]
  · show buffers.filterMap Buffer.claim = others.filterMap Buffer.claim + 0
    rw [stocks, add_zero]
  · intro handle
    show handle ∈ [] ↔ 0 < handles.count handle ∧ copies.count handle = 0
    have dead := alive handle
    simp only [List.not_mem_nil, false_iff]
    omega

/-- A buffer without a storage of a pool is nobody's concern. -/
theorem unowned {buffer : Buffer} (sound : Sound ⟨world, handles, buffers⟩)
    (unowned : buffer.owner = none) :
    Lets ⟨world, handles, buffers⟩ ⟨world, handles, buffer ::ₘ buffers⟩ [] := by
  have claim : buffer.claim = none := by rw [Buffer.claim, unowned]; rfl
  apply quiet sound rfl rfl sound.owners (fun _ => Nat.le_refl _) (fun _ => id) (fun _ => rfl)
  · exact fun _ _ => rfl
  · rw [Multiset.filterMap_cons_none _ _ claim]

theorem drop {buffer : Buffer} (sound : Sound ⟨world, handles, buffer ::ₘ buffers⟩) :
    Lets ⟨world, handles, buffer ::ₘ buffers⟩ ⟨world.dropBuffer buffer, handles, buffers⟩
      buffer.claim.toList := by
  have fits : world.Fits buffer := sound.fits buffer (Multiset.mem_cons_self _ _)
  obtain ⟨hands, _⟩ := World.freeBuffer_handsBack fits
  have cells : (world.dropBuffer buffer).cells = world.cells := world.cells_freeBuffer buffer
  have shared : ∀ handle, (world.dropBuffer buffer).shared handle = world.shared handle := by
    intro handle
    rw [World.shared, cells, World.shared]
  refine ⟨⟨?_, ?_, ?_, ?_, ?_⟩, hands, ?_, fun _ => Nat.le_refl _, ?_,
    (buffer.claim.toList : Multiset _), [], ?_, List.nodup_nil, ?_, ?_⟩
  · apply hands.stocked sound.stocked
    intro each member
    exact fits.length_claim (Option.mem_toList.mp member)
  · intro handle
    show (world.dropBuffer buffer).owners handle = _
    rw [World.owners, cells]
    exact sound.owners handle
  · exact fun other member =>
      (sound.fits other (Multiset.mem_cons_of_mem member)).handsBack hands
  · intro handle
    show World.Fits _ ((world.dropBuffer buffer).shared handle)
    rw [shared]
    exact (sound.shared handle).handsBack hands
  · intro handle gone
    show (world.dropBuffer buffer).shared handle = _
    rw [shared]
    exact sound.hollow handle gone
  · intro pool
    have lent := World.lent_congr (congrArg Table.next cells)
      (fun handle => congrArg Buffer.owner (shared handle)) pool
    show ((buffer ::ₘ buffers).map _).sum + world.lent pool =
      (buffers.map _).sum + (world.dropBuffer buffer).lent pool + _
    rw [Multiset.map_cons, Multiset.sum_cons, lent, buffer.length_backTo_claim]
    omega
  · intro handle _
    show ((world.dropBuffer buffer).shared handle).claim = _
    rw [shared]
  · show (buffer ::ₘ buffers).filterMap Buffer.claim = buffers.filterMap Buffer.claim + _
    cases claim : buffer.claim with
    | none =>
      rw [Multiset.filterMap_cons_none _ _ claim]
      exact (add_zero _).symm
    | some each =>
      rw [Multiset.filterMap_cons_some _ _ _ claim, add_comm]
      exact (Multiset.singleton_add each _).symm
  · intro handle
    show handle ∈ [] ↔ 0 < handles.count handle ∧ handles.count handle = 0
    simp only [List.not_mem_nil, false_iff]
    omega
  · exact (add_zero _).symm

end Lets

section

variable {world : World} {handle : SharedId} {handles : Multiset SharedId}
  {buffers : Multiset Buffer}

theorem Sound.unshare (sound : Sound ⟨world, handle ::ₘ handles, buffers⟩)
    (last : handle ∉ handles) :
    let later : World := { world with cells := world.cells.put handle default }
    Sound ⟨later, handles, world.shared handle ::ₘ buffers⟩ ∧
      ∀ pool, loans ⟨world, handle ::ₘ handles, buffers⟩ pool =
        loans ⟨later, handles, world.shared handle ::ₘ buffers⟩ pool := by
  intro later
  have made : handle < world.cells.next :=
    sound.made (Multiset.count_pos.mpr (Multiset.mem_cons_self _ _))
  have gone : later.shared handle = .hollow := by
    rw [World.shared_put, if_pos rfl]
    rfl
  have others : ∀ other, other ≠ handle → later.shared other = world.shared other := by
    intro other apart
    rw [World.shared_put, if_neg apart]
  refine ⟨⟨sound.stocked, ?_, ?_, ?_, ?_⟩, ?_⟩
  · intro other
    show later.owners other = handles.count other
    rw [World.owners_put]
    by_cases same : other = handle
    · rw [if_pos same, same, Multiset.count_eq_zero.mpr last]
      rfl
    · rw [if_neg same, sound.owners other]
      exact Multiset.count_cons_of_ne same handles
  · intro buffer member
    rcases Multiset.mem_cons.mp member with rfl | member
    · exact sound.shared handle
    · exact sound.fits buffer member
  · intro other
    show later.Fits (later.shared other)
    by_cases same : other = handle
    · rw [same, gone]
      exact World.fits_of_unowned _ rfl
    · rw [others other same]
      exact sound.shared other
  · intro other dead
    show later.shared other = _
    by_cases same : other = handle
    · rw [same, gone]
    · rw [others other same]
      apply sound.hollow other
      rw [live, Multiset.count_cons_of_ne same]
      exact dead
  · intro pool
    have change := World.lent_change pool made (Table.next_put _ _ _ made) others
    rw [gone] at change
    show (buffers.map _).sum + world.lent pool =
      ((world.shared handle ::ₘ buffers).map _).sum + later.lent pool
    rw [Multiset.map_cons, Multiset.sum_cons]
    have none : Buffer.hollow.owned pool = 0 := rfl
    omega

theorem Lets.release_one (sound : Sound ⟨world, handle ::ₘ handles, buffers⟩)
    (more : handle ∈ handles) :
    let cell := world.cells.get handle
    Lets ⟨world, handle ::ₘ handles, buffers⟩
      ⟨{ world with cells := world.cells.put handle { cell with owners := cell.owners - 1 } },
        handles, buffers⟩ [] := by
  intro cell
  have made : handle < world.cells.next :=
    sound.made (Multiset.count_pos.mpr (Multiset.mem_cons_self _ _))
  let later : World :=
    { world with cells := world.cells.put handle { cell with owners := cell.owners - 1 } }
  have shared : ∀ other, later.shared other = world.shared other := by
    intro other
    rw [World.shared_put]
    split
    · rename_i same
      rw [same]
      rfl
    · rfl
  have apart : ∀ other, handles.count other = 0 → other ≠ handle := by
    rintro other dead rfl
    exact Multiset.count_eq_zero.mp dead more
  apply Lets.quiet sound (show later.pools = world.pools from rfl) (Table.next_put _ _ _ made)
  · intro other
    have owners : world.owners other = (handle ::ₘ handles).count other := sound.owners other
    rw [World.owners_put]
    by_cases same : other = handle
    · subst same
      rw [Multiset.count_cons_self] at owners
      rw [if_pos rfl]
      show world.owners other - 1 = _
      rw [owners, Nat.add_sub_cancel]
    · rw [if_neg same, owners, Multiset.count_cons_of_ne same]
  · exact fun other => Multiset.count_le_count_cons other handle handles
  · intro other dead
    rw [Multiset.count_cons_of_ne (apart other dead), dead]
  · exact fun other => congrArg Buffer.claim (shared other)
  · exact fun other _ => shared other
  · rfl

/-- A handle is let go of, and if it was the last one the storage goes back. -/
theorem Lets.release_back (sound : Sound ⟨world, handle ::ₘ handles, buffers⟩) :
    Lets ⟨world, handle ::ₘ handles, buffers⟩ ⟨world.release handle, handles, buffers⟩
      (if handle ∈ handles then [] else (world.shared handle).claim.toList) := by
  have owners : (world.cells.get handle).owners = handles.count handle + 1 := by
    have counted := sound.owners handle
    rw [live, Multiset.count_cons_self] at counted
    exact counted
  by_cases last : handle ∈ handles
  · have some := Multiset.count_pos.mpr last
    have several : ¬ (world.cells.get handle).owners = 1 := by omega
    rw [if_pos last, World.release, if_neg several]
    exact release_one sound last
  · -- The buffer becomes an unshared one, which is dropped at once.
    have single := Multiset.count_eq_zero.mpr last
    have only : (world.cells.get handle).owners = 1 := by omega
    obtain ⟨unshared, loans⟩ := sound.unshare last
    have lets := Lets.drop unshared
    rw [if_neg last, World.release, if_pos only]
    refine ⟨lets.sound, lets.pools, ?_, ?_, ?_, 0, [handle], (add_zero _).symm,
      List.nodup_singleton _, ?_, ?_⟩
    · intro pool
      rw [loans]
      exact lets.loans pool
    · exact fun other => Multiset.count_le_count_cons other handle handles
    · intro other alive
      have apart : other ≠ handle := by
        rintro rfl
        exact last (Multiset.count_pos.mp alive)
      refine (lets.kept other alive).trans (congrArg Buffer.claim ?_)
      exact (World.shared_put _ _ _ _).trans (if_neg apart)
    · intro other
      show other ∈ [handle] ↔ 0 < (handle ::ₘ handles).count other ∧ handles.count other = 0
      rw [List.mem_singleton]
      by_cases same : other = handle
      · subst same
        simp [single]
      · rw [Multiset.count_cons_of_ne same]
        simp only [same, false_iff]
        omega
    · rw [zero_add, List.filterMap_cons, List.filterMap_nil]
      dsimp only
      cases (world.shared handle).claim <;> rfl

theorem Lets.release (sound : Sound ⟨world, handle ::ₘ handles, buffers⟩) :
    ∃ back, Lets ⟨world, handle ::ₘ handles, buffers⟩ ⟨world.release handle, handles, buffers⟩
      back :=
  ⟨_, release_back sound⟩

end

end Estate

end Conduit
