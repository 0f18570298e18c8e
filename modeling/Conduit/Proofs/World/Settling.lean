import Conduit.Proofs.World.Estate

set_option autoImplicit false

namespace Conduit

/-- The storages that a step moves. -/
structure Deal where
  /-- The pools that gave one out each. -/
  taken : List PoolId
  /-- What was handed back, with the pool that owns it. -/
  back : List (PoolId × Bytes)
  /-- The pools that lost one each, put where it does not belong. -/
  stray : List PoolId

/-- The pool that loses the storage when a buffer is put into one of these pools. -/
def Buffer.strays (buffer : Buffer) (pools : List PoolId) : List PoolId :=
  buffer.owner.toList.filter (· ∉ pools)

theorem Buffer.count_owner (buffer : Buffer) (pool : PoolId) :
    buffer.owner.toList.count pool = buffer.owned pool := by
  rw [owned]
  cases buffer.owner with
  | none => rfl
  | some owner =>
    by_cases same : owner = pool <;> simp [same]

namespace World

variable {world : World}

structure Grows (world later : World) : Prop where
  cells : later.cells = world.cells
  next : world.pools.next ≤ later.pools.next
  pools : ∀ pool < world.pools.next, later.pools.get pool = world.pools.get pool
  stocked : (∀ pool, (world.pools.get pool).Stocked) → ∀ pool, (later.pools.get pool).Stocked

theorem grows_addPool (world : World) (size maxRetained : Nat) :
    world.Grows (world.addPool size maxRetained) := by
  have rows : ∀ pool, (world.addPool size maxRetained).pools.get pool =
      if pool = world.pools.next then .new size maxRetained else world.pools.get pool :=
    fun pool => Table.get_add _ _ pool
  refine ⟨rfl, ?_, ?_, ?_⟩
  · rw [addPool, Table.next_add]
    exact Nat.le_succ _
  · intro pool made
    rw [rows, if_neg (Nat.ne_of_lt made)]
  · intro stocked pool
    rw [rows]
    split
    · exact .new size maxRetained
    · exact stocked pool

/-- The pools of an allocator are made one after the other. -/
theorem grows_allocator (settings : BufferSettings) (world : World) :
    world.Grows (Allocator.new settings world).2 := by
  show world.Grows ((Allocator.poolSizes settings.classSizes).foldl _ world)
  induction Allocator.poolSizes settings.classSizes generalizing world with
  | nil => exact ⟨rfl, Nat.le_refl _, fun _ _ => rfl, id⟩
  | cons size rest ih =>
    have first := world.grows_addPool size settings.maxRetained
    have others := ih (world.addPool size settings.maxRetained)
    refine ⟨others.cells, first.next.trans others.next, ?_,
      fun stocked => others.stocked (first.stocked stocked)⟩
    intro pool made
    exact (others.pools pool (Nat.lt_of_lt_of_le made first.next)).trans (first.pools pool made)

/-- A new buffer is over a storage that its pool gave out, or over one that no pool owns. -/
structure Gives (world : World) (buffer : Buffer) (later : World) : Prop where
  cells : later.cells = world.cells
  next : later.pools.next = world.pools.next
  pools : ∀ pool, later.pools.get pool =
    (world.pools.get pool).give (buffer.owner.toList.count pool)
  fits : world.Fits buffer

theorem gives_unowned (world : World) {buffer : Buffer} (unowned : buffer.owner = none) :
    world.Gives buffer world := by
  refine ⟨rfl, rfl, ?_, world.fits_of_unowned unowned⟩
  intro pool
  rw [unowned]
  rfl

theorem gives_takeBuffer (stocked : ∀ pool, (world.pools.get pool).Stocked) (pool : PoolId)
    (size : Nat) :
    world.Gives (world.takeBuffer pool size).1 (world.takeBuffer pool size).2 := by
  unfold takeBuffer
  by_cases serves : (world.pools.get pool).serves size = true
  · have pooling : (world.pools.get pool).isPooling = true := by
      rw [Pool.serves, Bool.and_eq_true] at serves
      exact serves.1
    have made := made_of_isPooling pooling
    have fitting : ∀ {storage : Bytes}, storage.length = (world.pools.get pool).size →
        world.Fits (.ofStorage storage size pool) := by
      intro storage length owner owned
      cases owned
      refine ⟨made, pooling, ?_⟩
      rw [← length]
      exact Nat.zero_add _
    have others : ∀ {each}, each ≠ pool → [pool].count each = 0 := by
      intro each apart
      rw [List.count_eq_zero, List.mem_singleton]
      exact apart
    dsimp only
    rw [if_pos serves]
    cases idle : (world.pools.get pool).idle with
    | nil =>
      refine ⟨rfl, rfl, ?_, fitting List.length_replicate⟩
      intro each
      show world.pools.get each = (world.pools.get each).give ([pool].count each)
      by_cases same : each = pool
      · rw [same, Pool.give, idle, List.drop_nil, ← idle]
      · rw [others same]
        rfl
    | cons storage rest =>
      refine ⟨rfl, Table.next_put _ _ _ made, ?_, fitting ?_⟩
      · intro each
        show (world.pools.put pool _).get each = (world.pools.get each).give ([pool].count each)
        by_cases same : each = pool
        · rw [same, Table.get_put_same, List.count_singleton_self, Pool.give, idle]
          rfl
        · rw [Table.get_put_other _ _ _ _ same, others same]
          rfl
      · apply (stocked pool).fit
        rw [idle]
        exact List.mem_cons_self
  · dsimp only
    rw [if_neg serves]
    exact world.gives_unowned rfl

theorem gives_alloc (stocked : ∀ pool, (world.pools.get pool).Stocked) (allocator : Allocator)
    (size : Nat) :
    world.Gives (allocator.alloc size world).1 (allocator.alloc size world).2 := by
  rw [Allocator.alloc]
  split
  · exact gives_takeBuffer stocked _ size
  · exact world.gives_unowned rfl

end World

namespace Estate

/-- A step moved these storages and no others. -/
structure Settles (before after : Estate) (deal : Deal) : Prop where
  sound : after.Sound
  next : before.world.pools.next ≤ after.world.pools.next
  pools : ∀ pool < before.world.pools.next, after.world.pools.get pool =
    (backTo deal.back pool).foldl Pool.accept
      ((before.world.pools.get pool).give (deal.taken.count pool))
  loans : ∀ pool, before.loans pool + deal.taken.count pool =
    after.loans pool + (backTo deal.back pool).length + deal.stray.count pool
  /-- A shared buffer keeps its storage as long as it has an owner. -/
  kept : ∀ handle, 0 < before.live handle → 0 < after.live handle →
    (after.world.shared handle).owner = (before.world.shared handle).owner
  /-- What went back are storages that unshared buffers had and have no more, and those of the
  shared buffers that lost their last handle and were not given away with it. -/
  parts : ∃ (freed : Multiset (PoolId × Bytes)) (ended : List SharedId),
    freed ≤ before.claims - after.claims ∧ ended.Nodup ∧
    (∀ handle ∈ ended, 0 < before.live handle ∧ after.live handle = 0) ∧
    (∀ handle, 0 < before.live handle → after.live handle = 0 →
      handle ∈ ended ∨ before.world.shared handle ∈ after.buffers) ∧
    (deal.back : Multiset (PoolId × Bytes)) =
      freed + (ended.filterMap fun handle => (before.world.shared handle).claim : List _)

/-- Letting go takes nothing from pools, and nothing strays. -/
theorem Lets.settles {before after : Estate} {back : List (PoolId × Bytes)}
    (lets : Lets before after back) : before.Settles after ⟨[], back, []⟩ := by
  obtain ⟨freed, ended, claims, distinct, exact, parts⟩ := lets.parts
  refine ⟨lets.sound, Nat.le_of_eq lets.pools.next.symm, ?_, lets.loans, ?_, freed, ended, ?_,
    distinct, ?_, ?_, parts⟩
  · exact fun pool _ => lets.pools.pools pool
  · exact fun handle _ alive => Buffer.owner_of_claim (lets.kept handle alive)
  · rw [claims, add_tsub_cancel_left]
  · exact fun handle => (exact handle).mp
  · exact fun handle alive dead => .inl ((exact handle).mpr ⟨alive, dead⟩)

namespace Settles

variable {world later : World} {handle : SharedId} {handles : Multiset SharedId}
  {buffers others : Multiset Buffer} {buffer other : Buffer} {taken stray : List PoolId}

/-- Nothing goes back in a step in which each handle that goes away gives its buffer. -/
theorem moved {before after : Estate} (sound : after.Sound)
    (next : before.world.pools.next ≤ after.world.pools.next)
    (pools : ∀ pool < before.world.pools.next, after.world.pools.get pool =
      (before.world.pools.get pool).give (taken.count pool))
    (loans : ∀ pool, before.loans pool + taken.count pool = after.loans pool + stray.count pool)
    (kept : ∀ handle, 0 < before.live handle → 0 < after.live handle →
      (after.world.shared handle).owner = (before.world.shared handle).owner)
    (passed : ∀ handle, 0 < before.live handle → after.live handle = 0 →
      before.world.shared handle ∈ after.buffers) :
    before.Settles after ⟨taken, [], stray⟩ :=
  ⟨sound, next, pools, loans, kept, 0, [], Multiset.zero_le _, List.nodup_nil,
    fun _ => List.not_mem_nil.elim, fun handle alive dead => .inr (passed handle alive dead), rfl⟩

/-- What happens has nothing to do with shared buffers. -/
theorem outside (sound : Sound ⟨world, handles, buffers⟩) (cells : later.cells = world.cells)
    (next : world.pools.next ≤ later.pools.next)
    (pools : ∀ pool < world.pools.next, later.pools.get pool =
      (world.pools.get pool).give (taken.count pool))
    (stocked : ∀ pool, world.pools.next ≤ pool → (later.pools.get pool).Stocked)
    (fits : ∀ buffer ∈ others, world.Fits buffer)
    (loans : ∀ pool, (buffers.map (·.owned pool)).sum + taken.count pool =
      (others.map (·.owned pool)).sum + stray.count pool) :
    Settles ⟨world, handles, buffers⟩ ⟨later, handles, others⟩ ⟨taken, [], stray⟩ := by
  have shared : ∀ handle, later.shared handle = world.shared handle := by
    intro handle
    rw [World.shared, cells, World.shared]
  have fitting : ∀ buffer, world.Fits buffer → later.Fits buffer := by
    intro buffer fits
    apply fits.congr rfl rfl next
    intro pool made
    rw [pools pool made]
    exact ⟨rfl, rfl⟩
  apply moved
  · refine ⟨?_, ?_, ?_, ?_, ?_⟩
    · intro pool
      by_cases made : pool < world.pools.next
      · rw [pools pool made]
        exact (sound.stocked pool).give _
      · exact stocked pool (Nat.not_lt.mp made)
    · intro handle
      show later.owners handle = _
      rw [World.owners, cells]
      exact sound.owners handle
    · exact fun buffer member => fitting buffer (fits buffer member)
    · intro handle
      show later.Fits (later.shared handle)
      rw [shared]
      exact fitting _ (sound.shared handle)
    · intro handle gone
      show later.shared handle = _
      rw [shared]
      exact sound.hollow handle gone
  · exact next
  · exact pools
  · intro pool
    have lent := World.lent_congr (congrArg Table.next cells)
      (fun handle => congrArg Buffer.owner (shared handle)) pool
    have sums := loans pool
    show (buffers.map _).sum + world.lent pool + _ = (others.map _).sum + later.lent pool + _
    omega
  · exact fun handle _ _ => congrArg Buffer.owner (shared handle)
  · intro handle alive dead
    exact absurd dead (Nat.ne_of_gt alive)

/-- New pools change nothing for the others. -/
theorem grow (sound : Sound ⟨world, handles, buffers⟩) (grows : world.Grows later) :
    Settles ⟨world, handles, buffers⟩ ⟨later, handles, buffers⟩ ⟨[], [], []⟩ := by
  apply outside sound grows.cells grows.next
  · exact fun pool made => grows.pools pool made
  · exact fun pool _ => grows.stocked sound.stocked pool
  · exact sound.fits
  · exact fun pool => rfl

/-- A buffer is made, over a storage that its pool gives out if it has one. -/
theorem gain (sound : Sound ⟨world, handles, buffers⟩) (gives : world.Gives buffer later) :
    Settles ⟨world, handles, buffers⟩ ⟨later, handles, buffer ::ₘ buffers⟩
      ⟨buffer.owner.toList, [], []⟩ := by
  apply outside sound gives.cells (Nat.le_of_eq gives.next.symm) (fun pool _ => gives.pools pool)
  · intro pool _
    rw [gives.pools]
    exact (sound.stocked pool).give _
  · intro other member
    rcases Multiset.mem_cons.mp member with rfl | member
    · exact gives.fits
    · exact sound.fits other member
  · intro pool
    rw [Multiset.map_cons, Multiset.sum_cons, buffer.count_owner, add_comm]
    rfl

/-- A buffer is put where it does not belong. -/
theorem astray (sound : Sound ⟨world, handles, buffer ::ₘ buffers⟩) :
    Settles ⟨world, handles, buffer ::ₘ buffers⟩ ⟨world, handles, buffers⟩
      ⟨[], [], buffer.owner.toList⟩ := by
  apply outside sound rfl (Nat.le_refl _) (fun _ _ => rfl) (fun pool _ => sound.stocked pool)
  · exact fun other member => sound.fits other (Multiset.mem_cons_of_mem member)
  · intro pool
    rw [Multiset.map_cons, Multiset.sum_cons, buffer.count_owner, add_comm (buffer.owned pool)]
    rfl

theorem put (sound : Sound ⟨world, handles, buffer ::ₘ buffers⟩) (pools : List PoolId)
    (mine : ∀ pool ∈ pools, buffer.owner = some pool → later = world.dropBuffer buffer)
    (foreign : (∀ pool ∈ pools, buffer.owner ≠ some pool) → later = world) :
    ∃ back, Settles ⟨world, handles, buffer ::ₘ buffers⟩ ⟨later, handles, buffers⟩
      ⟨[], back, buffer.strays pools⟩ := by
  by_cases belongs : ∃ pool ∈ pools, buffer.owner = some pool
  · obtain ⟨pool, inside, owner⟩ := belongs
    have none : buffer.strays pools = [] := by simp [Buffer.strays, owner, inside]
    rw [none, mine pool inside owner]
    exact ⟨_, (Lets.drop sound).settles⟩
  · have outside : ∀ pool ∈ pools, buffer.owner ≠ some pool :=
      fun pool inside owner => belongs ⟨pool, inside, owner⟩
    have all : buffer.strays pools = buffer.owner.toList := by
      rw [Buffer.strays, List.filter_eq_self]
      intro pool member
      apply decide_eq_true
      exact fun inside => outside pool inside (Option.mem_toList.mp member)
    rw [all, foreign outside]
    exact ⟨[], astray sound⟩

/-- An unshared buffer is left over a storage of the same length and pool. -/
theorem restocked (sound : Sound ⟨world, handles, buffer ::ₘ buffers⟩)
    (owner : other.owner = buffer.owner) (capacity : other.capacity = buffer.capacity) :
    Settles ⟨world, handles, buffer ::ₘ buffers⟩ ⟨world, handles, other ::ₘ buffers⟩
      ⟨[], [], []⟩ := by
  apply outside sound rfl (Nat.le_refl _) (fun _ _ => rfl) (fun pool _ => sound.stocked pool)
  · intro each member
    rcases Multiset.mem_cons.mp member with rfl | member
    · exact (sound.fits buffer (Multiset.mem_cons_self _ _)).congr owner capacity
        (Nat.le_refl _) fun _ _ => ⟨rfl, rfl⟩
    · exact sound.fits each (Multiset.mem_cons_of_mem member)
  · intro pool
    rw [Multiset.map_cons, Multiset.map_cons, Buffer.owned, Buffer.owned, owner]

/-- An operation on an unshared buffer leaves it over the storage that it was over. -/
theorem change (sound : Sound ⟨world, handles, buffer ::ₘ buffers⟩)
    (frames : buffer.Frames other) :
    Settles ⟨world, handles, buffer ::ₘ buffers⟩ ⟨world, handles, other ::ₘ buffers⟩
      ⟨[], [], []⟩ :=
  restocked sound frames.owner frames.capacity

theorem share (sound : Sound ⟨world, handles, buffer ::ₘ buffers⟩) :
    Settles ⟨world, handles, buffer ::ₘ buffers⟩
      ⟨(world.share buffer).2, (world.share buffer).1 ::ₘ handles, buffers⟩ ⟨[], [], []⟩ := by
  have others : ∀ handle, handle ≠ world.cells.next →
      (world.share buffer).2.shared handle = world.shared handle := by
    intro handle apart
    rw [World.shared_share, if_neg apart]
  -- A number that was not given out yet has no owner.
  have fresh : handles.count world.cells.next = 0 := by
    have owners := sound.owners world.cells.next
    rw [World.owners, Table.get_of_next_le _ (Nat.le_refl _)] at owners
    exact owners.symm
  apply moved
  · refine ⟨sound.stocked, ?_, ?_, ?_, ?_⟩
    · intro handle
      show (world.share buffer).2.owners handle = (world.cells.next ::ₘ handles).count handle
      rw [World.owners_share]
      by_cases same : handle = world.cells.next
      · rw [if_pos same, same, Multiset.count_cons_self, fresh]
      · rw [if_neg same, Multiset.count_cons_of_ne same]
        exact sound.owners handle
    · exact fun other member => sound.fits other (Multiset.mem_cons_of_mem member)
    · intro handle
      show World.Fits world ((world.share buffer).2.shared handle)
      rw [World.shared_share]
      split
      · exact sound.fits buffer (Multiset.mem_cons_self _ _)
      · exact sound.shared handle
    · intro handle gone
      have apart : handle ≠ world.cells.next := by
        rintro rfl
        exact Nat.ne_of_gt (Multiset.count_pos.mpr (Multiset.mem_cons_self _ _)) gone
      show (world.share buffer).2.shared handle = _
      rw [others handle apart]
      apply sound.hollow
      change (world.cells.next ::ₘ handles).count handle = 0 at gone
      rw [Multiset.count_cons_of_ne apart] at gone
      exact gone
  · exact Nat.le_refl _
  · exact fun _ _ => rfl
  · intro pool
    show ((buffer ::ₘ buffers).map _).sum + world.lent pool + 0 =
      (buffers.map _).sum + (world.share buffer).2.lent pool + 0
    rw [Multiset.map_cons, Multiset.sum_cons, World.lent_share]
    omega
  · intro handle alive _
    have apart : handle ≠ world.cells.next := by
      rintro rfl
      exact Nat.ne_of_gt alive fresh
    exact congrArg Buffer.owner (others handle apart)
  · intro handle alive dead
    have more := Multiset.count_le_count_cons handle world.cells.next handles
    exact absurd (Nat.le_zero.mp (dead ▸ more)) (Nat.ne_of_gt alive)

/-- Handles are copied, and what is behind one is left over the storage that it was over. -/
theorem behind {copies : Multiset SharedId} (sound : Sound ⟨world, handles, buffers⟩)
    (pools : later.pools = world.pools) (next : later.cells.next = world.cells.next)
    (owners : ∀ handle, later.owners handle = copies.count handle)
    (alive : ∀ handle, copies.count handle = 0 ↔ handles.count handle = 0)
    (owner : ∀ handle, (later.shared handle).owner = (world.shared handle).owner)
    (capacity : ∀ handle, (later.shared handle).capacity = (world.shared handle).capacity)
    (hollow : ∀ handle, handles.count handle = 0 → later.shared handle = world.shared handle) :
    Settles ⟨world, handles, buffers⟩ ⟨later, copies, buffers⟩ ⟨[], [], []⟩ := by
  have fitting : ∀ {buffer other : Buffer}, world.Fits buffer → other.owner = buffer.owner →
      other.capacity = buffer.capacity → later.Fits other := by
    intro buffer other fits owner capacity
    apply fits.congr owner capacity
    · rw [pools]
    · rw [pools]
      exact fun _ _ => ⟨rfl, rfl⟩
  apply moved
  · refine ⟨?_, owners, ?_, ?_, ?_⟩
    · show ∀ pool, (later.pools.get pool).Stocked
      rw [pools]
      exact sound.stocked
    · exact fun buffer member => fitting (sound.fits buffer member) rfl rfl
    · exact fun handle => fitting (sound.shared handle) (owner handle) (capacity handle)
    · intro handle gone
      have dead := (alive handle).mp gone
      exact (hollow handle dead).trans (sound.hollow handle dead)
  · show world.pools.next ≤ later.pools.next
    rw [pools]
  · show ∀ pool < world.pools.next, later.pools.get pool = _
    rw [pools]
    exact fun _ _ => rfl
  · intro pool
    have lent := World.lent_congr next owner pool
    show _ + world.lent pool + 0 = _ + later.lent pool + 0
    rw [lent]
  · exact fun handle _ _ => owner handle
  · intro handle living dead
    exact absurd ((alive handle).mp dead) (Nat.ne_of_gt living)

theorem retain (sound : Sound ⟨world, handle ::ₘ handles, buffers⟩) :
    Settles ⟨world, handle ::ₘ handles, buffers⟩
      ⟨world.retain handle, handle ::ₘ handle ::ₘ handles, buffers⟩ ⟨[], [], []⟩ := by
  have made : handle < world.cells.next :=
    sound.made (Multiset.count_pos.mpr (Multiset.mem_cons_self _ _))
  have shared : ∀ other, (world.retain handle).shared other = world.shared other := by
    intro other
    refine (World.shared_put _ _ _ _).trans ?_
    split
    · rename_i same
      rw [same]
      rfl
    · rfl
  have pools : (world.retain handle).pools = world.pools := rfl
  apply behind sound pools (Table.next_put _ _ _ made)
  · intro other
    have owners : world.owners other = (handle ::ₘ handles).count other := sound.owners other
    refine (World.owners_put _ _ _ _).trans ?_
    by_cases same : other = handle
    · subst same
      rw [if_pos rfl, Multiset.count_cons_self, ← owners]
      rfl
    · rw [if_neg same, owners]
      exact (Multiset.count_cons_of_ne same _).symm
  · intro other
    by_cases same : other = handle
    · rw [same, Multiset.count_cons_self, Multiset.count_cons_self]
      omega
    · rw [Multiset.count_cons_of_ne same]
  · exact fun other => congrArg Buffer.owner (shared other)
  · exact fun other => congrArg Buffer.capacity (shared other)
  · exact fun other _ => shared other

/-- A shared buffer is left over a storage of the same length and pool. -/
theorem refilled (sound : Sound ⟨world, handles, buffers⟩) (alive : handle ∈ handles)
    (owner : other.owner = (world.shared handle).owner)
    (capacity : other.capacity = (world.shared handle).capacity) :
    Settles ⟨world, handles, buffers⟩ ⟨world.setShared handle other, handles, buffers⟩
      ⟨[], [], []⟩ := by
  have made : handle < world.cells.next := sound.made (Multiset.count_pos.mpr alive)
  have shared : ∀ each, (world.setShared handle other).shared each =
      if each = handle then other else world.shared each :=
    fun each => World.shared_put _ _ _ _
  have pools : (world.setShared handle other).pools = world.pools := rfl
  apply behind sound pools (Table.next_put _ _ _ made)
  · exact fun each => (world.owners_setShared handle each other).trans (sound.owners each)
  · exact fun each => Iff.rfl
  · intro each
    rw [shared]
    split
    · rename_i same
      rw [same, owner]
    · rfl
  · intro each
    rw [shared]
    split
    · rename_i same
      rw [same, capacity]
    · rfl
  · intro each gone
    rw [shared, if_neg]
    rintro rfl
    exact Multiset.count_eq_zero.mp gone alive

/-- An operation through a handle leaves the buffer over the storage that it was over. -/
theorem setShared (sound : Sound ⟨world, handle ::ₘ handles, buffers⟩)
    (frames : (world.shared handle).Frames other) :
    Settles ⟨world, handle ::ₘ handles, buffers⟩
      ⟨world.setShared handle other, handle ::ₘ handles, buffers⟩ ⟨[], [], []⟩ :=
  refilled sound (Multiset.mem_cons_self _ _) frames.owner frames.capacity

/-- The only owner takes the buffer back. -/
theorem unshare (sound : Sound ⟨world, handle ::ₘ handles, buffers⟩) (last : handle ∉ handles) :
    Settles ⟨world, handle ::ₘ handles, buffers⟩
      ⟨{ world with cells := world.cells.put handle default }, handles,
        world.shared handle ::ₘ buffers⟩ ⟨[], [], []⟩ := by
  obtain ⟨unshared, loans⟩ := sound.unshare last
  have apart : ∀ {other}, 0 < handles.count other → other ≠ handle := by
    rintro other alive rfl
    exact last (Multiset.count_pos.mp alive)
  apply moved unshared
  · exact Nat.le_refl _
  · exact fun _ _ => rfl
  · exact fun pool => congrArg (· + 0) (loans pool)
  · intro other _ alive
    apply congrArg Buffer.owner
    exact (World.shared_put _ _ _ _).trans (if_neg (apart alive))
  · intro other alive dead
    have same : other = handle := by
      by_contra apart
      rw [live, Multiset.count_cons_of_ne apart] at alive
      exact Nat.ne_of_gt alive dead
    rw [same]
    exact Multiset.mem_cons_self _ _

end Settles

end Estate

end Conduit
