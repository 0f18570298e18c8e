import Conduit.Proofs.World.Ownership
import Mathlib.Logic.Relation
import Mathlib.Order.Bounds.Basic

set_option autoImplicit false

namespace Conduit

/-- A class of this size is configured, and a pool of it serves a request. -/
def BufferSettings.Serves (settings : BufferSettings) (wanted size : Nat) : Prop :=
  size ∈ settings.classSizes ∧ size ≠ 0 ∧ wanted ≤ size ∧ size < Pool.pooledBelow ∧
    0 < settings.maxRetained

namespace Allocator

section Sizes

variable {size other : Nat} {sizes : List Nat}

theorem mem_insertSize : other ∈ insertSize size sizes ↔ other = size ∨ other ∈ sizes := by
  induction sizes with
  | nil => rw [insertSize, List.mem_singleton, or_iff_left List.not_mem_nil]
  | cons first rest ih =>
    rw [insertSize]
    split
    · exact List.mem_cons
    · split
      · rename_i same
        rw [same, List.mem_cons, or_self_left]
      · rw [List.mem_cons, ih, List.mem_cons, or_left_comm]

theorem insertSize_ascends (ascends : sizes.Pairwise (· < ·)) :
    (insertSize size sizes).Pairwise (· < ·) := by
  induction sizes with
  | nil => exact List.pairwise_singleton _ _
  | cons first rest ih =>
    obtain ⟨above, others⟩ := List.pairwise_cons.mp ascends
    rw [insertSize]
    split
    · rename_i smaller
      refine List.pairwise_cons.mpr ⟨fun each inside => ?_, ascends⟩
      rcases List.mem_cons.mp inside with rfl | inside
      · exact smaller
      · exact Nat.lt_trans smaller (above each inside)
    · split
      · exact ascends
      · refine List.pairwise_cons.mpr ⟨fun each inside => ?_, ih others⟩
        rcases mem_insertSize.mp inside with rfl | inside
        · omega
        · exact above each inside

theorem mem_poolSizes : size ∈ poolSizes sizes ↔ size ∈ sizes ∧ size ≠ 0 := by
  have inserted : ∀ kept : List Nat, size ∈ kept.foldr insertSize [] ↔ size ∈ kept := by
    intro kept
    induction kept with
    | nil => rfl
    | cons first rest ih => rw [List.foldr_cons, mem_insertSize, ih, List.mem_cons]
  rw [poolSizes, inserted, List.mem_filter, decide_eq_true_eq, Nat.pos_iff_ne_zero]

theorem poolSizes_ascends (sizes : List Nat) : (poolSizes sizes).Pairwise (· < ·) := by
  rw [poolSizes]
  induction sizes.filter (0 < ·) with
  | nil => exact .nil
  | cons first rest ih => exact insertSize_ascends ih

end Sizes

/-- The pools of an allocator are as its settings say. -/
structure Laid (allocator : Allocator) (settings : BufferSettings) (world : World) : Prop where
  made : ∀ pool ∈ allocator.classes, pool < world.pools.next
  sizes : allocator.classes.map (fun pool => (world.pools.get pool).size) =
    poolSizes settings.classSizes
  retained : ∀ pool ∈ allocator.classes, (world.pools.get pool).maxRetained = settings.maxRetained

section Laid

variable {allocator : Allocator} {settings : BufferSettings} {world later : World}

theorem rows_addPools (world : World) (sizes : List Nat) (maxRetained : Nat) :
    (sizes.foldl (fun world size => world.addPool size maxRetained) world).pools.rows =
      world.pools.rows ++ sizes.map fun size => .new size maxRetained := by
  induction sizes generalizing world with
  | nil => exact (List.append_nil _).symm
  | cons size rest ih =>
    rw [List.foldl_cons, ih, World.addPool, Table.add, List.append_assoc, List.map_cons,
      List.singleton_append]

theorem laid_new (settings : BufferSettings) (world : World) :
    (new settings world).1.Laid settings (new settings world).2 := by
  have rows : (new settings world).2.pools.rows = world.pools.rows ++
      (poolSizes settings.classSizes).map fun size => .new size settings.maxRetained :=
    rows_addPools world (poolSizes settings.classSizes) settings.maxRetained
  have row : ∀ index (inside : index < (poolSizes settings.classSizes).length),
      (new settings world).2.pools.get (world.pools.next + index) =
        .new (poolSizes settings.classSizes)[index] settings.maxRetained := by
    intro index inside
    rw [Table.get, rows, List.getD_eq_getElem?_getD, Table.next,
      List.getElem?_append_right (Nat.le_add_right _ _), Nat.add_sub_cancel_left, List.getElem?_map,
      List.getElem?_eq_getElem inside]
    rfl
  constructor
  case made =>
    intro pool inside
    obtain ⟨index, within, rfl⟩ := List.mem_map.mp inside
    rw [Table.next, Table.next, rows, List.length_append, List.length_map]
    exact Nat.add_lt_add_left (List.mem_range.mp within) _
  case sizes =>
    apply List.ext_getElem
    · simp [new]
    · intro index _ inside
      rw [List.getElem_map]
      simp only [new, List.getElem_map, List.getElem_range]
      exact congrArg Pool.size (row index inside)
  case retained =>
    intro pool inside
    obtain ⟨index, within, rfl⟩ := List.mem_map.mp inside
    rw [row index (List.mem_range.mp within)]
    rfl

/-- What pools there are and how much each keeps is all that matters. -/
theorem Laid.congr (laid : allocator.Laid settings world)
    (next : world.pools.next ≤ later.pools.next)
    (alike : ∀ pool < world.pools.next, (later.pools.get pool).size = (world.pools.get pool).size ∧
      (later.pools.get pool).maxRetained = (world.pools.get pool).maxRetained) :
    allocator.Laid settings later where
  made := fun pool inside => Nat.lt_of_lt_of_le (laid.made pool inside) next
  sizes := by
    rw [← laid.sizes]
    exact List.map_congr_left fun pool inside => (alike pool (laid.made pool inside)).1
  retained := fun pool inside =>
    (alike pool (laid.made pool inside)).2.trans (laid.retained pool inside)

theorem Laid.serves (laid : allocator.Laid settings world) {pool : PoolId}
    (inside : pool ∈ allocator.classes) (wanted : Nat) :
    (world.pools.get pool).serves wanted = true ↔
      settings.Serves wanted (world.pools.get pool).size := by
  have member : (world.pools.get pool).size ∈ poolSizes settings.classSizes := by
    rw [← laid.sizes]
    exact List.mem_map_of_mem inside
  obtain ⟨configured, positive⟩ := mem_poolSizes.mp member
  simp only [Pool.serves, Pool.isPooling, laid.retained pool inside, Bool.and_eq_true,
    decide_eq_true_eq, BufferSettings.Serves, configured, positive, true_and, ne_eq,
    not_false_eq_true]
  omega

theorem Laid.exists_pool (laid : allocator.Laid settings world) {wanted size : Nat}
    (serves : settings.Serves wanted size) :
    ∃ pool ∈ allocator.classes, (world.pools.get pool).size = size := by
  have member := mem_poolSizes.mpr ⟨serves.1, serves.2.1⟩
  rw [← laid.sizes] at member
  exact List.mem_map.mp member

/-- The first pool that serves a request is the smallest one. -/
theorem Laid.find?_least (laid : allocator.Laid settings world) {wanted : Nat} {pool : PoolId}
    (found : (allocator.classes.find? fun pool => (world.pools.get pool).serves wanted) =
      some pool) :
    pool ∈ allocator.classes ∧
      IsLeast {size | settings.Serves wanted size} (world.pools.get pool).size := by
  obtain ⟨serving, before, after, classes, passed⟩ := List.find?_eq_some_iff_append.mp found
  have inside : pool ∈ allocator.classes := by
    rw [classes]
    exact List.mem_append_right _ List.mem_cons_self
  refine ⟨inside, (laid.serves inside wanted).mp serving, ?_⟩
  intro size serves
  obtain ⟨other, member, rfl⟩ := laid.exists_pool serves
  have ascends := poolSizes_ascends settings.classSizes
  rw [← laid.sizes, classes, List.map_append, List.map_cons] at ascends
  have above := (List.pairwise_cons.mp (List.pairwise_append.mp ascends).2.1).1
  rw [classes] at member
  rcases List.mem_append.mp member with early | late
  · -- The search passes no pool that serves the request.
    have served := (laid.serves (classes ▸ member) wanted).mpr serves
    have refused := passed other early
    rw [served] at refused
    cases refused
  · rcases List.mem_cons.mp late with rfl | late
    · exact Nat.le_refl _
    · exact Nat.le_of_lt (above _ (List.mem_map_of_mem late))

theorem Laid.find?_none (laid : allocator.Laid settings world) {wanted : Nat}
    (missing : (allocator.classes.find? fun pool => (world.pools.get pool).serves wanted) = none)
    (size : Nat) : ¬ settings.Serves wanted size := by
  intro serves
  obtain ⟨pool, inside, rfl⟩ := laid.exists_pool serves
  exact List.find?_eq_none.mp missing pool inside ((laid.serves inside wanted).mpr serves)

end Laid

end Allocator

namespace World

variable {world later : World} {buffer : Buffer}

/-- A pool hands out an empty buffer over a storage of its own, and nothing else changes. -/
structure HandsOut (world : World) (pool : PoolId) (wanted : Nat) (buffer : Buffer)
    (later : World) : Prop where
  unread : buffer.unread = []
  size : buffer.size = wanted
  owner : buffer.owner = some pool
  capacity : buffer.capacity = (world.pools.get pool).size
  pools : ∀ other, later.pools.get other =
    if other = pool then (world.pools.get other).give 1 else world.pools.get other
  others : later = { world with pools := later.pools, journal := later.journal }

theorem takeBuffer_handsOut (stocked : ∀ pool, (world.pools.get pool).Stocked) {pool : PoolId}
    {wanted : Nat} (serves : (world.pools.get pool).serves wanted = true) :
    world.HandsOut pool wanted (world.takeBuffer pool wanted).1
      (world.takeBuffer pool wanted).2 := by
  have gives := gives_takeBuffer stocked pool wanted
  have owner : (world.takeBuffer pool wanted).1.owner = some pool := by
    simp only [takeBuffer, serves, if_true]
    split <;> rfl
  constructor
  case unread | size | others =>
    simp only [takeBuffer, serves, if_true]
    split <;> rfl
  case owner => exact owner
  case capacity => exact (gives.fits pool owner).2.2
  case pools =>
    intro other
    rw [gives.pools other, owner, Option.toList_some]
    by_cases same : other = pool
    · rw [if_pos same, same, List.count_singleton_self]
    · rw [if_neg same, List.count_eq_zero.mpr (by simpa using same)]
      rfl

/-- Letting go of a buffer changes the pool that owns it and nothing else. -/
theorem Fits.dropBuffer (fits : world.Fits buffer) :
    ∃ pools, world.dropBuffer buffer = { world with pools } ∧
      ∀ other, pools.get other =
        if buffer.owner = some other then (world.pools.get other).accept buffer.storage
        else world.pools.get other := by
  refine ⟨(world.dropBuffer buffer).pools, ?_, ?_⟩
  · unfold World.dropBuffer freeBuffer
    split <;> rfl
  · intro other
    have back := (freeBuffer_handsBack fits).1.pools other
    rw [World.dropBuffer, back, Buffer.claim]
    cases owner : buffer.owner with
    | none => rfl
    | some pool =>
      by_cases same : pool = other <;> simp [backTo, same]

theorem dropBuffer_unowned (unowned : buffer.owner = none) : world.dropBuffer buffer = world := by
  by_cases empty : buffer.capacity = 0 <;>
    simp [World.dropBuffer, freeBuffer, Buffer.free, unowned, empty]

end World

namespace Session

variable {ρ : Type} [ReadPeer ρ] {settings : BufferSettings} {allocator : Allocator}
  {before after : Session ρ}

/-- One operation of a program. -/
def Onward (before after : Session ρ) : Prop :=
  ∃ taken stray, Step before after taken stray

/-- An operation changes neither the sizes of pools nor how much they keep. -/
theorem Onward.laid (onward : Onward before after) (sound : before.estate.Sound)
    (laid : allocator.Laid settings before.world) : allocator.Laid settings after.world := by
  obtain ⟨taken, stray, step⟩ := onward
  obtain ⟨back, settles⟩ := step.settles sound
  refine laid.congr settles.next fun pool made => ?_
  rw [show after.world.pools.get pool = _ from settles.pools pool made]
  have few := ((sound.stocked pool).give (taken.count pool)).few
  exact ⟨(HandsBack.foldl_accept _ _).1, (HandsBack.length_foldl_accept _ _ few).1⟩

theorem Reached.laid (reached : Reached before) (laid : allocator.Laid settings before.world)
    (path : Relation.ReflTransGen Onward before after) :
    Reached after ∧ allocator.Laid settings after.world := by
  induction path with
  | refl => exact ⟨reached, laid⟩
  | tail _ last ih =>
    obtain ⟨reached, laid⟩ := ih
    have further := last.laid reached.history.1 laid
    obtain ⟨taken, stray, step⟩ := last
    exact ⟨reached.step step, further⟩

omit [ReadPeer ρ] in
theorem fits_held (sound : after.estate.Sound) {buffer : Buffer}
    (held : .buffer buffer ∈ after.holdings) : after.world.Fits buffer := by
  obtain ⟨rest, holdings⟩ := Multiset.exists_cons_of_mem held
  have same : after = ⟨after.world, .buffer buffer ::ₘ rest⟩ := by rw [← holdings]
  rw [same, estate_buffer] at sound
  exact sound.fits buffer (Multiset.mem_cons_self _ _)

end Session

/-- Whatever classes are configured and whatever became of their pools, a request gets an empty
buffer of the size asked for: from the smallest class that serves it, whose pool gives out one idle
storage at most, or else from no pool. When the buffer comes back or is let go of, its own pool
may keep the storage, and no other one changes. -/
theorem alloc_routes {ρ : Type} [ReadPeer ρ] (settings : BufferSettings)
    {before after : Session ρ} (reached : Session.Reached before)
    (path : Relation.ReflTransGen Session.Onward
      ⟨(Allocator.new settings before.world).2, before.holdings⟩ after) :
    let allocator := (Allocator.new settings before.world).1
    (∀ wanted buffer later, allocator.alloc wanted after.world = (buffer, later) →
      buffer.unread = [] ∧ buffer.size = wanted ∧
      ((∃ size, settings.Serves wanted size) →
        IsLeast {size | settings.Serves wanted size} buffer.capacity ∧
        ∃ pool ∈ allocator.classes, buffer.owner = some pool ∧
          (after.world.pools.get pool).size = buffer.capacity ∧
          later = { after.world with pools := later.pools, journal := later.journal } ∧
          ∀ other, later.pools.get other =
            if other = pool then (after.world.pools.get other).give 1
            else after.world.pools.get other) ∧
      ((∀ size, ¬ settings.Serves wanted size) →
        buffer.owner = none ∧ buffer.capacity = wanted ∧ later = after.world)) ∧
    (∀ pool ∈ allocator.classes, ∀ used, .buffer used ∈ after.holdings →
      used.owner = some pool →
      allocator.put used after.world = after.world.dropBuffer used ∧
      ∃ pools, after.world.dropBuffer used = { after.world with pools } ∧
        ∀ other, pools.get other =
          if other = pool then (after.world.pools.get other).accept used.storage
          else after.world.pools.get other) ∧
    ∀ used, used.owner = none →
      allocator.put used after.world = after.world ∧
        after.world.dropBuffer used = after.world := by
  intro allocator
  have made : Session.Reached ⟨(Allocator.new settings before.world).2, before.holdings⟩ :=
    reached.step (.addAllocator settings)
  obtain ⟨reached, laid⟩ := made.laid (Allocator.laid_new settings before.world) path
  have sound := reached.history.1
  have stocked : ∀ pool, (after.world.pools.get pool).Stocked := sound.stocked
  refine ⟨?_, ?_, ?_⟩
  · intro wanted buffer later given
    rw [Allocator.alloc] at given
    split at given
    · rename_i pool found
      have serving := List.find?_some found
      obtain ⟨inside, least⟩ := laid.find?_least found
      have hands := World.takeBuffer_handsOut stocked serving
      rw [given] at hands
      refine ⟨hands.unread, hands.size, fun _ => ⟨?_, pool, inside, hands.owner,
        hands.capacity.symm, hands.others, hands.pools⟩, ?_⟩
      · rw [hands.capacity]
        exact least
      · exact fun none => absurd least.1 (none _)
    · rename_i missing
      have none := laid.find?_none missing
      cases given
      refine ⟨rfl, rfl, ?_, fun _ => ⟨rfl, ?_, rfl⟩⟩
      · rintro ⟨size, serves⟩
        exact absurd serves (none size)
      · rw [Buffer.zeroed, Buffer.capacity]
        simp
  · intro pool inside used held owns
    refine ⟨allocator.put_mine inside owns _, ?_⟩
    obtain ⟨pools, only, rows⟩ := (Session.fits_held sound held).dropBuffer
    refine ⟨pools, only, fun other => ?_⟩
    rw [rows other, owns]
    simp only [Option.some.injEq, eq_comm]
  · -- A buffer without an owner is one of no class.
    intro used unowned
    have foreign : ∀ pool ∈ allocator.classes, used.owner ≠ some pool := by
      intro pool _
      rw [unowned]
      exact (Option.some_ne_none pool).symm
    exact ⟨allocator.put_foreign foreign _, World.dropBuffer_unowned unowned⟩

namespace Sample

/-- Classes in disorder, some of no use: only those of 4 and 8 bytes keep storages. -/
def mixedClasses : BufferSettings := ⟨[70000, 8, 0, 4, 8], 1, 4, 8⟩

/-- A program that took a buffer of 5 bytes and put it back. -/
def returnedSession : Session RehearsedReader :=
  let (allocator, world) := Allocator.new mixedClasses .initial
  let (buffer, world) := allocator.alloc 5 world
  ⟨allocator.put buffer world, 0⟩

end Sample

/-- Five bytes come from the pool of 8, which gives out its idle storage; nine come from no pool. -/
theorem alloc_routes_sample :
    Relation.ReflTransGen Session.Onward
        ⟨(Allocator.new Sample.mixedClasses .initial).2, 0⟩ Sample.returnedSession ∧
      (∃ buffer later, (Allocator.new Sample.mixedClasses .initial).1.alloc 5
          Sample.returnedSession.world = (buffer, later) ∧
        buffer.size = 5 ∧ buffer.capacity = 8 ∧ buffer.owner.isSome = true) ∧
      ∃ buffer, (Allocator.new Sample.mixedClasses .initial).1.alloc 9
          Sample.returnedSession.world = (buffer, Sample.returnedSession.world) ∧
        buffer.size = 9 ∧ buffer.owner = none := by
  have path : Relation.ReflTransGen Session.Onward
      ⟨(Allocator.new Sample.mixedClasses .initial).2, 0⟩ Sample.returnedSession :=
    .tail (.single ⟨_, _, .alloc (Allocator.new Sample.mixedClasses .initial).1 5⟩)
      ⟨_, _, .putBack (Allocator.new Sample.mixedClasses .initial).1 _⟩
  obtain ⟨routes, -, -⟩ := alloc_routes Sample.mixedClasses .start path
  have eight : IsLeast {size | Sample.mixedClasses.Serves 5 size} 8 := by
    refine ⟨by simp [BufferSettings.Serves, Sample.mixedClasses, Pool.pooledBelow], ?_⟩
    rintro size ⟨inside, -, enough, -⟩
    simp only [Sample.mixedClasses, List.mem_cons, List.not_mem_nil, or_false] at inside
    omega
  have none : ∀ size, ¬ Sample.mixedClasses.Serves 9 size := by
    rintro size ⟨inside, -, enough, below, -⟩
    simp only [Sample.mixedClasses, List.mem_cons, List.not_mem_nil, or_false] at inside
    rw [Pool.pooledBelow] at below
    omega
  refine ⟨path, ?_, ?_⟩
  · generalize given : (Allocator.new Sample.mixedClasses .initial).1.alloc 5
      Sample.returnedSession.world = answer
    obtain ⟨buffer, later⟩ := answer
    obtain ⟨-, size, served, -⟩ := routes 5 buffer later given
    obtain ⟨least, pool, -, owner, -⟩ := served ⟨8, eight.1⟩
    exact ⟨buffer, later, rfl, size, IsLeast.unique least eight, by rw [owner]; rfl⟩
  · generalize given : (Allocator.new Sample.mixedClasses .initial).1.alloc 9
      Sample.returnedSession.world = answer
    obtain ⟨buffer, later⟩ := answer
    obtain ⟨-, size, -, unserved⟩ := routes 9 buffer later given
    obtain ⟨owner, -, rfl⟩ := unserved none
    exact ⟨buffer, rfl, size, owner⟩

end Conduit
