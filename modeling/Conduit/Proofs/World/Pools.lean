import Conduit.Allocator
import Conduit.Proofs.Buffer.Cursors
import Conduit.Proofs.World.Views

set_option autoImplicit false

namespace Conduit

namespace Table

variable {α : Type} [Inhabited α]

theorem get_of_next_le (table : Table α) {index : Nat} (beyond : table.next ≤ index) :
    table.get index = default := by
  rw [get, List.getD_eq_getElem?_getD, List.getElem?_eq_none beyond]
  rfl

theorem length_putRow (rows : List α) (index : Nat) (row : α) (inside : index < rows.length) :
    (putRow rows index row).length = rows.length := by
  induction rows, index, row using putRow.induct with
  | case1 | case2 => cases inside
  | case3 => rfl
  | case4 first rest index row ih =>
    rw [putRow, List.length_cons, List.length_cons, ih (Nat.lt_of_succ_lt_succ inside)]

/-- Replacing a row that was made makes no other one. -/
theorem next_put (table : Table α) (index : Nat) (row : α) (inside : index < table.next) :
    (table.put index row).next = table.next :=
  length_putRow table.rows index row inside

omit [Inhabited α] in
theorem next_add (table : Table α) (row : α) : (table.add row).next = table.next + 1 := by
  rw [next, add, List.length_append, List.length_singleton, next]

end Table

namespace Pool

/-- A pool as its use leaves it: storages came back, and idle ones were given out. -/
inductive Used : Pool → Prop where
  | new (size maxRetained : Nat) : Used (.new size maxRetained)
  | recycled {pool : Pool} (used : Used pool) (storage : Bytes) : Used (pool.recycle storage)
  | given {pool : Pool} {storage : Bytes} {rest : List Bytes} (used : Used pool)
    (first : pool.idle = storage :: rest) : Used { pool with idle := rest }

/-- The idle storages are few enough and of the right size. -/
structure Stocked (pool : Pool) : Prop where
  few : pool.idle.length ≤ pool.maxRetained
  fit : ∀ storage ∈ pool.idle, storage.length = pool.size

def accept (pool : Pool) (storage : Bytes) : Pool :=
  if pool.idle.length < pool.maxRetained then { pool with idle := storage :: pool.idle } else pool

/-- Gives so many idle storages out. -/
def give (pool : Pool) (count : Nat) : Pool := { pool with idle := pool.idle.drop count }

theorem recycle_eq_accept {pool : Pool} {storage : Bytes} (fits : storage.length = pool.size)
    (pooling : pool.isPooling = true) : pool.recycle storage = pool.accept storage := by
  simp only [recycle, accept, fits, pooling, true_and]

@[simp] theorem size_accept (pool : Pool) (storage : Bytes) :
    (pool.accept storage).size = pool.size := by
  unfold accept
  split <;> rfl

@[simp] theorem maxRetained_accept (pool : Pool) (storage : Bytes) :
    (pool.accept storage).maxRetained = pool.maxRetained := by
  unfold accept
  split <;> rfl

@[simp] theorem isPooling_accept (pool : Pool) (storage : Bytes) :
    (pool.accept storage).isPooling = pool.isPooling := by
  simp only [isPooling, size_accept, maxRetained_accept]

namespace Stocked

variable {pool : Pool}

theorem new (size maxRetained : Nat) : (Pool.new size maxRetained).Stocked :=
  ⟨Nat.zero_le _, fun _ absurd => nomatch absurd⟩

theorem accept (stocked : pool.Stocked) {storage : Bytes} (fits : storage.length = pool.size) :
    (pool.accept storage).Stocked := by
  unfold Pool.accept
  split
  · rename_i room
    refine ⟨room, fun other inside => ?_⟩
    rcases List.mem_cons.mp inside with rfl | inside
    · exact fits
    · exact stocked.fit other inside
  · exact stocked

theorem recycle (stocked : pool.Stocked) (storage : Bytes) : (pool.recycle storage).Stocked := by
  by_cases fits : storage.length = pool.size ∧ pool.isPooling = true
  · rw [recycle_eq_accept fits.1 fits.2]
    exact stocked.accept fits.1
  · have kept : pool.recycle storage = pool := by
      unfold Pool.recycle
      rw [if_neg]
      exact fun all => fits ⟨all.1, all.2.1⟩
    rw [kept]
    exact stocked

theorem give (stocked : pool.Stocked) (count : Nat) : (pool.give count).Stocked := by
  refine ⟨?_, fun storage inside => stocked.fit storage (List.mem_of_mem_drop inside)⟩
  rw [Pool.give, List.length_drop]
  exact Nat.le_trans (Nat.sub_le _ _) stocked.few

end Stocked

theorem Used.stocked {pool : Pool} (used : pool.Used) : pool.Stocked := by
  induction used with
  | new size maxRetained => exact .new size maxRetained
  | recycled _ storage ih => exact ih.recycle storage
  | given _ first ih =>
    have given := ih.give 1
    rw [Pool.give, first] at given
    exact given

end Pool

def Buffer.claim (buffer : Buffer) : Option (PoolId × Bytes) :=
  buffer.owner.map fun pool => (pool, buffer.storage)

def backTo (back : List (PoolId × Bytes)) (pool : PoolId) : List Bytes :=
  (back.filter fun each => each.1 = pool).map Prod.snd

theorem backTo_append (first second : List (PoolId × Bytes)) (pool : PoolId) :
    backTo (first ++ second) pool = backTo first pool ++ backTo second pool := by
  rw [backTo, List.filter_append, List.map_append, backTo, backTo]

/-- Pools got storages back, in this order, and each kept those that it had room for. -/
structure HandsBack (before after : Table Pool) (back : List (PoolId × Bytes)) : Prop where
  next : after.next = before.next
  pools : ∀ pool, after.get pool = (backTo back pool).foldl Pool.accept (before.get pool)

namespace HandsBack

variable {before middle after : Table Pool} {first second : List (PoolId × Bytes)}

theorem refl (pools : Table Pool) : HandsBack pools pools [] := ⟨rfl, fun _ => rfl⟩

theorem trans (one : HandsBack before middle first) (other : HandsBack middle after second) :
    HandsBack before after (first ++ second) := by
  refine ⟨other.next.trans one.next, fun pool => ?_⟩
  rw [other.pools, one.pools, backTo_append, List.foldl_append]

theorem foldl_accept (pool : Pool) (storages : List Bytes) :
    (storages.foldl Pool.accept pool).size = pool.size ∧
      (storages.foldl Pool.accept pool).isPooling = pool.isPooling := by
  induction storages generalizing pool with
  | nil => exact ⟨rfl, rfl⟩
  | cons storage rest ih =>
    obtain ⟨size, pooling⟩ := ih (pool.accept storage)
    rw [Pool.size_accept] at size
    rw [Pool.isPooling_accept] at pooling
    exact ⟨size, pooling⟩

/-- Of the storages that come back, a pool keeps as many as there is room for. -/
theorem length_foldl_accept (pool : Pool) (storages : List Bytes)
    (few : pool.idle.length ≤ pool.maxRetained) :
    (storages.foldl Pool.accept pool).maxRetained = pool.maxRetained ∧
      (storages.foldl Pool.accept pool).idle.length =
        min pool.maxRetained (pool.idle.length + storages.length) := by
  induction storages generalizing pool with
  | nil => exact ⟨rfl, (Nat.min_eq_right few).symm⟩
  | cons storage rest ih =>
    have accepted : (pool.accept storage).idle.length =
        min pool.maxRetained (pool.idle.length + 1) := by
      unfold Pool.accept
      split
      · rw [List.length_cons]
        omega
      · omega
    have more := ih (pool.accept storage)
    rw [Pool.maxRetained_accept, accepted] at more
    obtain ⟨most, idle⟩ := more (Nat.min_le_left _ _)
    refine ⟨most, ?_⟩
    rw [List.foldl_cons, idle, List.length_cons]
    omega

/-- What kind of pools they are does not change. -/
theorem alike (hands : HandsBack before after first) (pool : PoolId) :
    (after.get pool).isPooling = (before.get pool).isPooling ∧
      (after.get pool).size = (before.get pool).size := by
  obtain ⟨size, pooling⟩ := foldl_accept (before.get pool) (backTo first pool)
  rw [hands.pools pool]
  exact ⟨pooling, size⟩

theorem stocked (hands : HandsBack before after first)
    (stocked : ∀ pool, (before.get pool).Stocked)
    (fits : ∀ each ∈ first, each.2.length = (before.get each.1).size) (pool : PoolId) :
    (after.get pool).Stocked := by
  have mine : ∀ storage ∈ backTo first pool, storage.length = (before.get pool).size := by
    intro storage member
    obtain ⟨each, inside, rfl⟩ := List.mem_map.mp member
    obtain ⟨member, same⟩ := List.mem_filter.mp inside
    rw [fits each member, of_decide_eq_true same]
  have all : ∀ (storages : List Bytes) (start : Pool), start.Stocked →
      (∀ storage ∈ storages, storage.length = start.size) →
      (storages.foldl Pool.accept start).Stocked := by
    intro storages
    induction storages with
    | nil => exact fun _ stocked _ => stocked
    | cons storage rest ih =>
      intro start stocked sized
      apply ih _ (stocked.accept (sized storage List.mem_cons_self))
      intro other inside
      rw [Pool.size_accept]
      exact sized other (List.mem_cons_of_mem storage inside)
  rw [hands.pools pool]
  exact all _ _ (stocked pool) mine

end HandsBack

namespace World

/-- If a pool owns the buffer's storage, the storage is one that the pool keeps. -/
def Fits (world : World) (buffer : Buffer) : Prop :=
  ∀ pool, buffer.owner = some pool → pool < world.pools.next ∧
    (world.pools.get pool).isPooling = true ∧
    buffer.capacity = (world.pools.get pool).size

theorem fits_of_unowned (world : World) {buffer : Buffer} (unowned : buffer.owner = none) :
    world.Fits buffer := by
  intro pool owned
  rw [unowned] at owned
  cases owned

theorem made_of_isPooling {world : World} {pool : PoolId}
    (pooling : (world.pools.get pool).isPooling = true) : pool < world.pools.next := by
  by_contra beyond
  rw [Table.get_of_next_le _ (Nat.not_lt.mp beyond)] at pooling
  cases pooling

theorem Fits.congr {world later : World} {buffer other : Buffer} (fits : world.Fits buffer)
    (owner : other.owner = buffer.owner) (capacity : other.capacity = buffer.capacity)
    (next : world.pools.next ≤ later.pools.next)
    (alike : ∀ pool < world.pools.next, (later.pools.get pool).isPooling =
        (world.pools.get pool).isPooling ∧
      (later.pools.get pool).size = (world.pools.get pool).size) :
    later.Fits other := by
  intro pool owned
  obtain ⟨made, pooling, size⟩ := fits pool (owner ▸ owned)
  obtain ⟨same, sized⟩ := alike pool made
  refine ⟨Nat.lt_of_lt_of_le made next, ?_, ?_⟩
  · rw [same, pooling]
  · rw [capacity, sized, size]

theorem Fits.of_claim {world : World} {buffer other : Buffer} (fits : world.Fits buffer)
    (same : other.claim = buffer.claim) : world.Fits other := by
  intro pool owned
  rw [Buffer.claim, owned, Option.map_some, eq_comm, Buffer.claim, Option.map_eq_some_iff] at same
  obtain ⟨owner, owns, both⟩ := same
  obtain ⟨rfl, storage⟩ := Prod.mk.inj both
  obtain ⟨made, pooling, size⟩ := fits _ owns
  refine ⟨made, pooling, ?_⟩
  rw [← other.length_storage, ← storage, buffer.length_storage, size]

theorem Fits.length_claim {world : World} {buffer : Buffer} {each : PoolId × Bytes}
    (fits : world.Fits buffer) (claim : buffer.claim = some each) :
    each.2.length = (world.pools.get each.1).size := by
  rw [Buffer.claim, Option.map_eq_some_iff] at claim
  obtain ⟨pool, owned, rfl⟩ := claim
  exact buffer.length_storage.trans (fits pool owned).2.2

theorem Fits.handsBack {world later : World} {buffer : Buffer} {back : List (PoolId × Bytes)}
    (fits : world.Fits buffer) (hands : HandsBack world.pools later.pools back) :
    later.Fits buffer :=
  fits.congr rfl rfl (Nat.le_of_eq hands.next.symm) fun pool _ => hands.alike pool

theorem capacity_freed (world : World) (buffer : Buffer) :
    (world.freeBuffer buffer).1.capacity = 0 := by
  unfold freeBuffer Buffer.free
  by_cases empty : buffer.capacity = 0
  · rw [if_pos empty]
    exact empty
  · rw [if_neg empty]
    cases buffer.owner <;> rfl

/-- Freeing a buffer hands its storage back to its pool, and what is left has no claim to it. -/
theorem freeBuffer_handsBack {world : World} {buffer : Buffer} (fits : world.Fits buffer) :
    HandsBack world.pools (world.freeBuffer buffer).2.pools buffer.claim.toList ∧
      (world.freeBuffer buffer).1.owner = none := by
  cases owner : buffer.owner with
  | none =>
    have claim : buffer.claim = none := by rw [Buffer.claim, owner]; rfl
    rw [claim]
    unfold freeBuffer Buffer.free
    by_cases empty : buffer.capacity = 0
    · rw [if_pos empty]
      exact ⟨.refl _, owner⟩
    · rw [if_neg empty, owner]
      exact ⟨.refl _, rfl⟩
  | some pool =>
    obtain ⟨made, pooling, size⟩ := fits pool owner
    have length := buffer.length_storage
    have some : ¬ buffer.capacity = 0 := by
      rw [size]
      simp only [Pool.isPooling, decide_eq_true_eq] at pooling
      omega
    have claim : buffer.claim = .some (pool, buffer.storage) := by rw [Buffer.claim, owner]; rfl
    rw [claim]
    unfold freeBuffer Buffer.free
    rw [if_neg some, owner]
    refine ⟨⟨Table.next_put _ _ _ made, fun other => ?_⟩, rfl⟩
    show (world.pools.update pool (·.recycle buffer.storage)).get other = _
    rw [Table.get_update]
    by_cases same : other = pool
    · subst same
      rw [if_pos rfl, Pool.recycle_eq_accept (length.trans size) pooling]
      simp [backTo]
    · rw [if_neg same]
      have apart : ¬ pool = other := fun equal => same equal.symm
      simp [backTo, apart]

end World

end Conduit
