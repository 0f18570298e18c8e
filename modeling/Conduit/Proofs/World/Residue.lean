import Conduit.Proofs.World.Likeness
import Conduit.Proofs.World.Pools

set_option autoImplicit false

namespace Conduit

/-- What is seen of a buffer: all but what its storage holds outside the unread bytes. -/
structure Buffer.Outline where
  unread : Bytes
  readAt : Nat
  size : Nat
  capacity : Nat
  owner : Option PoolId

def Buffer.outline (buffer : Buffer) : Outline :=
  ⟨buffer.unread, buffer.readAt, buffer.size, buffer.capacity, buffer.owner⟩

namespace World

/-- Two worlds have pools of the same sizes, whatever idle storages these keep, and are the same in
all else, down to what happened in them since these records. -/
structure Alike (past others : List Event) (world other : World) : Prop where
  size : ∀ pool, (world.pools.get pool).size = (other.pools.get pool).size
  maxRetained : ∀ pool,
    (world.pools.get pool).maxRetained = (other.pools.get pool).maxRetained
  cells : world.cells = other.cells
  pipePools : world.pipePools = other.pipePools
  kernel : world.kernel = other.kernel
  events : ∃ events, world.journal.events = past ++ events ∧
    other.journal.events = others ++ events

/-- A pool that takes a storage back stays of its size. -/
theorem pools_recycle (world : World) (pool other : PoolId) (storage : Bytes) :
    ((world.recycle pool storage).pools.get other).size = (world.pools.get other).size ∧
      ((world.recycle pool storage).pools.get other).maxRetained =
        (world.pools.get other).maxRetained := by
  rw [recycle, Table.get_update]
  split
  · rename_i same
    rw [same, Pool.recycle]
    split <;> exact ⟨rfl, rfl⟩
  · exact ⟨rfl, rfl⟩

namespace Alike

variable {past others : List Event} {world other : World}

/-- Worlds that are alike are so, whatever happened before, from now on. -/
theorem anew (alike : Alike past others world other) :
    Alike world.journal.events other.journal.events world other :=
  { alike with events := ⟨[], (List.append_nil _).symm, (List.append_nil _).symm⟩ }

theorem record (alike : Alike past others world other) (event : Event) :
    Alike past others (world.record event) (other.record event) := by
  obtain ⟨events, one, two⟩ := alike.events
  refine { alike with events := ⟨events ++ [event], ?_, ?_⟩ }
  · rw [World.record, Journal.events_record, one, List.append_assoc]
  · rw [World.record, Journal.events_record, two, List.append_assoc]

/-- What the storages hold that are handed back does not matter. -/
theorem recycle (alike : Alike past others world other) (pool : PoolId) (storage another : Bytes) :
    Alike past others (world.recycle pool storage) (other.recycle pool another) := by
  refine { alike with size := fun each => ?_, maxRetained := fun each => ?_ }
  · rw [(pools_recycle world pool each storage).1, (pools_recycle other pool each another).1]
    exact alike.size each
  · rw [(pools_recycle world pool each storage).2, (pools_recycle other pool each another).2]
    exact alike.maxRetained each

/-- Buffers of one outline leave nothing of different outlines when they are freed. -/
theorem freeBuffer (alike : Alike past others world other) {buffer twin : Buffer}
    (outline : buffer.outline = twin.outline) :
    (world.freeBuffer buffer).1.outline = (other.freeBuffer twin).1.outline ∧
      Alike past others (world.freeBuffer buffer).2 (other.freeBuffer twin).2 := by
  have capacity : buffer.capacity = twin.capacity := congrArg Buffer.Outline.capacity outline
  have owner : buffer.owner = twin.owner := congrArg Buffer.Outline.owner outline
  unfold World.freeBuffer Buffer.free
  rw [capacity, owner]
  by_cases empty : twin.capacity = 0
  · rw [if_pos empty, if_pos empty]
    exact ⟨outline, alike⟩
  · rw [if_neg empty, if_neg empty]
    cases twin.owner with
    | none => exact ⟨rfl, alike⟩
    | some pool => exact ⟨rfl, alike.recycle pool _ _⟩

theorem inCells (alike : Alike past others world other) {cells : Table Cell} :
    Alike past others { world with cells } { other with cells } :=
  { alike with cells := rfl }

/-- Endpoints cannot tell such worlds apart. -/
theorem likeness (past others : List Event) : Likeness (Alike past others) where
  shared := fun alike handle => by rw [shared, alike.cells, shared]
  kernel := fun alike => alike.kernel
  record := fun alike event => alike.record event
  inKernel := fun alike kernel => { alike with kernel := rfl }
  setShared := fun alike handle buffer => by
    rw [setShared, setShared, alike.cells]
    exact alike.inCells
  release := fun alike handle => by
    simp only [release, alike.cells]
    split
    · exact (alike.inCells.freeBuffer rfl).2
    · exact alike.inCells

theorem symm (alike : Alike past others world other) : Alike others past other world where
  size := fun pool => (alike.size pool).symm
  maxRetained := fun pool => (alike.maxRetained pool).symm
  cells := alike.cells.symm
  pipePools := alike.pipePools.symm
  kernel := alike.kernel.symm
  events := alike.events.imp fun _ events => events.symm

theorem trans {earlier : List Event} {third : World} (alike : Alike past others world other)
    (next : Alike others earlier other third) : Alike past earlier world third where
  size := fun pool => (alike.size pool).trans (next.size pool)
  maxRetained := fun pool => (alike.maxRetained pool).trans (next.maxRetained pool)
  cells := alike.cells.trans next.cells
  pipePools := alike.pipePools.trans next.pipePools
  kernel := alike.kernel.trans next.kernel
  events := by
    obtain ⟨events, one, two⟩ := alike.events
    obtain ⟨since, again, three⟩ := next.events
    have same : events = since := List.append_cancel_left (two.symm.trans again)
    exact ⟨events, one, same ▸ three⟩

end Alike

variable {world other : World} {pool : PoolId}

/-- A world in which a storage was handed back is still alike. -/
theorem alike_recycle (world : World) (pool : PoolId) (storage : Bytes) :
    Alike world.journal.events world.journal.events (world.recycle pool storage) world where
  size := fun each => (pools_recycle world pool each storage).1
  maxRetained := fun each => (pools_recycle world pool each storage).2
  cells := rfl
  pipePools := rfl
  kernel := rfl
  events := ⟨[], (List.append_nil _).symm, (List.append_nil _).symm⟩

/-- A buffer that is handed out shows nothing of what its storage holds. -/
theorem outline_takeBuffer (stocked : (world.pools.get pool).Stocked) (size : Nat) :
    (world.takeBuffer pool size).1.outline =
      if (world.pools.get pool).serves size then ⟨[], 0, size, (world.pools.get pool).size, pool⟩
      else ⟨[], 0, size, size, none⟩ := by
  unfold takeBuffer
  dsimp only
  split
  · split
    · rename_i storage rest idle
      have length := stocked.fit storage (by rw [idle]; exact List.mem_cons_self)
      simp [Buffer.outline, Buffer.ofStorage, Buffer.readAt, Buffer.capacity, length]
    · simp [Buffer.outline, Buffer.ofStorage, Buffer.readAt, Buffer.capacity]
  · simp [Buffer.outline, Buffer.zeroed, Buffer.readAt, Buffer.capacity]

theorem alike_takeBuffer (world : World) (pool : PoolId) (size : Nat) :
    Alike (world.takeBuffer pool size).2.journal.events world.journal.events
      (world.takeBuffer pool size).2 world := by
  have kept : ∀ rest each,
      ((world.pools.put pool { world.pools.get pool with idle := rest }).get each).size =
          (world.pools.get each).size ∧
        ((world.pools.put pool { world.pools.get pool with idle := rest }).get each).maxRetained =
          (world.pools.get each).maxRetained := by
    intro rest each
    rw [Table.get_put]
    split
    · rename_i same
      rw [same]
      exact ⟨rfl, rfl⟩
    · exact ⟨rfl, rfl⟩
  have none : ∀ records : List Event, ∃ events, records = records ++ events ∧
      world.journal.events = world.journal.events ++ events :=
    fun _ => ⟨[], (List.append_nil _).symm, (List.append_nil _).symm⟩
  unfold takeBuffer
  dsimp only
  split
  · split
    · rename_i rest _
      exact ⟨fun each => (kept rest each).1, fun each => (kept rest each).2, rfl, rfl, rfl, none _⟩
    · exact ⟨fun _ => rfl, fun _ => rfl, rfl, rfl, rfl, none _⟩
  · exact ⟨fun _ => rfl, fun _ => rfl, rfl, rfl, rfl, none _⟩

/-- A pool hands out buffers of one outline, whichever storages it kept and whatever these hold. -/
theorem Alike.takeBuffer {past others : List Event} (alike : Alike past others world other)
    (stocked : (world.pools.get pool).Stocked) (another : (other.pools.get pool).Stocked)
    (size : Nat) :
    (world.takeBuffer pool size).1.outline = (other.takeBuffer pool size).1.outline ∧
      Alike (world.takeBuffer pool size).2.journal.events
        (other.takeBuffer pool size).2.journal.events (world.takeBuffer pool size).2
        (other.takeBuffer pool size).2 := by
  constructor
  · rw [outline_takeBuffer stocked, outline_takeBuffer another, Pool.serves, Pool.serves,
      Pool.isPooling, Pool.isPooling, alike.size, alike.maxRetained]
  · exact ((alike_takeBuffer world pool size).trans alike.anew).trans
      (alike_takeBuffer other pool size).symm

end World

end Conduit
