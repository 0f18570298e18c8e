import Conduit.Allocator
import Conduit.World.Storage
import Mathlib.Algebra.GroupWithZero.Nat
import Mathlib.Data.List.Basic
import Mathlib.Logic.Function.Basic

set_option autoImplicit false

/- What proofs see of a world: the unread bytes of its shared buffers, the bytes that its
descriptors still deliver, and totals over its journal. Every operation on a world is described by
what it does to these, and no later proof opens it. -/
namespace Conduit

namespace Event

/-- The bytes that a record says a live reader gave. -/
def obtained : Event → Bytes
  | .read _ _ (.ok bytes) => bytes
  | _ => []

def isEmptyCall : Event → Bool
  | .counted _ bytes => bytes == 0
  | _ => false

end Event

/-- The bytes that lie ready in a world, by the places they lie in. -/
structure Stores where
  /-- The unread bytes behind a handle. -/
  held : SharedId → Bytes
  /-- The bytes that a descriptor still delivers. -/
  incoming : Fd → Bytes

namespace Stores

def refilled (stores : Stores) (handle : SharedId) (bytes : Bytes) : Stores :=
  { stores with held := Function.update stores.held handle bytes }

/-- The bytes behind one handle gone. -/
def emptied (stores : Stores) (handle : SharedId) : Stores := stores.refilled handle []

@[simp] theorem held_refilled_same (stores : Stores) (handle : SharedId) (bytes : Bytes) :
    (stores.refilled handle bytes).held handle = bytes := by
  simp [refilled]

theorem held_refilled_other (stores : Stores) (handle other : SharedId) (bytes : Bytes)
    (apart : other ≠ handle) : (stores.refilled handle bytes).held other = stores.held other := by
  simp [refilled, apart]

@[simp] theorem incoming_refilled (stores : Stores) (handle : SharedId) (bytes : Bytes) :
    (stores.refilled handle bytes).incoming = stores.incoming := rfl

@[simp] theorem refilled_twice (stores : Stores) (handle : SharedId) (first second : Bytes) :
    (stores.refilled handle first).refilled handle second = stores.refilled handle second := by
  simp [refilled]

theorem refilled_self (stores : Stores) (handle : SharedId) :
    stores.refilled handle (stores.held handle) = stores := by
  simp [refilled]

theorem emptied_of_empty (stores : Stores) (handle : SharedId)
    (empty : stores.held handle = []) : stores.emptied handle = stores := by
  rw [emptied, ← empty, refilled_self]

end Stores

namespace Table

variable {α : Type} [Inhabited α]

theorem length_le_putRow (rows : List α) (index : Nat) (row : α) :
    rows.length ≤ (putRow rows index row).length := by
  induction rows, index, row using putRow.induct with
  | case1 row => exact Nat.zero_le _
  | case2 index row ih => exact Nat.zero_le _
  | case3 first rest row => exact Nat.le_refl _
  | case4 first rest index row ih => exact Nat.succ_le_succ ih

/-- Replacing a row gives no number up. -/
theorem next_le_put (table : Table α) (index : Nat) (row : α) :
    table.next ≤ (table.put index row).next :=
  length_le_putRow table.rows index row

end Table

namespace World

/-- The bytes that lie ready. -/
def stores (world : World) : Stores :=
  ⟨fun handle => (world.shared handle).unread,
    fun fd => (world.kernel.descriptors.get fd).incoming⟩

/-- All that live readers gave so far. -/
def obtained (world : World) : Bytes := world.journal.events.flatMap Event.obtained

/-- The bytes for which a counter was called so far. -/
def tally (world : World) (counter : Counter) : Nat :=
  (world.journal.events.map (Event.tally counter)).sum

/-- How often a counter was called for no bytes so far. -/
def emptyCalls (world : World) : Nat := world.journal.events.countP Event.isEmptyCall

def Logs (sort : Event → Prop) (world later : World) : Prop :=
  ∃ events, later.journal.events = world.journal.events ++ events ∧
    ∀ event ∈ events, sort event

namespace Logs

variable {sort : Event → Prop} {world middle later : World}

theorem refl (sort : Event → Prop) (world : World) : Logs sort world world :=
  ⟨[], by simp, by simp⟩

theorem of_journal_eq (same : later.journal = world.journal) : Logs sort world later :=
  ⟨[], by simp [same], by simp⟩

theorem trans (first : Logs sort world middle) (second : Logs sort middle later) :
    Logs sort world later := by
  obtain ⟨early, grown, sorted⟩ := first
  obtain ⟨late, regrown, resorted⟩ := second
  refine ⟨early ++ late, by rw [regrown, grown, List.append_assoc], ?_⟩
  intro event member
  rcases List.mem_append.mp member with inEarly | inLate
  · exact sorted event inEarly
  · exact resorted event inLate

theorem mono {wider : Event → Prop} (logs : Logs sort world later)
    (widens : ∀ event, sort event → wider event) : Logs wider world later := by
  obtain ⟨events, grown, sorted⟩ := logs
  exact ⟨events, grown, fun event member => widens event (sorted event member)⟩

theorem record {event : Event} (fits : sort event) (world : World) :
    Logs sort world (world.record event) :=
  ⟨[event], by simp [World.record], by simpa using fits⟩

theorem obtained_eq (logs : Logs sort world later)
    (silent : ∀ event, sort event → event.obtained = []) : later.obtained = world.obtained := by
  obtain ⟨events, grown, sorted⟩ := logs
  have none : events.flatMap Event.obtained = [] :=
    List.flatMap_eq_nil_iff.mpr fun event member => silent event (sorted event member)
  rw [obtained, grown, List.flatMap_append, none, List.append_nil, obtained]

theorem tally_eq {counter : Counter} (logs : Logs sort world later)
    (silent : ∀ event, sort event → event.tally counter = 0) :
    later.tally counter = world.tally counter := by
  obtain ⟨events, grown, sorted⟩ := logs
  have none : (events.map (Event.tally counter)).sum = 0 := by
    refine List.sum_eq_zero_iff_forall_eq_nat.mpr ?_
    intro amount member
    obtain ⟨event, inside, rfl⟩ := List.mem_map.mp member
    exact silent event (sorted event inside)
  rw [tally, grown, List.map_append, List.sum_append, none, Nat.add_zero, tally]

theorem emptyCalls_eq (logs : Logs sort world later)
    (silent : ∀ event, sort event → event.isEmptyCall = false) :
    later.emptyCalls = world.emptyCalls := by
  obtain ⟨events, grown, sorted⟩ := logs
  have none : events.countP Event.isEmptyCall = 0 :=
    List.countP_eq_zero.mpr fun event member => by simp [silent event (sorted event member)]
  rw [emptyCalls, grown, List.countP_append, none, Nat.add_zero, emptyCalls]

end Logs

@[simp] theorem stores_record (world : World) (event : Event) :
    (world.record event).stores = world.stores := rfl

@[simp] theorem obtained_record (world : World) (event : Event) :
    (world.record event).obtained = world.obtained ++ event.obtained := by
  simp [obtained, record]

@[simp] theorem tally_record (world : World) (event : Event) (counter : Counter) :
    (world.record event).tally counter = world.tally counter + event.tally counter := by
  simp [tally, record]

@[simp] theorem stores_notice (world : World) (notice : Notice) :
    (world.notice notice).stores = world.stores := rfl

@[simp] theorem obtained_notice (world : World) (notice : Notice) :
    (world.notice notice).obtained = world.obtained := by
  simp [World.notice, Event.obtained]

@[simp] theorem tally_notice (world : World) (notice : Notice) (counter : Counter) :
    (world.notice notice).tally counter = world.tally counter := by
  simp [World.notice, Event.tally]

@[simp] theorem stores_count (world : World) (counters : List Counter) (bytes : Nat) :
    (world.count counters bytes).stores = world.stores := rfl

@[simp] theorem count_nil (world : World) (bytes : Nat) : world.count [] bytes = world := by
  unfold count Journal.count
  split <;> rfl

theorem logs_count (world : World) (counters : List Counter) (bytes : Nat) :
    Logs (fun event => ∃ counter ∈ counters, bytes ≠ 0 ∧ event = .counted counter bytes)
      world (world.count counters bytes) := by
  refine ⟨_, Journal.events_count world.journal counters bytes, ?_⟩
  intro event member
  split at member
  · simp at member
  · rename_i some
    obtain ⟨counter, registered, rfl⟩ := List.mem_map.mp member
    exact ⟨counter, registered, some, rfl⟩

@[simp] theorem obtained_count (world : World) (counters : List Counter) (bytes : Nat) :
    (world.count counters bytes).obtained = world.obtained := by
  refine (logs_count world counters bytes).obtained_eq ?_
  rintro event ⟨counter, -, -, rfl⟩
  rfl

theorem emptyCalls_count (world : World) (counters : List Counter) (bytes : Nat) :
    (world.count counters bytes).emptyCalls = world.emptyCalls := by
  refine (logs_count world counters bytes).emptyCalls_eq ?_
  rintro event ⟨counter, -, some, rfl⟩
  simp [Event.isEmptyCall, some]

/-- A call of counters adds the bytes once for each time a counter is registered. -/
@[simp] theorem tally_count (world : World) (counters : List Counter) (bytes : Nat)
    (counter : Counter) :
    (world.count counters bytes).tally counter =
      world.tally counter + counters.count counter * bytes := by
  have called : ((if bytes = 0 then [] else counters.map fun each => Event.counted each bytes).map
      (Event.tally counter)).sum = counters.count counter * bytes := by
    split
    · rename_i none
      simp [none]
    · induction counters with
      | nil => simp
      | cons first rest ih =>
        rw [List.map_cons, List.map_cons, List.sum_cons, ih, List.count_cons, Event.tally]
        by_cases same : first = counter
        · simp only [same, beq_self_eq_true, if_true]
          rw [Nat.add_mul, Nat.one_mul, Nat.add_comm]
        · simp [same]
  rw [tally, count, Journal.events_count, List.map_append, List.sum_append, called, tally]

theorem cells_freeBuffer (world : World) (buffer : Buffer) :
    (world.freeBuffer buffer).2.cells = world.cells := by
  unfold freeBuffer
  split <;> rfl

theorem kernel_freeBuffer (world : World) (buffer : Buffer) :
    (world.freeBuffer buffer).2.kernel = world.kernel := by
  unfold freeBuffer
  split <;> rfl

theorem journal_freeBuffer (world : World) (buffer : Buffer) :
    (world.freeBuffer buffer).2.journal = world.journal := by
  unfold freeBuffer
  split <;> rfl

@[simp] theorem stores_dropBuffer (world : World) (buffer : Buffer) :
    (world.dropBuffer buffer).stores = world.stores := by
  simp [stores, shared, dropBuffer, cells_freeBuffer, kernel_freeBuffer]

@[simp] theorem journal_dropBuffer (world : World) (buffer : Buffer) :
    (world.dropBuffer buffer).journal = world.journal := journal_freeBuffer world buffer

theorem stores_setShared (world : World) (handle : SharedId) (buffer : Buffer) :
    (world.setShared handle buffer).stores = world.stores.refilled handle buffer.unread := by
  simp only [stores, shared, setShared, Stores.refilled, Stores.mk.injEq, and_true]
  funext other
  by_cases same : other = handle <;> simp [Table.get_update, same]

theorem held_setShared (world : World) (handle : SharedId) (buffer : Buffer) :
    (world.setShared handle buffer).stores.held handle = buffer.unread := by
  rw [stores_setShared, Stores.held_refilled_same]

@[simp] theorem journal_release (world : World) (handle : SharedId) :
    (world.release handle).journal = world.journal := by
  unfold release
  dsimp only
  split
  · exact journal_dropBuffer _ _
  · rfl

/-- Letting go of a buffer that is read out changes no bytes. -/
theorem stores_release (world : World) (handle : SharedId)
    (empty : world.stores.held handle = []) : (world.release handle).stores = world.stores := by
  have same : ∀ cell : Cell, cell.buffer.unread = [] →
      ({ world with cells := world.cells.put handle cell } : World).stores = world.stores := by
    intro cell blank
    simp only [stores, shared, Stores.mk.injEq, and_true]
    funext other
    by_cases same : other = handle
    · rw [same, Table.get_put_same, blank]
      exact empty.symm
    · rw [Table.get_put_other _ _ _ _ same]
  unfold release
  dsimp only
  split
  · rw [stores_dropBuffer]
    exact same _ rfl
  · exact same _ empty

/-- Letting go of a buffer touches no other one. -/
theorem held_release_other (world : World) (handle other : SharedId) (apart : other ≠ handle) :
    (world.release handle).stores.held other = world.stores.held other := by
  have same : ∀ cell : Cell,
      ({ world with cells := world.cells.put handle cell } : World).stores.held other =
        world.stores.held other := by
    intro cell
    simp only [stores, shared, Table.get_put_other _ _ _ _ apart]
  unfold release
  dsimp only
  split
  · rw [stores_dropBuffer]
    exact same _
  · exact same _

theorem next_le_setShared (world : World) (handle : SharedId) (buffer : Buffer) :
    world.cells.next ≤ (world.setShared handle buffer).cells.next :=
  Table.next_le_put _ _ _

theorem next_le_release (world : World) (handle : SharedId) :
    world.cells.next ≤ (world.release handle).cells.next := by
  unfold release
  dsimp only
  split
  · rw [dropBuffer, cells_freeBuffer]
    exact Table.next_le_put _ _ _
  · exact Table.next_le_put _ _ _

theorem readShared_fst (world : World) (handle : SharedId) (wanted : Nat) :
    (world.readShared handle wanted).1 = (world.stores.held handle).take wanted := rfl

@[simp] theorem journal_readShared (world : World) (handle : SharedId) (wanted : Nat) :
    (world.readShared handle wanted).2.journal = world.journal := rfl

theorem stores_readShared (world : World) (handle : SharedId) (wanted : Nat) :
    (world.readShared handle wanted).2.stores =
      world.stores.refilled handle ((world.stores.held handle).drop wanted) :=
  stores_setShared world handle _

/-- Sharing a buffer puts its bytes behind a handle that stood for nothing. -/
theorem stores_share (world : World) (buffer : Buffer) :
    (world.share buffer).2.stores = world.stores.refilled world.cells.next buffer.unread := by
  simp only [stores, shared, share, Stores.refilled, Stores.mk.injEq, and_true]
  funext other
  by_cases same : other = world.cells.next <;> simp [Table.get_add, same]

@[simp] theorem journal_share (world : World) (buffer : Buffer) :
    (world.share buffer).2.journal = world.journal := rfl

theorem next_share (world : World) (buffer : Buffer) :
    (world.share buffer).2.cells.next = world.cells.next + 1 := by
  simp [share, Table.add, Table.next]

/-- Nothing lies behind the next handle. -/
theorem held_next (world : World) : world.stores.held world.cells.next = [] := by
  simp [stores, shared, Table.get, Table.next, default, Buffer.hollow]

/-- A write to a descriptor changes nothing that a descriptor still delivers. -/
theorem stores_kernelWrite (world : World) (fd : Fd) (bytes : Bytes) :
    ({ world with kernel := (world.kernel.write fd bytes).2 } : World).stores = world.stores := by
  simp only [Kernel.write]
  split
  · rfl
  · rfl
  · simp only [stores, shared, Stores.mk.injEq, true_and]
    funext other
    by_cases same : other = fd
    · rw [same, Table.get_put_same]
      rfl
    · rw [Table.get_put_other _ _ _ _ same]

theorem obtained_of_journal_eq {world later : World} (same : later.journal = world.journal) :
    later.obtained = world.obtained := by
  rw [obtained, same, obtained]

theorem tally_of_journal_eq {world later : World} (same : later.journal = world.journal)
    (counter : Counter) : later.tally counter = world.tally counter := by
  rw [tally, same, tally]

theorem emptyCalls_of_journal_eq {world later : World} (same : later.journal = world.journal) :
    later.emptyCalls = world.emptyCalls := by
  rw [emptyCalls, same, emptyCalls]

/-- Nothing that lies ready moved, no live reader was asked and no counter was called. -/
structure Unmoved (world later : World) : Prop where
  stores : later.stores = world.stores
  obtained : later.obtained = world.obtained
  tally : ∀ counter, later.tally counter = world.tally counter
  emptyCalls : later.emptyCalls = world.emptyCalls
  made : world.cells.next ≤ later.cells.next

theorem Unmoved.refl (world : World) : Unmoved world world :=
  ⟨rfl, rfl, fun _ => rfl, rfl, Nat.le_refl _⟩

theorem unmoved_notice (world : World) (notice : Notice) : Unmoved world (world.notice notice) where
  stores := stores_notice world notice
  obtained := obtained_notice world notice
  tally := tally_notice world notice
  emptyCalls := by simp [emptyCalls, World.notice, World.record, Event.isEmptyCall]
  made := Nat.le_refl _

theorem unmoved_dropBuffer (world : World) (buffer : Buffer) :
    Unmoved world (world.dropBuffer buffer) where
  stores := stores_dropBuffer world buffer
  obtained := obtained_of_journal_eq (journal_dropBuffer world buffer)
  tally := tally_of_journal_eq (journal_dropBuffer world buffer)
  emptyCalls := emptyCalls_of_journal_eq (journal_dropBuffer world buffer)
  made := Nat.le_of_eq (by rw [dropBuffer, cells_freeBuffer])

theorem unmoved_pools (world : World) (pools : Table Pool) : Unmoved world { world with pools } :=
  ⟨rfl, rfl, fun _ => rfl, rfl, Nat.le_refl _⟩

/-- A pool gives out an empty buffer of the size asked for. -/
theorem takeBuffer_blank (world : World) (pool : PoolId) (size : Nat) :
    (world.takeBuffer pool size).1.unread = [] ∧ (world.takeBuffer pool size).1.size = size ∧
      (world.takeBuffer pool size).1.freeLen = size ∧
      Unmoved world (world.takeBuffer pool size).2 := by
  unfold takeBuffer
  dsimp only
  split
  · split
    · exact ⟨rfl, rfl, rfl, unmoved_pools world _⟩
    · exact ⟨rfl, rfl, rfl, unmoved_notice world _⟩
  · exact ⟨rfl, rfl, rfl, unmoved_pools world world.pools⟩

end World

/-- An allocator changes pools alone, or says that one of them has nothing. -/
theorem Allocator.alloc_world (allocator : Allocator) (size : Nat) (world : World) :
    (∃ pools, (allocator.alloc size world).2 = { world with pools }) ∨
      ∃ missing, (allocator.alloc size world).2 = world.notice (.poolMiss missing) := by
  unfold alloc World.takeBuffer
  split
  · dsimp only
    split
    · split
      · exact .inl ⟨_, rfl⟩
      · exact .inr ⟨_, rfl⟩
    · exact .inl ⟨world.pools, rfl⟩
  · exact .inl ⟨world.pools, rfl⟩

/-- An allocator gives out an empty buffer of the size asked for. -/
theorem Allocator.alloc_blank (allocator : Allocator) (size : Nat) (world : World) :
    (allocator.alloc size world).1.unread = [] ∧ (allocator.alloc size world).1.size = size ∧
      (allocator.alloc size world).1.freeLen = size ∧
      World.Unmoved world (allocator.alloc size world).2 := by
  unfold alloc
  split
  · exact World.takeBuffer_blank world _ size
  · exact ⟨rfl, rfl, rfl, World.unmoved_pools world world.pools⟩

end Conduit
