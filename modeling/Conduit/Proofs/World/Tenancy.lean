import Conduit.Proofs.Buffer.Queue
import Conduit.Proofs.Source.Custody
import Conduit.Proofs.World.Settling

set_option autoImplicit false

namespace Conduit

inductive Borrowed where
  | nothing
  | buffer (buffer : Buffer)
  | handle (handle : SharedId)

namespace Borrowed

def handles : Borrowed → Multiset SharedId
  | .nothing => 0
  | .buffer _ => 0
  | .handle shared => {shared}

def buffers : Borrowed → Multiset Buffer
  | .nothing => 0
  | .buffer unshared => {unshared}
  | .handle _ => 0

/-- One if the borrowed storage belongs to the pool, zero otherwise. -/
def owed (world : World) (pool : PoolId) : Borrowed → Nat
  | .nothing => 0
  | .buffer unshared => unshared.owned pool
  | .handle shared => (world.shared shared).owned pool

end Borrowed

/-- A borrower in a world, with the handles and unshared buffers of all others. -/
structure Tenancy where
  world : World
  loan : Borrowed
  handles : Multiset SharedId
  buffers : Multiset Buffer

namespace World

theorem shared_setShared (world : World) (handle other : SharedId) (buffer : Buffer) :
    (world.setShared handle buffer).shared other =
      if other = handle then buffer else world.shared other :=
  shared_put world handle other _

theorem shared_dropBuffer (world : World) (buffer : Buffer) (handle : SharedId) :
    (world.dropBuffer buffer).shared handle = world.shared handle := by
  rw [shared, dropBuffer, cells_freeBuffer, shared]

/-- Letting go of the last handle leaves nothing behind it. -/
theorem shared_release (world : World) (handle other : SharedId) :
    (world.release handle).shared other =
      if other = handle ∧ world.owners handle = 1 then .hollow else world.shared other := by
  rw [release]
  by_cases only : (world.cells.get handle).owners = 1
  · have last : world.owners handle = 1 := only
    simp only [only, if_true, last, and_true]
    rw [shared_dropBuffer]
    exact shared_put world handle other default
  · have several : ¬ world.owners handle = 1 := only
    simp only [only, if_false, several, and_false]
    rw [shared_put]
    split
    · rename_i same
      rw [same]
      rfl
    · rfl

theorem sound_alloc {world : World} (stocked : ∀ pool, (world.pools.get pool).Stocked)
    (allocator : Allocator) (size : Nat) : (allocator.alloc size world).1.Sound := by
  rw [Allocator.alloc]
  split
  · exact Buffer.sound_takeBuffer (stocked _) size
  · exact Buffer.sound_zeroed size

end World

namespace Tenancy

open Estate

/-- Who owns what, the borrower included. -/
def estate (tenancy : Tenancy) : Estate :=
  ⟨tenancy.world, tenancy.loan.handles + tenancy.handles,
    tenancy.loan.buffers + tenancy.buffers⟩

section

variable (world : World) (handles : Multiset SharedId) (buffers : Multiset Buffer)

@[simp] theorem estate_nothing :
    (mk world .nothing handles buffers).estate = ⟨world, handles, buffers⟩ := by
  rw [estate, Borrowed.handles, Borrowed.buffers, zero_add, zero_add]

@[simp] theorem estate_buffer (buffer : Buffer) :
    (mk world (.buffer buffer) handles buffers).estate =
      ⟨world, handles, buffer ::ₘ buffers⟩ := by
  rw [estate, Borrowed.handles, Borrowed.buffers, zero_add, Multiset.singleton_add]

@[simp] theorem estate_handle (handle : SharedId) :
    (mk world (.handle handle) handles buffers).estate =
      ⟨world, handle ::ₘ handles, buffers⟩ := by
  rw [estate, Borrowed.handles, Borrowed.buffers, zero_add, Multiset.singleton_add]

theorem estate_cons_handle (loan : Borrowed) (handle : SharedId) :
    (mk world loan (handle ::ₘ handles) buffers).estate =
      ⟨world, handle ::ₘ (loan.handles + handles), loan.buffers + buffers⟩ := by
  rw [estate, Multiset.add_cons]

theorem estate_cons_buffer (loan : Borrowed) (buffer : Buffer) :
    (mk world loan handles (buffer ::ₘ buffers)).estate =
      ⟨world, loan.handles + handles, buffer ::ₘ (loan.buffers + buffers)⟩ := by
  rw [estate, Multiset.add_cons]

end

/-- Every owner is counted, the cursors of every buffer are in order, and the borrower shares its
buffer with no one. -/
structure Whole (tenancy : Tenancy) : Prop where
  sound : tenancy.estate.Sound
  buffers : ∀ buffer ∈ tenancy.estate.buffers, buffer.Sound
  shared : ∀ handle, (tenancy.world.shared handle).Sound
  sole : ∀ handle, tenancy.loan = .handle handle → handle ∉ tenancy.handles

/-- One step. A borrower that has nothing may borrow one buffer, fill it, share it, and give it back
or let go of its handle. The others may change what they own and let go of it, but get nothing. -/
inductive Step (allocator : Allocator) : Tenancy → Tenancy → Deal → Prop where
  | borrow {world : World} {handles : Multiset SharedId} {buffers : Multiset Buffer} (size : Nat) :
    Step allocator ⟨world, .nothing, handles, buffers⟩
      ⟨(allocator.alloc size world).2, .buffer (allocator.alloc size world).1, handles, buffers⟩
      ⟨(allocator.alloc size world).1.owner.toList, [], []⟩
  | fill {world : World} {handles : Multiset SharedId} {buffers : Multiset Buffer}
    {before after : Buffer} (stays : before.Stays after) :
    Step allocator ⟨world, .buffer before, handles, buffers⟩
      ⟨world, .buffer after, handles, buffers⟩ ⟨[], [], []⟩
  | share {world : World} {handles : Multiset SharedId} {buffers : Multiset Buffer}
    (buffer : Buffer) :
    Step allocator ⟨world, .buffer buffer, handles, buffers⟩
      ⟨(world.share buffer).2, .handle (world.share buffer).1, handles, buffers⟩ ⟨[], [], []⟩
  | giveBack {world : World} {handles : Multiset SharedId} {buffers : Multiset Buffer}
    (buffer : Buffer) :
    Step allocator ⟨world, .buffer buffer, handles, buffers⟩
      ⟨world.dropBuffer buffer, .nothing, handles, buffers⟩ ⟨[], buffer.claim.toList, []⟩
  | giveUp {world : World} {handles : Multiset SharedId} {buffers : Multiset Buffer}
    (handle : SharedId) :
    Step allocator ⟨world, .handle handle, handles, buffers⟩
      ⟨world.release handle, .nothing, handles, buffers⟩
      ⟨[], (world.shared handle).claim.toList, []⟩
  /-- An operation through a handle, the borrower's or another one. -/
  | through {world : World} {loan : Borrowed} {handles : Multiset SharedId}
    {buffers : Multiset Buffer} {handle : SharedId} {after : Buffer}
    (alive : handle ∈ loan.handles + handles) (stays : (world.shared handle).Stays after) :
    Step allocator ⟨world, loan, handles, buffers⟩
      ⟨world.setShared handle after, loan, handles, buffers⟩ ⟨[], [], []⟩
  | change {world : World} {loan : Borrowed} {handles : Multiset SharedId}
    {buffers : Multiset Buffer} {before after : Buffer} (stays : before.Stays after) :
    Step allocator ⟨world, loan, handles, before ::ₘ buffers⟩
      ⟨world, loan, handles, after ::ₘ buffers⟩ ⟨[], [], []⟩
  | drop {world : World} {loan : Borrowed} {handles : Multiset SharedId} {buffers : Multiset Buffer}
    (buffer : Buffer) :
    Step allocator ⟨world, loan, handles, buffer ::ₘ buffers⟩
      ⟨world.dropBuffer buffer, loan, handles, buffers⟩ ⟨[], buffer.claim.toList, []⟩
  /-- One of the others lets go of a handle; its storage goes back if that was the last one. -/
  | release {world : World} {loan : Borrowed} {handles : Multiset SharedId}
    {buffers : Multiset Buffer} (handle : SharedId) :
    Step allocator ⟨world, loan, handle ::ₘ handles, buffers⟩
      ⟨world.release handle, loan, handles, buffers⟩
      ⟨[], if handle ∈ handles then [] else (world.shared handle).claim.toList, []⟩
  /-- Something happens that concerns neither pools nor shared buffers. -/
  | elsewhere {world later : World} {loan : Borrowed} {handles : Multiset SharedId}
    {buffers : Multiset Buffer} (pools : later.pools = world.pools)
    (cells : later.cells = world.cells) :
    Step allocator ⟨world, loan, handles, buffers⟩ ⟨later, loan, handles, buffers⟩ ⟨[], [], []⟩

/-- One step after the other, with the storages that each of them moves. -/
inductive Path (allocator : Allocator) (before : Tenancy) : List Deal → Tenancy → Prop where
  | nil : Path allocator before [] before
  | snoc {deals : List Deal} {deal : Deal} {middle after : Tenancy}
    (path : Path allocator before deals middle) (step : Step allocator middle after deal) :
    Path allocator before (deals ++ [deal]) after

variable {allocator : Allocator} {before after : Tenancy} {deal : Deal}

/-- A live handle among the others is not the borrower's. -/
theorem Whole.apart {world : World} {loan : Borrowed} {handles : Multiset SharedId}
    {buffers : Multiset Buffer} {handle : SharedId}
    (whole : Whole ⟨world, loan, handle ::ₘ handles, buffers⟩) :
    handle ∉ loan.handles := by
  cases loan with
  | nothing => exact Multiset.notMem_zero handle
  | buffer unshared => exact Multiset.notMem_zero handle
  | handle own =>
    intro member
    have same : handle = own := Multiset.mem_singleton.mp member
    exact whole.sole own rfl (same ▸ Multiset.mem_cons_self _ _)

/-- Every step accounts for the storages that it moves. -/
theorem Step.settles (step : Step allocator before after deal) (whole : before.Whole) :
    before.estate.Settles after.estate deal := by
  have sound := whole.sound
  have cursors := whole.buffers
  cases step with
  | @borrow world handles buffers size =>
    rw [estate_nothing] at sound ⊢
    rw [estate_buffer]
    exact .gain sound (World.gives_alloc sound.stocked allocator size)
  | fill stays =>
    rw [estate_buffer] at sound cursors ⊢
    rw [estate_buffer]
    obtain ⟨_, capacity, owner⟩ := stays (cursors _ (Multiset.mem_cons_self _ _))
    exact .restocked sound owner capacity
  | share buffer =>
    rw [estate_buffer] at sound ⊢
    rw [estate_handle]
    exact .share sound
  | giveBack buffer =>
    rw [estate_buffer] at sound ⊢
    rw [estate_nothing]
    exact (Lets.drop sound).settles
  | giveUp handle =>
    rw [estate_handle] at sound ⊢
    rw [estate_nothing]
    have back := Lets.release_back sound
    rw [if_neg (whole.sole handle rfl)] at back
    exact back.settles
  | @through world loan handles buffers handle after alive stays =>
    obtain ⟨_, capacity, owner⟩ := stays (whole.shared handle)
    exact .refilled sound alive owner capacity
  | change stays =>
    rw [estate_cons_buffer] at sound cursors ⊢
    rw [estate_cons_buffer]
    obtain ⟨_, capacity, owner⟩ := stays (cursors _ (Multiset.mem_cons_self _ _))
    exact .restocked sound owner capacity
  | drop buffer =>
    rw [estate_cons_buffer] at sound ⊢
    exact (Lets.drop sound).settles
  | @release world loan handles buffers handle =>
    have back := sound
    rw [estate_cons_handle] at back ⊢
    have only : handle ∈ loan.handles + handles ↔ handle ∈ handles := by
      rw [Multiset.mem_add]
      exact or_iff_right whole.apart
    have lets := Lets.release_back back
    simp only [only] at lets
    exact lets.settles
  | elsewhere pools cells => exact (Lets.still sound pools cells).settles

/-- A shared buffer that has an owner before a step and after it is left over a storage of the same
length and pool, and no step makes a handle that was there once. -/
theorem Step.stays (step : Step allocator before after deal) (whole : before.Whole) :
    before.world.cells.next ≤ after.world.cells.next ∧
      ∀ handle < before.world.cells.next, handle ∈ after.estate.handles →
        handle ∈ before.estate.handles ∧
          (before.world.shared handle).Stays (after.world.shared handle) := by
  have still : ∀ {later : World}, later.cells = before.world.cells →
      ∀ handle, (before.world.shared handle).Stays (later.shared handle) := by
    intro later cells handle
    rw [World.shared, World.shared, cells]
    exact .refl _
  cases step with
  | @borrow world handles buffers size =>
    have gives := World.gives_alloc whole.sound.stocked allocator size
    rw [estate_buffer, estate_nothing]
    exact ⟨Nat.le_of_eq (congrArg Table.next gives.cells.symm),
      fun handle _ alive => ⟨alive, still gives.cells handle⟩⟩
  | fill =>
    rw [estate_buffer, estate_buffer]
    exact ⟨Nat.le_refl _, fun handle _ alive => ⟨alive, .refl _⟩⟩
  | @share world handles buffers buffer =>
    rw [estate_handle, estate_buffer]
    refine ⟨Nat.le_trans (Nat.le_succ _) (Nat.le_of_eq (Table.next_add _ _).symm), ?_⟩
    intro handle made alive
    have apart : handle ≠ world.cells.next := Nat.ne_of_lt made
    refine ⟨(Multiset.mem_cons.mp alive).resolve_left apart, ?_⟩
    show (world.shared handle).Stays ((world.share buffer).2.shared handle)
    rw [World.shared_share, if_neg apart]
    exact .refl _
  | @giveBack world handles buffers buffer =>
    rw [estate_buffer, estate_nothing]
    have cells : (world.dropBuffer buffer).cells = world.cells := world.cells_freeBuffer buffer
    exact ⟨Nat.le_of_eq (congrArg Table.next cells.symm),
      fun handle _ alive => ⟨alive, still cells handle⟩⟩
  | @giveUp world handles buffers own =>
    rw [estate_handle, estate_nothing]
    refine ⟨world.next_le_release own, fun handle _ alive => ⟨Multiset.mem_cons_of_mem alive, ?_⟩⟩
    have apart : handle ≠ own := by
      rintro rfl
      exact whole.sole handle rfl alive
    show (world.shared handle).Stays ((world.release own).shared handle)
    rw [World.shared_release, if_neg (fun both => apart both.1)]
    exact .refl _
  | @through world loan handles buffers other after _ stays =>
    refine ⟨world.next_le_setShared other after, fun handle _ alive => ⟨alive, ?_⟩⟩
    show (world.shared handle).Stays ((world.setShared other after).shared handle)
    rw [World.shared_setShared]
    split
    · rename_i same
      rw [same]
      exact stays
    · exact .refl _
  | change => exact ⟨Nat.le_refl _, fun handle _ alive => ⟨alive, .refl _⟩⟩
  | @drop world loan handles buffers buffer =>
    have cells : (world.dropBuffer buffer).cells = world.cells := world.cells_freeBuffer buffer
    exact ⟨Nat.le_of_eq (congrArg Table.next cells.symm),
      fun handle _ alive => ⟨alive, still cells handle⟩⟩
  | @release world loan handles buffers gone =>
    rw [estate_cons_handle]
    refine ⟨world.next_le_release gone, fun handle _ alive => ⟨Multiset.mem_cons_of_mem alive, ?_⟩⟩
    show (world.shared handle).Stays ((world.release gone).shared handle)
    rw [World.shared_release, if_neg]
    · exact .refl _
    · rintro ⟨rfl, only⟩
      -- There were two handles at least, the one that goes and the one that is alive still.
      have owners := whole.sound.owners handle
      have others := Multiset.count_pos.mpr alive
      rw [estate_cons_handle, live, Multiset.count_cons_self] at owners
      change world.owners handle = _ at owners
      change 0 < (loan.handles + handles).count handle at others
      omega
  | elsewhere _ cells =>
    exact ⟨Nat.le_of_eq (congrArg Table.next cells.symm),
      fun handle _ alive => ⟨alive, still cells handle⟩⟩

/-- A step leaves the cursors of unshared buffers in order. -/
theorem Step.sound_buffers (step : Step allocator before after deal) (whole : before.Whole) :
    ∀ buffer ∈ after.estate.buffers, buffer.Sound := by
  have cursors := whole.buffers
  cases step with
  | @borrow world handles buffers size =>
    rw [estate_nothing] at cursors
    rw [estate_buffer]
    intro buffer member
    rcases Multiset.mem_cons.mp member with rfl | member
    · exact World.sound_alloc whole.sound.stocked allocator size
    · exact cursors buffer member
  | fill stays =>
    rw [estate_buffer] at cursors ⊢
    intro buffer member
    rcases Multiset.mem_cons.mp member with rfl | member
    · exact (stays (cursors _ (Multiset.mem_cons_self _ _))).1
    · exact cursors buffer (Multiset.mem_cons_of_mem member)
  | share | giveBack =>
    rw [estate_buffer] at cursors
    simp only [estate_handle, estate_nothing]
    exact fun other member => cursors other (Multiset.mem_cons_of_mem member)
  | giveUp =>
    rw [estate_handle] at cursors
    rw [estate_nothing]
    exact cursors
  | change stays =>
    rw [estate_cons_buffer] at cursors ⊢
    intro buffer member
    rcases Multiset.mem_cons.mp member with rfl | member
    · exact (stays (cursors _ (Multiset.mem_cons_self _ _))).1
    · exact cursors buffer (Multiset.mem_cons_of_mem member)
  | drop =>
    rw [estate_cons_buffer] at cursors
    exact fun other member => cursors other (Multiset.mem_cons_of_mem member)
  | through | release | elsewhere => exact cursors

/-- A step leaves the cursors of shared buffers in order. -/
theorem Step.sound_shared (step : Step allocator before after deal) (whole : before.Whole)
    (handle : SharedId) : (after.world.shared handle).Sound := by
  have shared := whole.shared handle
  have released : ∀ {world : World} (gone : SharedId), (world.shared handle).Sound →
      ((world.release gone).shared handle).Sound := by
    intro world gone sound
    rw [World.shared_release]
    split
    · exact Buffer.sound_zeroed 0
    · exact sound
  cases step with
  | @borrow world handles buffers size =>
    have gives : world.Gives _ (allocator.alloc size world).2 :=
      World.gives_alloc whole.sound.stocked allocator size
    show ((allocator.alloc size world).2.shared handle).Sound
    rw [World.shared, gives.cells]
    exact shared
  | fill | change => exact shared
  | @share world handles buffers buffer =>
    show ((world.share buffer).2.shared handle).Sound
    rw [World.shared_share]
    split
    · apply whole.buffers
      rw [estate_buffer]
      exact Multiset.mem_cons_self _ _
    · exact shared
  | @giveBack world _ _ buffer | @drop world _ _ _ buffer =>
    show ((world.dropBuffer buffer).shared handle).Sound
    rw [World.shared_dropBuffer]
    exact shared
  | giveUp own => exact released own shared
  | @through world _ _ _ other after _ stays =>
    show ((world.setShared other after).shared handle).Sound
    rw [World.shared_setShared]
    split
    · exact (stays (whole.shared other)).1
    · exact shared
  | release gone => exact released gone shared
  | @elsewhere world later _ _ _ _ cells =>
    show (later.shared handle).Sound
    rw [World.shared, cells]
    exact shared

/-- A step keeps all owners counted and all cursors in order. -/
theorem Step.whole (step : Step allocator before after deal) (whole : before.Whole) :
    after.Whole := by
  refine ⟨(step.settles whole).sound, step.sound_buffers whole, step.sound_shared whole, ?_⟩
  have sole := whole.sole
  cases step with
  | borrow | fill | giveBack | giveUp => exact nofun
  | @share world handles buffers buffer =>
    rintro handle same member
    cases same
    -- The handle is new, so that no one can have had it.
    have sound := whole.sound
    rw [estate_buffer] at sound
    exact Nat.lt_irrefl _ (sound.made (Multiset.count_pos.mpr member))
  | through | change | drop | elsewhere => exact sole
  | release => exact fun handle own member => sole handle own (Multiset.mem_cons_of_mem member)

theorem Step.stray (step : Step allocator before after deal) : deal.stray = [] := by
  cases step <;> rfl

/-- A loan that a step leaves alone is over a storage of the same pool still. -/
theorem Step.owed_eq (step : Step allocator before after deal) (whole : before.Whole)
    (kept : after.loan = before.loan) (pool : PoolId) :
    after.loan.owed after.world pool = before.loan.owed before.world pool := by
  rw [kept]
  cases own : before.loan with
  | nothing | buffer => rfl
  | handle shared =>
    have member : ∀ {tenancy : Tenancy}, tenancy.loan = .handle shared →
        shared ∈ tenancy.estate.handles := by
      intro tenancy own
      rw [estate, own]
      exact Multiset.mem_add.mpr (.inl (Multiset.mem_singleton_self _))
    have made := whole.sound.made (Multiset.count_pos.mpr (member own))
    have stays := ((step.stays whole).2 shared made (member (kept.trans own))).2
    rw [Borrowed.owed, Borrowed.owed, Buffer.owned, Buffer.owned, (stays (whole.shared shared)).2.2]

/-- What a step takes out of a pool is owed by the borrower after it, until it goes back. -/
theorem Step.owed_le (step : Step allocator before after deal) (whole : before.Whole)
    (pool : PoolId) :
    before.loan.owed before.world pool + deal.taken.count pool ≤
      after.loan.owed after.world pool + (backTo deal.back pool).length := by
  have kept := fun same => step.owed_eq whole same pool
  cases step with
  | @borrow world handles buffers size =>
    rw [Buffer.count_owner]
    show 0 + Buffer.owned _ pool ≤ Buffer.owned _ pool + 0
    rw [Nat.zero_add, Nat.add_zero]
  | fill stays =>
    have sound := whole.buffers _ (by rw [estate_buffer]; exact Multiset.mem_cons_self _ _)
    have owner := (stays sound).2.2
    show Buffer.owned _ pool + 0 ≤ Buffer.owned _ pool + 0
    rw [Buffer.owned, Buffer.owned, owner]
  | @share world handles buffers buffer =>
    have shared := (world.shared_share buffer world.cells.next).trans (if_pos rfl)
    show buffer.owned pool + 0 ≤
      ((world.share buffer).2.shared world.cells.next).owned pool + 0
    rw [shared]
  | giveBack buffer =>
    rw [Buffer.length_backTo_claim]
    show buffer.owned pool + 0 ≤ 0 + buffer.owned pool
    rw [Nat.add_comm]
  | @giveUp world handles buffers handle =>
    rw [Buffer.length_backTo_claim]
    show (world.shared handle).owned pool + 0 ≤ 0 + (world.shared handle).owned pool
    rw [Nat.add_comm]
  | through | change | drop | release | elsewhere =>
    rw [kept rfl]
    exact Nat.add_le_add_left (Nat.zero_le _) _

variable {middle : Tenancy} {deals more : List Deal}

theorem Path.trans (path : Path allocator before deals middle)
    (further : Path allocator middle more after) :
    Path allocator before (deals ++ more) after := by
  induction further with
  | nil =>
    rw [List.append_nil]
    exact path
  | snoc _ step ih =>
    rw [← List.append_assoc]
    exact ih.snoc step

theorem Path.whole (path : Path allocator before deals after) (whole : before.Whole) :
    after.Whole := by
  induction path with
  | nil => exact whole
  | snoc _ step ih => exact step.whole ih

/-- Shared buffers that have an owner at both ends of a path are over storages of the same length
and pool there. -/
theorem Path.stays (path : Path allocator before deals after) (whole : before.Whole) :
    before.world.cells.next ≤ after.world.cells.next ∧
      ∀ handle < before.world.cells.next, handle ∈ after.estate.handles →
        handle ∈ before.estate.handles ∧
          (before.world.shared handle).Stays (after.world.shared handle) := by
  induction path with
  | nil => exact ⟨Nat.le_refl _, fun handle _ alive => ⟨alive, .refl _⟩⟩
  | snoc path step ih =>
    obtain ⟨next, keeps⟩ := step.stays (path.whole whole)
    refine ⟨ih.1.trans next, fun handle made alive => ?_⟩
    obtain ⟨between, late⟩ := keeps handle (Nat.lt_of_lt_of_le made ih.1) alive
    obtain ⟨living, early⟩ := ih.2 handle made between
    exact ⟨living, early.trans late⟩

def Leads (allocator : Allocator) (before after : Tenancy) : Prop :=
  ∃ deals, Path allocator before deals after

namespace Leads

theorem refl (allocator : Allocator) (tenancy : Tenancy) : Leads allocator tenancy tenancy :=
  ⟨[], .nil⟩

theorem trans (first : Leads allocator before middle) (second : Leads allocator middle after) :
    Leads allocator before after := by
  obtain ⟨_, early⟩ := first
  obtain ⟨_, late⟩ := second
  exact ⟨_, early.trans late⟩

theorem step (taken : Step allocator before after deal) : Leads allocator before after :=
  ⟨_, .snoc .nil taken⟩

end Leads

end Tenancy

def Estate.beside (estate : Estate) (loan : Borrowed) : Tenancy :=
  ⟨estate.world, loan, estate.handles, estate.buffers⟩

end Conduit
