import Conduit.Proofs.Source.Custody
import Conduit.Proofs.World.Settling
import Conduit.Rehearsal
import Mathlib.Data.Multiset.Bind

set_option autoImplicit false

/- Sessions. A program makes pools, takes buffers, shares them, and reads sources with caches in
front, one operation after the other and in any order. Whatever it does, pools keep no more than
they may, owners are counted, and a storage goes back to its pool when its last owner lets go of it.
-/
namespace Conduit

open Estate

namespace Allocator

variable {buffer : Buffer}

theorem put_mine (allocator : Allocator) {pool : PoolId} (inside : pool ∈ allocator.classes)
    (owns : buffer.owner = some pool) (world : World) :
    allocator.put buffer world = world.dropBuffer buffer := by
  rw [put]
  split
  · rename_i other found
    have same := List.find?_some found
    exact if_pos (eq_of_beq same)
  · rename_i missing
    exact absurd (beq_iff_eq.mpr owns) (List.find?_eq_none.mp missing pool inside)

theorem put_foreign (allocator : Allocator)
    (foreign : ∀ pool ∈ allocator.classes, buffer.owner ≠ some pool) (world : World) :
    allocator.put buffer world = world := by
  have missing : (allocator.classes.find? fun pool => buffer.owner == some pool) = none := by
    rw [List.find?_eq_none]
    intro pool inside owns
    exact foreign pool inside (eq_of_beq owns)
  rw [put, missing]

end Allocator

/-- A thing that a program holds. -/
inductive Holding (ρ : Type) where
  | buffer (buffer : Buffer)
  | handle (handle : SharedId)
  | source (source : Source ρ)

namespace Holding

variable {ρ : Type}

/-- The handles in a thing, cache layers included. -/
def handles : Holding ρ → List SharedId
  | .buffer _ => []
  | .handle shared => [shared]
  | .source reader => reader.handles

def buffers : Holding ρ → List Buffer
  | .buffer unshared => [unshared]
  | .handle _ => []
  | .source reader => reader.stocks

end Holding

/-- Several handles, each one a thing of its own. -/
def Holding.all {ρ : Type} (shared : List SharedId) : Multiset (Holding ρ) :=
  (shared.map Holding.handle : List (Holding ρ))

/-- A world with a program in it, and all that the program holds. -/
structure Session (ρ : Type) where
  world : World
  holdings : Multiset (Holding ρ)

namespace Session

variable {ρ : Type}

def handles (holdings : Multiset (Holding ρ)) : Multiset SharedId :=
  holdings.bind fun holding => holding.handles

/-- The unshared buffers among holdings. -/
def buffers (holdings : Multiset (Holding ρ)) : Multiset Buffer :=
  holdings.bind fun holding => holding.buffers

def estate (session : Session ρ) : Estate :=
  ⟨session.world, handles session.holdings, buffers session.holdings⟩

section

variable (world : World) (rest : Multiset (Holding ρ))

theorem estate_buffer (buffer : Buffer) :
    (mk world (.buffer buffer ::ₘ rest)).estate =
      ⟨world, handles rest, buffer ::ₘ buffers rest⟩ := by
  rw [estate, handles, buffers, Multiset.cons_bind, Multiset.cons_bind]
  exact congrArg (fun shared => Estate.mk world shared _) (zero_add _)

theorem estate_handle (handle : SharedId) :
    (mk world (.handle handle ::ₘ rest)).estate =
      ⟨world, handle ::ₘ handles rest, buffers rest⟩ := by
  rw [estate, handles, buffers, Multiset.cons_bind, Multiset.cons_bind]
  exact congrArg (Estate.mk world _) (zero_add _)

theorem estate_source (source : Source ρ) :
    (mk world (.source source ::ₘ rest)).estate =
      source.keeping (handles rest) (buffers rest) world := by
  rw [estate, handles, buffers, Multiset.cons_bind, Multiset.cons_bind]
  rfl

theorem handles_handle (handle : SharedId) :
    handles (.handle handle ::ₘ rest) = handle ::ₘ handles rest :=
  congrArg Estate.handles (estate_handle .initial rest handle)

theorem buffers_handle (handle : SharedId) :
    buffers (.handle handle ::ₘ rest) = buffers rest :=
  congrArg Estate.buffers (estate_handle .initial rest handle)

theorem handles_all (shared : List SharedId) :
    handles (Holding.all shared + rest) = shared + handles rest := by
  induction shared with
  | nil =>
    show handles (0 + rest) = 0 + handles rest
    rw [zero_add, zero_add]
  | cons handle others ih =>
    show handles ((.handle handle ::ₘ Holding.all others) + rest) = (handle ::ₘ ↑others) + _
    rw [Multiset.cons_add, handles_handle, ih, Multiset.cons_add]

theorem buffers_all (shared : List SharedId) :
    buffers (Holding.all shared + rest) = buffers rest := by
  induction shared with
  | nil =>
    show buffers (0 + rest) = _
    rw [zero_add]
  | cons handle others ih =>
    show buffers ((.handle handle ::ₘ Holding.all others) + rest) = _
    rw [Multiset.cons_add, buffers_handle, ih]

end

/-- One operation of a program on some of its holdings. It takes storages from the pools of the
first list, and the pools of the second one lose a storage that is put where it does not belong.
Filling a buffer from a source is several steps, reads of the one and changes of the other. -/
inductive Step [ReadPeer ρ] :
    Session ρ → Session ρ → List PoolId → List PoolId → Prop where
  | addPool {world : World} {rest : Multiset (Holding ρ)} (size maxRetained : Nat) :
    Step ⟨world, rest⟩ ⟨world.addPool size maxRetained, rest⟩ [] []
  | addAllocator {world : World} {rest : Multiset (Holding ρ)} (settings : BufferSettings) :
    Step ⟨world, rest⟩ ⟨(Allocator.new settings world).2, rest⟩ [] []
  /-- A buffer is made that has nothing to do with pools. -/
  | make {world : World} {rest : Multiset (Holding ρ)} {buffer : Buffer}
    (unowned : buffer.owner = none) :
    Step ⟨world, rest⟩ ⟨world, .buffer buffer ::ₘ rest⟩ [] []
  | take {world : World} {rest : Multiset (Holding ρ)} (pool : PoolId) (size : Nat) :
    Step ⟨world, rest⟩
      ⟨(world.takeBuffer pool size).2, .buffer (world.takeBuffer pool size).1 ::ₘ rest⟩
      (world.takeBuffer pool size).1.owner.toList []
  | alloc {world : World} {rest : Multiset (Holding ρ)} (allocator : Allocator) (size : Nat) :
    Step ⟨world, rest⟩
      ⟨(allocator.alloc size world).2, .buffer (allocator.alloc size world).1 ::ₘ rest⟩
      (allocator.alloc size world).1.owner.toList []
  | put {world : World} {rest : Multiset (Holding ρ)} (pool : PoolId) (buffer : Buffer) :
    Step ⟨world, .buffer buffer ::ₘ rest⟩ ⟨world.putBuffer pool buffer, rest⟩ []
      (buffer.strays [pool])
  | putBack {world : World} {rest : Multiset (Holding ρ)} (allocator : Allocator)
    (buffer : Buffer) :
    Step ⟨world, .buffer buffer ::ₘ rest⟩ ⟨allocator.put buffer world, rest⟩ []
      (buffer.strays allocator.classes)
  | free {world : World} {rest : Multiset (Holding ρ)} (buffer : Buffer) :
    Step ⟨world, .buffer buffer ::ₘ rest⟩
      ⟨(world.freeBuffer buffer).2, .buffer (world.freeBuffer buffer).1 ::ₘ rest⟩ [] []
  | drop {world : World} {rest : Multiset (Holding ρ)} (buffer : Buffer) :
    Step ⟨world, .buffer buffer ::ₘ rest⟩ ⟨world.dropBuffer buffer, rest⟩ [] []
  /-- Any operation on an unshared buffer but freeing it. -/
  | change {world : World} {rest : Multiset (Holding ρ)} {buffer other : Buffer}
    (frames : buffer.Frames other) :
    Step ⟨world, .buffer buffer ::ₘ rest⟩ ⟨world, .buffer other ::ₘ rest⟩ [] []
  | share {world : World} {rest : Multiset (Holding ρ)} (buffer : Buffer) :
    Step ⟨world, .buffer buffer ::ₘ rest⟩
      ⟨(world.share buffer).2, .handle (world.share buffer).1 ::ₘ rest⟩ [] []
  | retain {world : World} {rest : Multiset (Holding ρ)} (handle : SharedId) :
    Step ⟨world, .handle handle ::ₘ rest⟩
      ⟨world.retain handle, .handle handle ::ₘ .handle handle ::ₘ rest⟩ [] []
  | release {world : World} {rest : Multiset (Holding ρ)} (handle : SharedId) :
    Step ⟨world, .handle handle ::ₘ rest⟩ ⟨world.release handle, rest⟩ [] []
  /-- A handle becomes the buffer behind it. -/
  | unshare {world later : World} {rest : Multiset (Holding ρ)} {handle : SharedId}
    {buffer : Buffer} (given : world.takeShared handle = some (buffer, later)) :
    Step ⟨world, .handle handle ::ₘ rest⟩ ⟨later, .buffer buffer ::ₘ rest⟩ [] []
  /-- A handle comes back because there are others. -/
  | refuse {world : World} {rest : Multiset (Holding ρ)} {handle : SharedId}
    (refused : world.takeShared handle = none) :
    Step ⟨world, .handle handle ::ₘ rest⟩ ⟨world, .handle handle ::ₘ rest⟩ [] []
  /-- Any operation through a handle but freeing what is behind it. -/
  | through {world : World} {rest : Multiset (Holding ρ)} {handle : SharedId} {other : Buffer}
    (frames : (world.shared handle).Frames other) :
    Step ⟨world, .handle handle ::ₘ rest⟩
      ⟨world.setShared handle other, .handle handle ::ₘ rest⟩ [] []
  /-- A source is opened that keeps no storage. -/
  | openSource {world : World} {rest : Multiset (Holding ρ)} {source : Source ρ}
    (unshared : source.handles = []) (bare : source.stocks = []) :
    Step ⟨world, rest⟩ ⟨world, .source source ::ₘ rest⟩ [] []
  /-- A source is made of a buffer. -/
  | stock {world : World} {rest : Multiset (Holding ρ)} (buffer : Buffer) :
    Step ⟨world, .buffer buffer ::ₘ rest⟩ ⟨world, .source (.buffer buffer) ::ₘ rest⟩ [] []
  | plain {world : World} {rest : Multiset (Holding ρ)} (source : Source ρ) :
    Step ⟨world, .source source ::ₘ rest⟩ ⟨world, .source (.plain source) ::ₘ rest⟩ [] []
  | count {world : World} {rest : Multiset (Holding ρ)} (source : Source ρ)
    (counters : List Counter) :
    Step ⟨world, .source source ::ₘ rest⟩ ⟨world, .source (source.count counters) ::ₘ rest⟩ [] []
  | cache {world : World} {rest : Multiset (Holding ρ)} (source : Source ρ)
    (handle : SharedId) :
    Step ⟨world, .source source ::ₘ .handle handle ::ₘ rest⟩
      ⟨(source.cache handle world).2, .source (source.cache handle world).1 ::ₘ rest⟩ [] []
  | cacheAll {world : World} {rest : Multiset (Holding ρ)} (source : Source ρ)
    (shared : List SharedId) :
    Step ⟨world, .source source ::ₘ (Holding.all shared + rest)⟩
      ⟨(source.cacheAll shared world).2, .source (source.cacheAll shared world).1 ::ₘ rest⟩ [] []
  | read {world : World} {rest : Multiset (Holding ρ)} (source : Source ρ) (wanted : Nat) :
    Step ⟨world, .source source ::ₘ rest⟩
      ⟨(source.read wanted world).world, .source (source.read wanted world).after ::ₘ rest⟩ [] []
  | pick {world : World} {rest : Multiset (Holding ρ)} (source : Source ρ) :
    Step ⟨world, .source source ::ₘ rest⟩
      ⟨world, .source source.pick.1 ::ₘ (Holding.all source.pick.2.toList + rest)⟩ [] []
  | pickAll {world : World} {rest : Multiset (Holding ρ)} (source : Source ρ) :
    Step ⟨world, .source source ::ₘ rest⟩
      ⟨(source.pickAll world).2.2, .source (source.pickAll world).1 ::ₘ
        (Holding.all (source.pickAll world).2.1 + rest)⟩ [] []
  | dropSource {world : World} {rest : Multiset (Holding ρ)} (source : Source ρ) :
    Step ⟨world, .source source ::ₘ rest⟩ ⟨source.drop world, rest⟩ [] []
  /-- Something happens that concerns neither pools nor shared buffers. -/
  | elsewhere {world later : World} {rest : Multiset (Holding ρ)}
    (pools : later.pools = world.pools) (cells : later.cells = world.cells) :
    Step ⟨world, rest⟩ ⟨later, rest⟩ [] []

/-- A session after any number of operations. -/
inductive Reached [ReadPeer ρ] : Session ρ → Prop where
  | start : Reached ⟨.initial, 0⟩
  | step {before after : Session ρ} {taken stray : List PoolId} (reached : Reached before)
    (step : Step before after taken stray) : Reached after

/-- A session with the storages that each of its steps moved, the last step first. -/
inductive History [ReadPeer ρ] : List Deal → Session ρ → Prop where
  | start : History [] ⟨.initial, 0⟩
  | step {deals : List Deal} {deal : Deal} {before after : Session ρ}
    (history : History deals before) (step : Step before after deal.taken deal.stray)
    (settles : before.estate.Settles after.estate deal) : History (deal :: deals) after

section

variable {world later : World} {rest : Multiset (Holding ρ)} {handle : SharedId}

theorem live_handle : (mk world (.handle handle ::ₘ rest)).estate.live handle =
    (handles rest).count handle + 1 := by
  rw [estate_handle, live, Multiset.count_cons_self]

theorem settles_unshare {buffer : Buffer}
    (sound : (mk world (.handle handle ::ₘ rest)).estate.Sound)
    (given : world.takeShared handle = some (buffer, later)) :
    (mk world (.handle handle ::ₘ rest)).estate.Settles
      (mk later (.buffer buffer ::ₘ rest)).estate ⟨[], [], []⟩ := by
  have owners : (world.cells.get handle).owners = (handles rest).count handle + 1 :=
    (sound.owners handle).trans live_handle
  rw [World.takeShared] at given
  split at given
  · rename_i only
    cases given
    rw [estate_handle] at sound ⊢
    rw [estate_buffer]
    apply Settles.unshare sound
    -- One owner leaves no other handle.
    rw [← Multiset.count_eq_zero]
    omega
  · cases given

/-- A buffer that is freed stays with the program, without its storage. -/
theorem lets_free {buffer : Buffer} (sound : (mk world (.buffer buffer ::ₘ rest)).estate.Sound) :
    ∃ back, Lets (mk world (.buffer buffer ::ₘ rest)).estate
      (mk (world.freeBuffer buffer).2 (.buffer (world.freeBuffer buffer).1 ::ₘ rest)).estate
      back := by
  rw [estate_buffer] at sound ⊢
  rw [estate_buffer]
  have drops := Lets.drop sound
  have fits := sound.fits buffer (Multiset.mem_cons_self _ _)
  exact ⟨_, drops.trans (.unowned drops.sound (World.freeBuffer_handsBack fits).2)⟩

end

/-- Every step accounts for all storages that it moves. -/
theorem Step.settles [ReadPeer ρ] {before after : Session ρ} {taken stray : List PoolId}
    (step : Step before after taken stray) (sound : before.estate.Sound) :
    ∃ back, before.estate.Settles after.estate ⟨taken, back, stray⟩ := by
  cases step with
  | @addPool world rest size maxRetained =>
    exact ⟨[], .grow sound (world.grows_addPool size maxRetained)⟩
  | @addAllocator world rest settings =>
    exact ⟨[], .grow sound (world.grows_allocator settings)⟩
  | make unowned =>
    rw [estate_buffer]
    exact ⟨[], (Lets.unowned sound unowned).settles⟩
  | take pool size =>
    rw [estate_buffer]
    exact ⟨[], .gain sound (World.gives_takeBuffer sound.stocked pool size)⟩
  | alloc allocator size =>
    rw [estate_buffer]
    exact ⟨[], .gain sound (World.gives_alloc sound.stocked allocator size)⟩
  | @put world rest pool buffer =>
    rw [estate_buffer] at sound ⊢
    apply Settles.put sound
    · intro owner inside owns
      rw [List.mem_singleton.mp inside] at owns
      exact if_pos owns
    · exact fun foreign => if_neg (foreign pool (List.mem_singleton_self pool))
  | @putBack world rest allocator buffer =>
    rw [estate_buffer] at sound ⊢
    apply Settles.put sound
    · exact fun pool inside owns => allocator.put_mine inside owns world
    · exact fun foreign => allocator.put_foreign foreign world
  | free buffer =>
    obtain ⟨back, lets⟩ := lets_free sound
    exact ⟨back, lets.settles⟩
  | drop buffer =>
    rw [estate_buffer] at sound ⊢
    exact ⟨_, (Lets.drop sound).settles⟩
  | change frames =>
    rw [estate_buffer] at sound ⊢
    rw [estate_buffer]
    exact ⟨[], .change sound frames⟩
  | share buffer =>
    rw [estate_buffer] at sound ⊢
    rw [estate_handle]
    exact ⟨[], .share sound⟩
  | retain handle =>
    rw [estate_handle] at sound ⊢
    rw [estate_handle, handles_handle, buffers_handle]
    exact ⟨[], .retain sound⟩
  | release handle =>
    rw [estate_handle] at sound ⊢
    obtain ⟨back, lets⟩ := Lets.release sound
    exact ⟨back, lets.settles⟩
  | unshare given => exact ⟨[], settles_unshare sound given⟩
  | refuse refused => exact ⟨[], (Lets.refl sound).settles⟩
  | through frames =>
    rw [estate_handle] at sound ⊢
    rw [estate_handle]
    exact ⟨[], .setShared sound frames⟩
  | openSource unshared bare =>
    rw [estate_source, Source.keeping_nothing unshared bare]
    exact ⟨[], (Lets.refl sound).settles⟩
  | stock buffer =>
    rw [estate_buffer] at sound ⊢
    rw [estate_source, Source.keeping_buffer]
    exact ⟨[], (Lets.refl sound).settles⟩
  | plain source =>
    rw [estate_source] at sound ⊢
    rw [estate_source]
    exact ⟨[], (Lets.refl sound).settles⟩
  | count source counters =>
    rw [estate_source] at sound ⊢
    rw [estate_source, Source.keeping_count]
    exact ⟨[], (Lets.refl sound).settles⟩
  -- Sources own what their layers hold: an operation on one lets go of handles and buffers of it.
  | cache source handle =>
    rw [estate_source, handles_handle, buffers_handle] at sound ⊢
    rw [estate_source]
    obtain ⟨back, lets⟩ := source.lets_cache handle _ _ _ sound
    exact ⟨back, lets.settles⟩
  | cacheAll source shared =>
    rw [estate_source, handles_all, buffers_all] at sound ⊢
    rw [estate_source]
    obtain ⟨back, lets⟩ := source.lets_cacheAll shared _ _ _ sound
    exact ⟨back, lets.settles⟩
  | @read world rest source wanted =>
    rw [estate_source] at sound ⊢
    rw [estate_source]
    obtain ⟨back, lets⟩ := (source.reads_read wanted world).lets _ _ sound
    exact ⟨back, lets.settles⟩
  | pick source =>
    rw [estate_source] at sound ⊢
    rw [estate_source, handles_all, buffers_all, Source.keeping_pick]
    exact ⟨[], (Lets.refl sound).settles⟩
  | pickAll source =>
    rw [estate_source] at sound ⊢
    rw [estate_source, handles_all, buffers_all]
    obtain ⟨back, lets⟩ := source.lets_pickAll _ _ _ sound
    exact ⟨back, lets.settles⟩
  | dropSource source =>
    rw [estate_source] at sound ⊢
    obtain ⟨back, lets⟩ := source.lets_drop _ _ _ sound
    exact ⟨back, lets.settles⟩
  | elsewhere pools cells => exact ⟨[], (Lets.still sound pools cells).settles⟩

section

variable [ReadPeer ρ] {session : Session ρ}

omit [ReadPeer ρ] in
theorem sound_start : (⟨.initial, 0⟩ : Session ρ).estate.Sound := by
  refine ⟨fun _ => .new 0 0, fun _ => rfl, ?_, ?_, fun _ _ => rfl⟩
  · exact fun buffer member => absurd member (Multiset.notMem_zero buffer)
  · exact fun handle => World.fits_of_unowned _ rfl

/-- The steps that led to a session, with the storages that they moved. -/
theorem Reached.history (reached : Reached session) :
    session.estate.Sound ∧ ∃ deals, History deals session := by
  induction reached with
  | start => exact ⟨sound_start, [], .start⟩
  | step _ step ih =>
    obtain ⟨sound, deals, history⟩ := ih
    obtain ⟨back, settles⟩ := step.settles sound
    exact ⟨settles.sound, _, history.step step settles⟩

/-- Each storage that a pool gave out is in a buffer, or went back once, or strayed. -/
theorem History.balance {deals : List Deal} (history : History deals session) (pool : PoolId) :
    session.estate.loans pool +
        (deals.map fun deal => (backTo deal.back pool).length).sum +
        (deals.map fun deal => deal.stray.count pool).sum =
      (deals.map fun deal => deal.taken.count pool).sum := by
  induction history with
  | start => rfl
  | step _ _ settles ih =>
    have loans := settles.loans pool
    simp only [List.map_cons, List.sum_cons]
    omega

end

end Session

namespace World

variable {buffer : Buffer}

/-- What is left of a freed buffer has no storage to give. -/
theorem free_freed (world later : World) (buffer : Buffer) :
    (later.freeBuffer (world.freeBuffer buffer).1).2 = later := by
  rw [freeBuffer, Buffer.free, if_pos (capacity_freed world buffer)]

theorem put_freed (world later : World) (buffer : Buffer) (pool : PoolId) :
    later.putBuffer pool (world.freeBuffer buffer).1 = later := by
  rw [putBuffer, dropBuffer, free_freed, ite_self]

theorem putBack_freed (world later : World) (buffer : Buffer) (allocator : Allocator) :
    allocator.put (world.freeBuffer buffer).1 later = later := by
  rw [Allocator.put]
  split
  · exact put_freed world later buffer _
  · rfl

end World

/-- Letting go of a handle hands the storage back if it was the last one. -/
theorem Estate.Sound.release_handsBack {estate : Estate} (sound : estate.Sound)
    (handle : SharedId) :
    HandsBack estate.world.pools (estate.world.release handle).pools
      (if estate.live handle = 1 then (estate.world.shared handle).claim.toList else []) := by
  have owners : (estate.world.cells.get handle).owners = estate.live handle :=
    sound.owners handle
  rw [World.release, owners]
  by_cases last : estate.live handle = 1
  · rw [if_pos last, if_pos last]
    have fits : World.Fits
        { estate.world with cells := estate.world.cells.put handle default }
        (estate.world.shared handle) := sound.shared handle
    exact (World.freeBuffer_handsBack fits).1
  · rw [if_neg last, if_neg last]
    exact .refl _

namespace Session

variable {ρ : Type} [ReadPeer ρ] {session : Session ρ}

/-- Who owns which storage, whatever a program does. Pools keep no more storages than they may, all
of their size. The owners of a shared buffer are its live handles, those in cache layers included.
Each storage that a pool gave out is in a buffer, or went back once, or strayed; each step accounts
for those that it moves. Letting go of a buffer, or of the last handle on one, hands its storage
back. Only the last handle can be turned into its buffer. Freeing again, putting a freed buffer, and
putting a buffer where it does not belong leave everything as it is. -/
theorem reached_accounts (reached : Reached session) :
    let world := session.world
    let estate := session.estate
    (∀ pool, (world.pools.get pool).Stocked) ∧
    (∀ handle, world.owners handle = estate.live handle) ∧
    (∃ deals, History deals session ∧ ∀ pool,
      estate.loans pool + (deals.map fun deal => (backTo deal.back pool).length).sum +
          (deals.map fun deal => deal.stray.count pool).sum =
        (deals.map fun deal => deal.taken.count pool).sum) ∧
    (∀ after taken stray, Step session after taken stray →
      ∃ back, estate.Settles after.estate ⟨taken, back, stray⟩) ∧
    (∀ buffer, .buffer buffer ∈ session.holdings →
      HandsBack world.pools (world.dropBuffer buffer).pools buffer.claim.toList) ∧
    (∀ handle, HandsBack world.pools (world.release handle).pools
      (if estate.live handle = 1 then (world.shared handle).claim.toList else [])) ∧
    (∀ handle, world.takeShared handle =
      if estate.live handle = 1 then
        some (world.shared handle, { world with cells := world.cells.put handle default })
      else none) ∧
    (∀ buffer later, let freed := (world.freeBuffer buffer).1
      (later.freeBuffer freed).2 = later ∧ (∀ pool, later.putBuffer pool freed = later) ∧
        ∀ allocator : Allocator, allocator.put freed later = later) ∧
    (∀ buffer pool, buffer.owner ≠ some pool → world.putBuffer pool buffer = world) ∧
    ∀ buffer (allocator : Allocator), (∀ pool ∈ allocator.classes, buffer.owner ≠ some pool) →
      allocator.put buffer world = world := by
  obtain ⟨sound, deals, history⟩ := reached.history
  refine ⟨sound.stocked, sound.owners, ⟨deals, history, history.balance⟩, ?_, ?_,
    sound.release_handsBack, ?_, ?_, ?_, ?_⟩
  · exact fun after taken stray step => step.settles sound
  · intro buffer member
    obtain ⟨rest, holdings⟩ := Multiset.exists_cons_of_mem member
    have held : session = ⟨session.world, .buffer buffer ::ₘ rest⟩ := by rw [← holdings]
    rw [held, estate_buffer] at sound
    exact (World.freeBuffer_handsBack (sound.fits buffer (Multiset.mem_cons_self _ _))).1
  · intro handle
    rw [← sound.owners handle]
    rfl
  · intro buffer later
    exact ⟨World.free_freed _ _ _, World.put_freed _ _ _, World.putBack_freed _ _ _⟩
  · exact fun buffer pool foreign => if_neg foreign
  · exact fun buffer allocator foreign => allocator.put_foreign foreign _

/-- A buffer of a pool, with bytes in it, is shared by a handle and a cache layer. -/
def cachedSession : Session RehearsedReader :=
  let taken := (World.initial.addPool 4 1).takeBuffer 0 4
  let shared := (taken.2.share (taken.1.append [7, 8])).2.retain 0
  let cached := (Source.peer ⟨1, [], .ended⟩).cache 0 shared
  ⟨cached.2, .source cached.1 ::ₘ .handle 0 ::ₘ 0⟩

/-- The cache layer was read out and let go of its handle. -/
def drainedSession : Session RehearsedReader :=
  let reading := (Source.cached (some 0) none (.peer ⟨1, [], .ended⟩)).read 2 cachedSession.world
  ⟨reading.world, .source reading.after ::ₘ .handle 0 ::ₘ 0⟩

/-- While the cache layer owns the buffer too, letting go of the handle hands nothing back. Once the
layer is read out, it hands back the storage. -/
theorem reached_accounts_cached :
    Reached cachedSession ∧ cachedSession.world.owners 0 = 2 ∧
      cachedSession.world.takeShared 0 = none ∧
      HandsBack cachedSession.world.pools (cachedSession.world.release 0).pools [] ∧
    Reached drainedSession ∧ drainedSession.world.owners 0 = 1 ∧
      HandsBack drainedSession.world.pools (drainedSession.world.release 0).pools
        [(0, [7, 8, 0, 0])] := by
  let taken := (World.initial.addPool 4 1).takeBuffer 0 4
  have room : [7, 8].length ≤ taken.1.freeLen := by decide
  have sound : taken.1.Sound := ⟨by decide, by decide⟩
  have written : Reached (⟨taken.2, .buffer (taken.1.append [7, 8]) ::ₘ 0⟩ :
      Session RehearsedReader) :=
    .step (.step (.step .start (.addPool 4 1)) (.take 0 4))
      (.change ((Buffer.Puts.append taken.1 [7, 8] room).frames sound))
  have bare : (Source.peer (⟨1, [], .ended⟩ : RehearsedReader)).handles = [] := rfl
  have opened := Reached.step (.step (.step written (.share _)) (.retain 0)) (.openSource bare rfl)
  have cached : Reached cachedSession := .step opened (.cache _ 0)
  have drained : Reached drainedSession := .step cached (.read _ 2)
  have two : cachedSession.estate.live 0 = 2 := by decide
  have one : drainedSession.estate.live 0 = 1 := by decide
  obtain ⟨_, owners, _, _, _, released, refused, _⟩ := reached_accounts cached
  obtain ⟨_, owner, _, _, _, handed, _⟩ := reached_accounts drained
  refine ⟨cached, ?_, ?_, ?_, drained, ?_, ?_⟩
  · rw [owners 0, two]
  · rw [refused 0, two]
    rfl
  · have back := released 0
    rw [two] at back
    exact back
  · rw [owner 0, one]
  · have back := handed 0
    rw [one] at back
    exact back

end Session

end Conduit
