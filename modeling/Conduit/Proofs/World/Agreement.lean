import Conduit.Proofs.World.Likeness
import Conduit.Proofs.World.Views
import Conduit.Source.Basic

set_option autoImplicit false

namespace Conduit

def Event.isCount : Event → Bool
  | .counted _ _ => true
  | _ => false

namespace World

/-- The records in the journal, without the calls of counters. -/
def uncounted (world : World) : List Event :=
  world.journal.events.filter fun event => !event.isCount

/-- Two worlds differ in the calls of counters at most. -/
structure Agrees (world other : World) : Prop where
  pools : world.pools = other.pools
  cells : world.cells = other.cells
  pipePools : world.pipePools = other.pipePools
  kernel : world.kernel = other.kernel
  events : world.uncounted = other.uncounted

theorem uncounted_count (world : World) (counters : List Counter) (bytes : Nat) :
    (world.count counters bytes).uncounted = world.uncounted := by
  obtain ⟨events, grown, counts⟩ := logs_count world counters bytes
  have none : events.filter (fun event => !event.isCount) = [] := by
    refine List.filter_eq_nil_iff.mpr fun event member => ?_
    obtain ⟨counter, _, _, rfl⟩ := counts event member
    exact Bool.false_ne_true
  rw [uncounted, grown, List.filter_append, none, List.append_nil, uncounted]

namespace Agrees

theorem refl (world : World) : Agrees world world := ⟨rfl, rfl, rfl, rfl, rfl⟩

variable {world other : World} (agrees : Agrees world other)

include agrees

theorem shared (handle : SharedId) : world.shared handle = other.shared handle := by
  rw [World.shared, agrees.cells, World.shared]

theorem record (event : Event) : Agrees (world.record event) (other.record event) :=
  { agrees with
    events := by
      simp only [uncounted, World.record, Journal.events_record, List.filter_append]
      exact congrArg (· ++ _) agrees.events }

theorem notice (notice : Notice) : Agrees (world.notice notice) (other.notice notice) :=
  agrees.record (.noticed notice)

/-- Which counters are called, and with what, does not matter. -/
theorem count (counters others : List Counter) (bytes amount : Nat) :
    Agrees (world.count counters bytes) (other.count others amount) :=
  { agrees with events := by rw [uncounted_count, uncounted_count, agrees.events] }

theorem countBoth (counters others : CounterSet) (bytes amount : Nat) :
    Agrees (world.countBoth counters bytes) (other.countBoth others amount) :=
  (agrees.count _ _ _ _).count _ _ _ _

theorem inKernel {kernel another : Kernel} (same : kernel = another) :
    Agrees { world with kernel } { other with kernel := another } :=
  { agrees with kernel := same }

theorem inCells {cells others : Table Cell} (same : cells = others) :
    Agrees { world with cells } { other with cells := others } :=
  { agrees with cells := same }

theorem dropBuffer (buffer : Buffer) :
    Agrees (world.dropBuffer buffer) (other.dropBuffer buffer) := by
  unfold World.dropBuffer freeBuffer
  split
  · exact agrees
  · exact { agrees with pools := by rw [recycle, recycle, agrees.pools] }

theorem setShared (handle : SharedId) (buffer : Buffer) :
    Agrees (world.setShared handle buffer) (other.setShared handle buffer) :=
  agrees.inCells (by rw [agrees.cells])

theorem share_fst (buffer : Buffer) : (world.share buffer).1 = (other.share buffer).1 :=
  congrArg Table.next agrees.cells

theorem share_snd (buffer : Buffer) : Agrees (world.share buffer).2 (other.share buffer).2 :=
  agrees.inCells (by rw [agrees.cells])

theorem release (handle : SharedId) : Agrees (world.release handle) (other.release handle) := by
  simp only [World.release, agrees.cells]
  split
  · exact (agrees.inCells rfl).dropBuffer _
  · exact agrees.inCells rfl

theorem takeBuffer (pool : PoolId) (size : Nat) :
    (world.takeBuffer pool size).1 = (other.takeBuffer pool size).1 ∧
      Agrees (world.takeBuffer pool size).2 (other.takeBuffer pool size).2 := by
  simp only [World.takeBuffer, agrees.pools]
  split
  · split
    · exact ⟨rfl, { agrees with pools := rfl }⟩
    · exact ⟨rfl, agrees.notice _⟩
  · exact ⟨rfl, agrees⟩

theorem alloc (allocator : Allocator) (size : Nat) :
    (allocator.alloc size world).1 = (allocator.alloc size other).1 ∧
      Agrees (allocator.alloc size world).2 (allocator.alloc size other).2 := by
  simp only [Allocator.alloc, agrees.pools]
  split
  · exact agrees.takeBuffer _ size
  · exact ⟨rfl, agrees⟩

end Agrees

end World

theorem World.Agrees.likeness : World.Likeness World.Agrees where
  shared := fun agrees => agrees.shared
  kernel := fun agrees => agrees.kernel
  record := fun agrees => agrees.record
  inKernel := fun agrees _ => agrees.inKernel rfl
  setShared := fun agrees => agrees.setShared
  release := fun agrees => agrees.release

/-- Two calls answer the same and leave worlds that agree, and endpoints that are alike. -/
structure Called.Agrees {τ υ α : Type} (Like : τ → υ → Prop) (called : Called τ α)
    (other : Called υ α) : Prop where
  answer : called.answer = other.answer
  after : Like called.after other.after
  world : called.world.Agrees other.world

theorem Called.Matches.agrees {τ α : Type} {called other : Called τ α}
    (same : called.Matches World.Agrees other) : called.Agrees Eq other :=
  ⟨same.answer, same.after, same.world⟩

namespace Source

variable {ρ : Type} [ReadPeer ρ] {world other : World}

theorem read_agrees (source : Source ρ) (wanted : Nat) (agrees : world.Agrees other) :
    Called.Agrees Eq (source.read wanted world) (source.read wanted other) :=
  (source.read_matches World.Agrees.likeness wanted agrees).agrees

omit [ReadPeer ρ] in
theorem drop_agrees (source : Source ρ) (agrees : world.Agrees other) :
    (source.drop world).Agrees (source.drop other) := by
  induction source with
  | peer | descriptor => exact agrees
  | buffer stock => exact agrees.dropBuffer stock
  | counted _ _ _ ih | plain _ ih => exact ih
  | cached layer _ _ ih =>
    cases layer with
    | none => exact ih
    | some handle => exact ih.release handle

omit [ReadPeer ρ] in
theorem cache_agrees (source : Source ρ) (handle : SharedId) (agrees : world.Agrees other) :
    (source.cache handle world).1 = (source.cache handle other).1 ∧
      (source.cache handle world).2.Agrees (source.cache handle other).2 := by
  unfold cache
  rw [agrees.shared]
  split
  · exact ⟨rfl, agrees.release handle⟩
  · exact ⟨rfl, agrees⟩

end Source

end Conduit
