import Conduit.Proofs.Source.Reads
import Conduit.Proofs.Splice.Passage
import Conduit.Proofs.Transfer.Filling

set_option autoImplicit false

namespace Conduit

namespace Event

/-- The bytes that a record says a live writer took as data. -/
def written : Event → Bytes
  | .wrote _ offered (.ok taken) => offered.take taken
  | .pulled _ bytes => bytes
  | _ => []

end Event

namespace World

/-- All that live writers took as data so far. -/
def written (world : World) : Bytes := world.journal.events.flatMap Event.written

theorem written_record (world : World) (event : Event) :
    (world.record event).written = world.written ++ event.written := by
  simp [written, record]

theorem Logs.written_eq {sort : Event → Prop} {world later : World}
    (logs : Logs sort world later) (silent : ∀ event, sort event → event.written = []) :
    later.written = world.written := by
  obtain ⟨events, grown, sorted⟩ := logs
  have none : events.flatMap Event.written = [] :=
    List.flatMap_eq_nil_iff.mpr fun event member => silent event (sorted event member)
  rw [written, grown, List.flatMap_append, none, List.append_nil, written]

/-- Nothing was written anywhere, and pipes and what the kernel decides are as they were. -/
structure Elsewhere (world later : World) : Prop where
  written : later.written = world.written
  received : ∀ fd, later.kernel.received fd = world.kernel.received fd
  conduct : ∀ fd,
    (later.kernel.descriptors.get fd).conduct = (world.kernel.descriptors.get fd).conduct
  verdict : later.kernel.verdict = world.kernel.verdict
  calls : world.kernel.calls ≤ later.kernel.calls
  pipes : later.kernel.pipes = world.kernel.pipes
  pipePools : later.pipePools = world.pipePools

namespace Elsewhere

variable {world middle later : World}

theorem trans (first : Elsewhere world middle) (second : Elsewhere middle later) :
    Elsewhere world later where
  written := second.written.trans first.written
  received := fun fd => (second.received fd).trans (first.received fd)
  conduct := fun fd => (second.conduct fd).trans (first.conduct fd)
  verdict := second.verdict.trans first.verdict
  calls := Nat.le_trans first.calls second.calls
  pipes := second.pipes.trans first.pipes
  pipePools := second.pipePools.trans first.pipePools

/-- A change of neither the kernel nor the pools of pipes. -/
theorem of_kernel_eq (kernel : later.kernel = world.kernel)
    (pipePools : later.pipePools = world.pipePools) (written : later.written = world.written) :
    Elsewhere world later where
  written := written
  received := fun _ => by rw [kernel]
  conduct := fun _ => by rw [kernel]
  verdict := by rw [kernel]
  calls := Nat.le_of_eq (by rw [kernel])
  pipes := by rw [kernel]
  pipePools := pipePools

theorem refl (world : World) : Elsewhere world world := .of_kernel_eq rfl rfl rfl

end Elsewhere

theorem written_of_journal_eq {world later : World} (same : later.journal = world.journal) :
    later.written = world.written := by
  rw [written, same, written]

variable (world : World)

theorem elsewhere_record (event : Event) (silent : event.written = []) :
    Elsewhere world (world.record event) :=
  .of_kernel_eq rfl rfl (by rw [written_record, silent, List.append_nil])

theorem elsewhere_notice (notice : Notice) : Elsewhere world (world.notice notice) :=
  world.elsewhere_record (.noticed notice) rfl

theorem elsewhere_count (counters : List Counter) (bytes : Nat) :
    Elsewhere world (world.count counters bytes) := by
  refine .of_kernel_eq rfl rfl ((logs_count world counters bytes).written_eq ?_)
  rintro event ⟨counter, -, -, rfl⟩
  rfl

theorem elsewhere_dropBuffer (buffer : Buffer) : Elsewhere world (world.dropBuffer buffer) := by
  refine .of_kernel_eq (kernel_freeBuffer world buffer) ?_
    (written_of_journal_eq (journal_dropBuffer world buffer))
  unfold dropBuffer freeBuffer
  split <;> rfl

theorem elsewhere_setShared (handle : SharedId) (buffer : Buffer) :
    Elsewhere world (world.setShared handle buffer) :=
  .of_kernel_eq rfl rfl rfl

theorem elsewhere_share (buffer : Buffer) : Elsewhere world (world.share buffer).2 :=
  .of_kernel_eq rfl rfl rfl

theorem elsewhere_release (handle : SharedId) : Elsewhere world (world.release handle) := by
  have put : ∀ cells, Elsewhere world { world with cells } :=
    fun _ => .of_kernel_eq rfl rfl rfl
  unfold release
  dsimp only
  split
  · exact (put _).trans (elsewhere_dropBuffer _ _)
  · exact put _

theorem elsewhere_alloc (allocator : Allocator) (size : Nat) :
    Elsewhere world (allocator.alloc size world).2 := by
  rcases allocator.alloc_world size world with ⟨pools, same⟩ | ⟨missing, same⟩
  · rw [same]
    exact .of_kernel_eq rfl rfl rfl
  · rw [same]
    exact world.elsewhere_notice _

/-- A read of a descriptor takes from what it delivers. -/
theorem elsewhere_kernelRead (fd : Fd) (wanted : Nat) :
    Elsewhere world { world with kernel := (world.kernel.read fd wanted).2 } := by
  unfold Kernel.read
  dsimp only
  split
  · exact ⟨rfl, fun _ => rfl, fun _ => rfl, rfl, Nat.le_succ _, rfl, rfl⟩
  · exact ⟨rfl, fun _ => rfl, fun _ => rfl, rfl, Nat.le_succ _, rfl, rfl⟩
  · refine ⟨rfl, ?_, ?_, rfl, Nat.le_succ _, rfl, rfl⟩
    all_goals
      intro other
      simp only [Kernel.received, Table.get_put]
      by_cases same : other = fd
      · simp [same, Descriptor.deliver, Descriptor.conduct, Descriptor.received]
      · simp [same]

end World

namespace Source

open World (Elsewhere)

variable {ρ : Type}

theorem elsewhere_drop (source : Source ρ) (world : World) :
    Elsewhere world (source.drop world) := by
  induction source with
  | peer | descriptor => exact .refl world
  | buffer stock => exact world.elsewhere_dropBuffer stock
  | cached layer deferred inner ih =>
    cases layer with
    | none => exact ih
    | some handle => exact ih.trans (World.elsewhere_release _ handle)
  | counted counters total inner ih => exact ih
  | plain inner ih => exact ih

variable [ReadPeer ρ]

theorem elsewhere_rule (start : World) : ReadRule (Elsewhere start) where
  heard := fun before => before.trans (World.elsewhere_record _ _ rfl)
  delivered := fun before => before.trans (World.elsewhere_kernelRead _ _ _)
  shared := fun before => before.trans (World.elsewhere_setShared _ _ _)
  released := fun before => before.trans (World.elsewhere_release _ _)
  counted := fun before => before.trans (World.elsewhere_count _ _ _)

theorem Reads.elsewhere {source : Source ρ} {wanted : Nat} {world : World}
    {reading : Called (Source ρ) Bytes} (reads : Reads source wanted world reading) :
    Elsewhere world reading.world :=
  reads.keeps (elsewhere_rule world) (.refl world)

theorem elsewhere_read (source : Source ρ) (wanted : Nat) (world : World) :
    Elsewhere world (source.read wanted world).world :=
  (reads_read source wanted world).elsewhere

end Source

namespace Buffer

variable {ρ : Type} [ReadPeer ρ]

theorem elsewhere_fillOnce {retries : Nat} {counters : List Counter} {buffer : Buffer}
    {source : Source ρ} {world : World} {filled : Filled ρ}
    (ended : buffer.fillOnce retries counters source world = some filled) :
    World.Elsewhere world filled.world :=
  fillOnce_keeps (fun source wanted {now} before => before.trans (source.elsewhere_read wanted now))
    (fun _ {_} before => before.trans (World.elsewhere_count _ counters _)) ended (.refl world)

end Buffer

end Conduit
