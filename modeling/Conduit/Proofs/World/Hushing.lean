import Conduit.Proofs.World.Views
import Conduit.Sink.Basic
import Conduit.Source.Basic

set_option autoImplicit false

namespace Conduit

/-- A record of something other than a call of an endpoint. -/
def Event.Inward : Event → Prop
  | .counted _ _ => True
  | .noticed _ => True
  | _ => False

namespace World

/-- No endpoint was called between two worlds. -/
structure Hushed (world later : World) : Prop where
  kernel : later.kernel = world.kernel
  logs : Logs Event.Inward world later

namespace Hushed

variable {world middle later : World}

theorem still (kernel : later.kernel = world.kernel) (journal : later.journal = world.journal) :
    Hushed world later :=
  ⟨kernel, .of_journal_eq journal⟩

theorem refl (world : World) : Hushed world world := .still rfl rfl

theorem trans (first : Hushed world middle) (second : Hushed middle later) : Hushed world later :=
  ⟨second.kernel.trans first.kernel, first.logs.trans second.logs⟩

end Hushed

variable (world : World)

theorem hushed_notice (notice : Notice) : Hushed world (world.notice notice) :=
  ⟨rfl, .record (show Event.Inward (.noticed notice) from trivial) world⟩

theorem hushed_count (counters : List Counter) (bytes : Nat) :
    Hushed world (world.count counters bytes) := by
  refine ⟨rfl, (logs_count world counters bytes).mono ?_⟩
  rintro event ⟨counter, -, -, rfl⟩
  trivial

theorem hushed_countBoth (counters : CounterSet) (bytes : Nat) :
    Hushed world (world.countBoth counters bytes) :=
  (world.hushed_count counters.read bytes).trans (hushed_count _ counters.write bytes)

theorem hushed_dropBuffer (buffer : Buffer) : Hushed world (world.dropBuffer buffer) :=
  .still (kernel_freeBuffer world buffer) (journal_dropBuffer world buffer)

theorem hushed_setShared (handle : SharedId) (buffer : Buffer) :
    Hushed world (world.setShared handle buffer) :=
  .still rfl rfl

theorem hushed_share (buffer : Buffer) : Hushed world (world.share buffer).2 := .still rfl rfl

theorem hushed_release (handle : SharedId) : Hushed world (world.release handle) := by
  refine .still ?_ (journal_release world handle)
  unfold release
  dsimp only
  split
  · exact kernel_freeBuffer _ _
  · rfl

theorem hushed_alloc (allocator : Allocator) (size : Nat) :
    Hushed world (allocator.alloc size world).2 := by
  rcases allocator.alloc_world size world with ⟨pools, same⟩ | ⟨missing, same⟩
  · rw [same]
    exact .still rfl rfl
  · rw [same]
    exact world.hushed_notice _

end World

/-- A source is let go without a call. -/
theorem Source.hushed_drop {ρ : Type} (source : Source ρ) (world : World) :
    world.Hushed (source.drop world) := by
  induction source with
  | peer | descriptor => exact .refl world
  | buffer stock => exact world.hushed_dropBuffer stock
  | cached layer deferred inner ih =>
    cases layer with
    | none => exact ih
    | some handle => exact ih.trans (World.hushed_release _ handle)
  | counted counters total inner ih => exact ih
  | plain inner ih => exact ih

theorem Source.hushed_release_drop {ρ : Type} (rest : Source ρ) (handle : SharedId)
    (world : World) : world.Hushed (rest.drop (world.release handle)) :=
  (world.hushed_release handle).trans (rest.hushed_drop _)

/-- A sink is let go without a call. -/
theorem Sink.hushed_drop {σ : Type} {depth : Nat} (sink : Sink σ depth) (world : World) :
    world.Hushed (sink.drop world) := by
  induction sink with
  | peer | descriptor => exact .refl world
  | shared handle => exact world.hushed_release handle
  | counted counters total inner ih => exact ih
  | plain inner ih => exact ih
  | staged buffer inner ih => exact ih.trans (World.hushed_dropBuffer _ buffer)

end Conduit
