import Conduit.Proofs.Transfer.Pouring
import Conduit.Proofs.World.Tenancy

set_option autoImplicit false

namespace Conduit

open Tenancy (Leads)

variable {ρ : Type} [ReadPeer ρ] {allocator : Allocator}

namespace Source

theorem leads_readShared (world : World) (handle : SharedId) (wanted : Nat) (loan : Borrowed)
    (handles : Multiset SharedId) (buffers : Multiset Buffer) :
    Leads allocator (Estate.beside ⟨world, handle ::ₘ handles, buffers⟩ loan)
      (Estate.beside ⟨(world.readShared handle wanted).2, handle ::ₘ handles, buffers⟩ loan) :=
  .step (.through (Multiset.mem_add.mpr (.inr (Multiset.mem_cons_self _ _)))
    (.consume (world.shared handle) wanted))

/-- A layer's buffer is read out, and its handle is let go of. -/
theorem leads_passed (world : World) (handle : SharedId) (wanted : Nat) (loan : Borrowed)
    (handles : Multiset SharedId) (buffers : Multiset Buffer) :
    Leads allocator (Estate.beside ⟨world, handle ::ₘ handles, buffers⟩ loan)
      (Estate.beside ⟨(world.readShared handle wanted).2.release handle, handles, buffers⟩ loan) :=
  (leads_readShared world handle wanted loan handles buffers).trans (.step (.release handle))

theorem Reads.leads {source : Source ρ} {wanted : Nat} {world : World}
    {reading : Called (Source ρ) Bytes} (reads : Reads source wanted world reading)
    (loan : Borrowed) (handles : Multiset SharedId) (buffers : Multiset Buffer) :
    Leads allocator ((source.keeping handles buffers world).beside loan)
      ((reading.after.keeping handles buffers reading.world).beside loan) := by
  induction reads with
  | peer | descriptor => exact .step (.elsewhere rfl rfl)
  | buffer stock wanted world =>
    rw [keeping_buffer, keeping_buffer]
    exact .step (.change (.consume stock wanted))
  | deferred layer fault inner wanted world =>
    cases layer <;> exact .refl _ _
  | nothing => exact .refl _ _
  | through _ ih => exact ih
  | part =>
    rw [keeping_cached, keeping_cached]
    exact leads_readShared _ _ _ _ _ _
  | whole =>
    rw [keeping_cached]
    exact leads_passed _ _ _ _ _ _
  | joined _ _ _ ih | kept _ _ _ _ ih | failed _ _ _ ih =>
    rw [keeping_cached]
    exact (leads_passed _ _ _ _ _ _).trans ih
  | counted _ _ ih => exact ih.trans (.step (.elsewhere rfl rfl))
  | uncounted _ _ ih => exact ih
  | plain _ ih => exact ih

omit [ReadPeer ρ] in
theorem leads_drop (source : Source ρ) (world : World) (loan : Borrowed)
    (handles : Multiset SharedId) (buffers : Multiset Buffer) :
    Leads allocator ((source.keeping handles buffers world).beside loan)
      (Estate.beside ⟨source.drop world, handles, buffers⟩ loan) := by
  induction source generalizing handles world with
  | peer | descriptor =>
    rw [keeping_nothing rfl rfl]
    exact .refl _ _
  | buffer stock =>
    rw [keeping_buffer]
    exact .step (.drop stock)
  | cached layer deferred inner ih =>
    cases layer with
    | none => exact ih world handles
    | some handle =>
      rw [keeping_beneath]
      exact (ih world _).trans (.step (.release handle))
  | counted _ _ _ ih => exact ih world handles
  | plain _ ih => exact ih world handles

end Source

namespace Buffer

/-- A fill by one read is a read of the source, and leaves the buffer over its storage. -/
theorem leads_fillOnce (allocator : Allocator) {retries : Nat} {counters : List Counter}
    {buffer : Buffer} {source : Source ρ} {world : World} {filled : Filled ρ}
    (ended : buffer.fillOnce retries counters source world = some filled) (loan : Borrowed)
    (handles : Multiset SharedId) (buffers : Multiset Buffer) :
    buffer.Stays filled.buffer ∧
      Leads allocator ((source.keeping handles buffers world).beside loan)
        ((filled.source.keeping handles buffers filled.world).beside loan) := by
  unfold fillOnce at ended
  split at ended
  · cases ended
    exact ⟨.refl buffer, .refl _ _⟩
  · have pours := fillOnceLoop_pours counters buffer source world retries
    rw [ended] at pours
    obtain ⟨bytes, _, ⟨_, _, _, _, _, result⟩, _⟩ := pours
    refine ⟨result ▸ .append buffer bytes, ?_⟩
    -- What holds before each read is that the reads so far led there.
    let Led : Nat → Source ρ → World → Prop := fun _ last later =>
      Leads allocator ((source.keeping handles buffers world).beside loan)
        ((last.keeping handles buffers later).beside loan)
    have sitsOut : SitsOut buffer.freeLen Led := by
      intro _ last later _ led _ _
      exact led.trans ((last.reads_read buffer.freeLen later).leads loan handles buffers)
    obtain ⟨_, last, later, led, _, from_last⟩ :=
      fillOnceLoop_ends counters buffer source world retries sitsOut (.refl _ _) filled ended
    have reading := led.trans ((last.reads_read buffer.freeLen later).leads loan handles buffers)
    rw [from_last, filledFrom]
    split
    · exact reading.trans (.step (.elsewhere rfl rfl))
    · exact reading

end Buffer

end Conduit
