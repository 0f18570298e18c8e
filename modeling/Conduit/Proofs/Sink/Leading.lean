import Conduit.Proofs.Sink.Conduct
import Conduit.Proofs.Transfer.Pouring
import Conduit.Proofs.World.Tenancy

set_option autoImplicit false

namespace Conduit

open Tenancy (Leads)

variable {σ : Type} {allocator : Allocator}

/-- A drain leads where its writes and the counters called for them lead, and leaves the buffer over
its storage. -/
theorem Buffer.leads_drain {τ : Type} (write : Writing τ) (counters : List Counter)
    (place : τ → World → Tenancy)
    (each : ∀ sink bytes world, Leads allocator (place sink world)
      (place (write sink bytes world).after (write sink bytes world).world))
    (counted : ∀ sink world bytes, Leads allocator (place sink world)
      (place sink (world.count counters bytes)))
    (buffer : Buffer) (sink : τ) (world : World) :
    let drained := buffer.drain write counters sink world
    buffer.Stays drained.buffer ∧
      Leads allocator (place sink world) (place drained.sink drained.world) := by
  intro drained
  by_cases empty : buffer.unread = []
  · have nothing : drained = ⟨.error .endOfStream, 0, buffer, sink, world⟩ :=
      Buffer.drain_of_empty write counters sink world empty
    rw [nothing]
    exact ⟨.refl buffer, .refl _ _⟩
  · obtain ⟨_, _, takes, _⟩ := Buffer.drain_hands write counters buffer sink world empty
    have rule : Buffer.DrainRule write counters fun _ _ _ last later =>
        Leads allocator (place sink world) (place last later) := by
      refine .steady ?_ ?_
      · exact fun led _ _ => (led.trans (each _ _ _)).trans (counted _ _ _)
      · exact fun led _ _ => led.trans (each _ _ _)
    obtain ⟨_, led⟩ := (rule.drain buffer sink world empty (.refl _ _)).holds
    exact ⟨.of_takes takes, led⟩

namespace Sink

def stocks : {depth : Nat} → Sink σ depth → List Buffer
  | _, .peer _ => []
  | _, .descriptor _ => []
  | _, .shared _ => []
  | _, .counted _ _ inner => inner.stocks
  | _, .plain inner => inner.stocks
  | _, .staged buffer inner => buffer :: inner.stocks

variable {depth : Nat}

def keeping (sink : Sink σ depth) (handles : Multiset SharedId) (buffers : Multiset Buffer)
    (world : World) : Estate :=
  ⟨world, sink.handles + handles, sink.stocks + buffers⟩

/-- A write buffer may count as one of those around what lies beneath it. -/
theorem keeping_staged (buffer : Buffer) (inner : Sink σ depth) (handles : Multiset SharedId)
    (buffers : Multiset Buffer) (world : World) :
    (staged buffer inner).keeping handles buffers world =
      inner.keeping handles (buffer ::ₘ buffers) world := by
  rw [keeping, stocks, ← Multiset.cons_coe, Multiset.cons_add, keeping, Multiset.add_cons]
  rfl

theorem keeping_nothing {sink : Sink σ depth} (unshared : sink.handles = [])
    (none : sink.stocks = []) (handles : Multiset SharedId) (buffers : Multiset Buffer)
    (world : World) : sink.keeping handles buffers world = ⟨world, handles, buffers⟩ := by
  rw [keeping, unshared, none, Multiset.coe_nil, Multiset.coe_nil, zero_add, zero_add]

theorem keeping_shared (handle : SharedId) (handles : Multiset SharedId)
    (buffers : Multiset Buffer) (world : World) :
    (shared handle : Sink σ 0).keeping handles buffers world =
      ⟨world, handle ::ₘ handles, buffers⟩ := by
  rw [keeping, Sink.handles, stocks, ← Multiset.cons_coe, Multiset.cons_add, Multiset.coe_nil,
    Multiset.coe_nil, zero_add, zero_add]

@[simp] theorem stocks_uncounted (sink : Sink σ depth) :
    sink.uncounted.1.2.stocks = sink.stocks := by
  induction sink with
  | peer | descriptor | shared | plain | staged => rfl
  | counted _ _ _ ih => exact ih

theorem leads_drop (sink : Sink σ depth) (world : World) (loan : Borrowed)
    (handles : Multiset SharedId) (buffers : Multiset Buffer) :
    Leads allocator ((sink.keeping handles buffers world).beside loan)
      (Estate.beside ⟨sink.drop world, handles, buffers⟩ loan) := by
  induction sink generalizing buffers with
  | peer | descriptor =>
    rw [keeping_nothing rfl rfl]
    exact .refl _ _
  | shared handle =>
    rw [keeping_shared]
    exact .step (.release handle)
  | counted _ _ _ ih => exact ih buffers
  | plain _ ih => exact ih buffers
  | staged buffer inner ih =>
    rw [keeping_staged]
    exact (ih _).trans (.step (.drop buffer))

section

variable [WritePeer σ]

theorem leads_settle (inner : Sink σ depth) (buffer : Buffer) (world : World) (loan : Borrowed)
    (handles : Multiset SharedId) (buffers : Multiset Buffer)
    (each : ∀ (sink : Sink σ depth) bytes world,
      Leads allocator ((sink.keeping handles buffers world).beside loan)
        (((sink.write depth bytes world).after.keeping handles buffers
          (sink.write depth bytes world).world).beside loan)) :
    let settled := Staged.settle (write depth) ⟨inner, buffer⟩ world
    buffer.Stays settled.after.buffer ∧
      Leads allocator ((inner.keeping handles buffers world).beside loan)
        ((settled.after.inner.keeping handles buffers settled.world).beside loan) := by
  obtain ⟨stays, led⟩ := Buffer.leads_drain (write depth) []
    (fun sink world => (sink.keeping handles buffers world).beside loan)
    each (fun _ _ _ => .step (.elsewhere rfl rfl)) buffer inner world
  unfold Staged.settle
  split
  · exact ⟨.refl buffer, .refl _ _⟩
  · dsimp only
    split
    · exact ⟨stays.trans (.reset _), led⟩
    · exact ⟨stays, led⟩

theorem leads_staged (inner : Sink σ depth) (buffer : Buffer) (bytes : Bytes) (world : World)
    (loan : Borrowed) (handles : Multiset SharedId) (buffers : Multiset Buffer)
    (each : ∀ buffers (sink : Sink σ depth) bytes world,
      Leads allocator ((sink.keeping handles buffers world).beside loan)
        (((sink.write depth bytes world).after.keeping handles buffers
          (sink.write depth bytes world).world).beside loan)) :
    let wrote := (Staged.write (write depth) ⟨inner, buffer⟩ bytes world).through ofStaged
    Leads allocator (((staged buffer inner).keeping handles buffers world).beside loan)
      ((wrote.after.keeping handles buffers wrote.world).beside loan) := by
  -- The write buffer lies beside the sink beneath it until that is done, and then changes at once.
  have changed : ∀ {last : Sink σ depth} {left : Buffer} {later : World}, buffer.Stays left →
      Leads allocator ((inner.keeping handles (buffer ::ₘ buffers) world).beside loan)
        ((last.keeping handles (buffer ::ₘ buffers) later).beside loan) →
      Leads allocator (((staged buffer inner).keeping handles buffers world).beside loan)
        (((staged left last).keeping handles buffers later).beside loan) := by
    intro last left later stays led
    rw [keeping_staged, keeping_staged]
    refine led.trans ?_
    rw [keeping, keeping, Multiset.add_cons, Multiset.add_cons]
    exact .step (.change stays)
  obtain ⟨stays, settled⟩ := leads_settle inner buffer world loan handles (buffer ::ₘ buffers)
    (each (buffer ::ₘ buffers))
  unfold Staged.write
  split
  · exact .refl _ _
  · split
    · dsimp only
      split
      · exact changed stays settled
      · exact changed stays (settled.trans (each _ _ _ _))
    · exact changed (.write buffer bytes) (.refl _ _)

theorem leads_write : (depth : Nat) → (sink : Sink σ depth) → (bytes : Bytes) →
    (world : World) → (loan : Borrowed) → (handles : Multiset SharedId) →
    (buffers : Multiset Buffer) →
    Leads allocator ((sink.keeping handles buffers world).beside loan)
      (((sink.write depth bytes world).after.keeping handles buffers
        (sink.write depth bytes world).world).beside loan)
  | _, .peer _, _, _, _, _, _ => .step (.elsewhere rfl rfl)
  | _, .descriptor _, _, _, _, _, _ => .step (.elsewhere rfl rfl)
  | _, .shared handle, bytes, world, loan, handles, buffers => by
    simp only [write]
    rw [keeping_shared, keeping_shared]
    exact .step (.through (Multiset.mem_add.mpr (.inr (Multiset.mem_cons_self _ _)))
      (.write (world.shared handle) bytes))
  | depth + 1, .counted counters total inner, bytes, world, loan, handles, buffers => by
    have beneath := leads_write depth inner bytes world loan handles buffers
    simp only [write]
    split
    · exact beneath.trans (.step (.elsewhere rfl rfl))
    · exact beneath
  | depth + 1, .plain inner, bytes, world, loan, handles, buffers =>
    leads_write depth inner bytes world loan handles buffers
  | depth + 1, .staged buffer inner, bytes, world, loan, handles, buffers =>
    leads_staged inner buffer bytes world loan handles buffers fun buffers sink bytes world =>
      leads_write depth sink bytes world loan handles buffers

/-- What a handshake is told or asked touches no storage. -/
theorem leads_greet (sink : Sink σ depth) (world : World) (loan : Borrowed)
    (handles : Multiset SharedId) (buffers : Multiset Buffer) :
    Leads allocator ((sink.keeping handles buffers world).beside loan)
      (((sink.greet world).after.keeping handles buffers
        (sink.greet world).world).beside loan) := by
  cases sink with
  | peer => exact .step (.elsewhere rfl rfl)
  | descriptor | shared | counted | plain | staged => exact .refl _ _

theorem leads_feed (sink : Sink σ depth) (bytes : Bytes) (world : World) (loan : Borrowed)
    (handles : Multiset SharedId) (buffers : Multiset Buffer) :
    Leads allocator ((sink.keeping handles buffers world).beside loan)
      (((sink.feed bytes world).after.keeping handles buffers
        (sink.feed bytes world).world).beside loan) := by
  cases sink with
  | peer => exact .step (.elsewhere rfl rfl)
  | descriptor | shared | counted | plain | staged => exact .refl _ _

end

end Sink

end Conduit
