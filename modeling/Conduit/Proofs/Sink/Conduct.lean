import Conduit.Proofs.Peer.Conduct
import Conduit.Proofs.Transfer.Draining
import Conduit.Proofs.World.Views
import Conduit.Sink.Basic
import Conduit.Sink.Watched

set_option autoImplicit false

namespace Conduit

namespace Sink

variable {σ : Type}

/-- The live end, if there is one, is an orderly writer. -/
def Orderly [WritePeer σ] : {depth : Nat} → Sink σ depth → Prop
  | _, .peer writer => WritePeer.Orderly writer
  | _, .descriptor _ => True
  | _, .shared _ => True
  | _, .counted _ _ inner => inner.Orderly
  | _, .plain inner => inner.Orderly
  | _, .staged _ inner => inner.Orderly

def live? : {depth : Nat} → Sink σ depth → Option σ
  | _, .peer writer => some writer
  | _, .descriptor _ => none
  | _, .shared _ => none
  | _, .counted _ _ inner => inner.live?
  | _, .plain inner => inner.live?
  | _, .staged _ inner => inner.live?

/-- The live end, if there is one, claims no more than it is offered. -/
def Modest [WritePeer σ] {depth : Nat} (sink : Sink σ depth) : Prop :=
  ∀ writer, sink.live? = some writer → WritePeer.Modest writer

theorem orderly_iff [WritePeer σ] {depth : Nat} (sink : Sink σ depth) :
    sink.Orderly ↔ ∀ writer, sink.live? = some writer → WritePeer.Orderly writer := by
  induction sink with
  | peer writer => simp [Orderly, live?]
  | descriptor | shared => simp [Orderly, live?]
  | counted _ _ _ ih => exact ih
  | plain _ ih => exact ih
  | staged _ _ ih => exact ih

theorem Orderly.modest [WritePeer σ] {depth : Nat} {sink : Sink σ depth} (orderly : sink.Orderly) :
    sink.Modest :=
  fun writer found => (sink.orderly_iff.mp orderly writer found).modest

def handles : {depth : Nat} → Sink σ depth → List SharedId
  | _, .peer _ => []
  | _, .descriptor _ => []
  | _, .shared handle => [handle]
  | _, .counted _ _ inner => inner.handles
  | _, .plain inner => inner.handles
  | _, .staged _ inner => inner.handles

def counters : {depth : Nat} → Sink σ depth → List Counter
  | _, .peer _ => []
  | _, .descriptor _ => []
  | _, .shared _ => []
  | _, .counted counters _ inner => counters ++ inner.counters
  | _, .plain inner => inner.counters
  | _, .staged _ inner => inner.counters

end Sink

namespace Event

/-- A record that a call of a sink with these counters may leave. -/
def OfSink (counters : List Counter) : Event → Prop
  | .wrote _ _ _ => True
  | .flushed _ _ => True
  | .greeted _ _ => True
  | .fed _ _ _ => True
  | .counted counter bytes => counter ∈ counters ∧ bytes ≠ 0
  | _ => False

theorem OfSink.mono {counters wider : List Counter} (within : counters ⊆ wider) (event : Event)
    (ofSink : event.OfSink counters) : event.OfSink wider := by
  cases event with
  | counted counter bytes => exact ⟨within ofSink.1, ofSink.2⟩
  | wrote | flushed | greeted | fed => trivial
  | read | pulling | pulled | closed | noticed => exact ofSink

end Event

namespace Sink

variable {σ : Type} [WritePeer σ] {depth : Nat}

/-- A sink and its world before and after calls of it: the layers are the same, and the world
changed only in the shared buffers that lie in the sink and in what the journal says of it. -/
structure Becomes (sink : Sink σ depth) (world : World) (later : Sink σ depth) (after : World) :
    Prop where
  live : ∀ last, later.live? = some last →
    ∃ writer, sink.live? = some writer ∧ WritePeer.Reaches writer last
  handles : later.handles = sink.handles
  counters : later.counters = sink.counters
  descriptor : later.descriptor? = sink.descriptor?
  held : ∀ handle, handle ∉ sink.handles → after.stores.held handle = world.stores.held handle
  incoming : after.stores.incoming = world.stores.incoming
  made : world.cells.next ≤ after.cells.next
  logs : World.Logs (Event.OfSink sink.counters) world after

namespace Becomes

variable {sink middle later : Sink σ depth} {world between after : World}

theorem refl (sink : Sink σ depth) (world : World) : Becomes sink world sink world :=
  ⟨fun last found => ⟨last, found, .still last⟩, rfl, rfl, rfl, fun _ _ => rfl, rfl, Nat.le_refl _,
    .refl _ world⟩

theorem trans (first : Becomes sink world middle between)
    (second : Becomes middle between later after) : Becomes sink world later after where
  live := by
    intro last found
    obtain ⟨mid, kept, back⟩ := second.live last found
    obtain ⟨writer, held, front⟩ := first.live mid kept
    exact ⟨writer, held, front.trans back⟩
  handles := second.handles.trans first.handles
  counters := second.counters.trans first.counters
  descriptor := second.descriptor.trans first.descriptor
  held := by
    intro handle outside
    rw [second.held handle (by rwa [first.handles]), first.held handle outside]
  incoming := second.incoming.trans first.incoming
  made := Nat.le_trans first.made second.made
  logs := first.logs.trans (first.counters ▸ second.logs)

theorem modest (becomes : Becomes sink world later after) (modest : sink.Modest) :
    later.Modest := by
  intro last found
  obtain ⟨writer, held, reached⟩ := becomes.live last found
  exact (modest writer held).reached reached

theorem orderly (becomes : Becomes sink world later after) (orderly : sink.Orderly) :
    later.Orderly := by
  refine later.orderly_iff.mpr fun last found => ?_
  obtain ⟨writer, held, reached⟩ := becomes.live last found
  exact (sink.orderly_iff.mp orderly writer held).reached reached

end Becomes

/-- What a call of a sink that is offered some bytes comes to. -/
structure Takes (sink : Sink σ depth) (offered : Bytes) (world : World)
    (called : Called (Sink σ depth) Nat) : Prop where
  becomes : Becomes sink world called.after called.world
  fits : sink.Modest → ∀ taken, called.answer = .ok taken → taken ≤ offered.length
  candid : sink.Orderly → ∀ fault, called.answer = .error fault → ¬ fault.EndsStream

namespace Becomes

variable {sink later : Sink σ depth} {world after : World}

/-- A counting layer adds the calls of its own counters. -/
theorem counted (becomes : Becomes sink world later after) (counters : List Counter)
    (total sum bytes : Nat) :
    Becomes (.counted counters total sink) world (.counted counters sum later)
      (after.count counters bytes) where
  live := becomes.live
  handles := becomes.handles
  counters := congrArg (counters ++ ·) becomes.counters
  descriptor := rfl
  held := becomes.held
  incoming := becomes.incoming
  made := becomes.made
  logs := by
    refine (becomes.logs.mono ?_).trans ((World.logs_count after counters bytes).mono ?_)
    · exact Event.OfSink.mono (List.subset_append_right counters sink.counters)
    · rintro event ⟨counter, registered, some, rfl⟩
      exact ⟨List.mem_append_left _ registered, some⟩

theorem plain (becomes : Becomes sink world later after) :
    Becomes (.plain sink) world (.plain later) after :=
  ⟨becomes.live, becomes.handles, becomes.counters, rfl, becomes.held, becomes.incoming,
    becomes.made, becomes.logs⟩

theorem staged (becomes : Becomes sink world later after) (buffer left : Buffer) :
    Becomes (.staged buffer sink) world (.staged left later) after :=
  ⟨becomes.live, becomes.handles, becomes.counters, rfl, becomes.held, becomes.incoming,
    becomes.made, becomes.logs⟩

end Becomes

/-- A write buffer is sent out by calls of the sink beneath, and its fault is no end of a stream. -/
theorem settle_becomes (inner : Sink σ depth) (buffer : Buffer) (world : World)
    (takes : ∀ (sink : Sink σ depth) bytes world,
      Takes sink bytes world (sink.write depth bytes world)) :
    let settled := Staged.settle (write depth) ⟨inner, buffer⟩ world
    Becomes inner world settled.after.inner settled.world ∧
      ∀ fault, settled.answer = .error fault → ¬ fault.EndsStream := by
  unfold Staged.settle
  by_cases empty : buffer.isEmpty = true
  · simp only [empty, if_true]
    exact ⟨.refl inner world, by simp⟩
  · have rule : Buffer.DrainRule (write depth) [] fun _ _ _ sink now =>
        Becomes inner world sink now := by
      refine .steady ?_ ?_
      · intro left _ sink now taken becomes _ _
        rw [World.count_nil]
        exact becomes.trans (takes sink left now).becomes
      · intro left _ sink now fault becomes _ _
        exact becomes.trans (takes sink left now).becomes
    have ends := rule.drain buffer inner world (by simpa [Buffer.isEmpty] using empty)
      (.refl inner world)
    simp only [empty, Bool.false_eq_true, if_false]
    obtain ⟨_, becomes⟩ := ends.holds
    cases result : (buffer.drain (write depth) [] inner world).result with
    | ok total =>
      dsimp only
      exact ⟨becomes, by simp⟩
    | error fault =>
      dsimp only
      refine ⟨becomes, ?_⟩
      rintro cause same
      cases same
      intro absurd
      cases absurd

theorem staged_takes (inner : Sink σ depth) (buffer : Buffer) (bytes : Bytes) (world : World)
    (takes : ∀ (sink : Sink σ depth) bytes world,
      Takes sink bytes world (sink.write depth bytes world)) :
    Takes (.staged buffer inner) bytes world
      ((Staged.write (write depth) ⟨inner, buffer⟩ bytes world).through ofStaged) := by
  unfold Staged.write
  by_cases nothing : bytes.isEmpty = true
  · simp only [nothing, if_true]
    refine ⟨(Becomes.refl inner world).staged buffer buffer, ?_,
      fun _ fault absurd => nomatch absurd⟩
    rintro _ taken same
    cases same
    exact Nat.zero_le _
  · simp only [nothing, Bool.false_eq_true, if_false]
    by_cases tight : buffer.freeLen < bytes.length
    · obtain ⟨becomes, candid⟩ := settle_becomes inner buffer world takes
      simp only [tight, if_true]
      split
      · rename_i fault failed
        refine ⟨becomes.staged buffer _, fun _ taken absurd => (nomatch absurd), ?_⟩
        rintro _ other same
        cases same
        exact candid fault failed
      · have sent := takes (Staged.settle (write depth) ⟨inner, buffer⟩ world).after.inner bytes
          (Staged.settle (write depth) ⟨inner, buffer⟩ world).world
        exact ⟨(becomes.trans sent.becomes).staged buffer _,
          fun modest => sent.fits (becomes.modest modest),
          fun orderly => sent.candid (becomes.orderly orderly)⟩
    · simp only [tight, if_false]
      have room : buffer.isFull = false := by
        have some : bytes.length ≠ 0 := by simpa using nothing
        simp only [Buffer.isFull, beq_eq_false_iff_ne]
        omega
      have stays : Becomes (Sink.staged buffer inner) world
          (Sink.staged (buffer.write bytes).2 inner) world :=
        Becomes.staged (.refl inner world) buffer _
      refine ⟨stays, ?_, ?_⟩
      · intro _ taken answer
        simp only [Called.through, Buffer.write, nothing, room, Bool.false_eq_true, if_false,
          Except.ok.injEq] at answer
        omega
      · intro _ fault failed
        simp [Called.through, Buffer.write, nothing, room] at failed

theorem write_takes : (depth : Nat) → (sink : Sink σ depth) → (bytes : Bytes) →
    (world : World) → Takes sink bytes world (sink.write depth bytes world)
  | _, .peer writer, bytes, world => by
    refine ⟨⟨?_, rfl, rfl, rfl, fun _ _ => rfl, rfl, Nat.le_refl _, .record trivial world⟩, ?_, ?_⟩
    · rintro _ ⟨⟩
      exact ⟨writer, rfl, .write bytes (.still writer)⟩
    · exact fun modest taken => modest writer rfl writer bytes taken (.still writer)
    · exact fun orderly fault =>
        WritePeer.Orderly.candid orderly writer bytes fault (.still writer)
  | _, .descriptor fd, bytes, world => by
    have same := World.stores_kernelWrite world fd bytes
    refine ⟨⟨?_, rfl, rfl, rfl, ?_, ?_, Nat.le_refl _, .of_journal_eq rfl⟩, ?_, ?_⟩
    · rintro _ ⟨⟩
    · exact fun handle _ => congrArg (fun stores => stores.held handle) same
    · exact congrArg Stores.incoming same
    · intro _ taken answer
      simp only [write, Kernel.write] at answer
      split at answer
      · simp [Except.mapError] at answer
      · simp [Except.mapError] at answer
      · simp only [Except.mapError, Except.ok.injEq, List.length_take] at answer
        omega
    · intro _ fault failed
      simp only [write] at failed
      cases answer : (world.kernel.write fd bytes).1 with
      | ok taken => simp [answer, Except.mapError] at failed
      | error error =>
        simp only [answer, Except.mapError, Except.error.injEq] at failed
        exact failed ▸ IoFault.not_endsStream_system error
  | _, .shared handle, bytes, world => by
    have stores := World.stores_setShared world handle ((world.shared handle).write bytes).2
    refine ⟨⟨?_, rfl, rfl, rfl, ?_, ?_, World.next_le_setShared _ _ _, .of_journal_eq rfl⟩, ?_, ?_⟩
    · rintro _ ⟨⟩
    · intro other outside
      simp only [write, stores]
      exact Stores.held_refilled_other _ _ _ _ (by simpa [handles] using outside)
    · simp only [write, stores, Stores.incoming_refilled]
    · intro _ taken answer
      simp only [write, Buffer.write] at answer
      split at answer
      · cases answer
        exact Nat.zero_le _
      · split at answer
        · cases answer
        · simp only [Except.ok.injEq] at answer
          omega
    · intro _ fault failed
      simp only [write, Buffer.write] at failed
      split at failed
      · cases failed
      · split at failed
        · cases failed
          intro absurd
          cases absurd
        · cases failed
  | depth + 1, .counted counters total inner, bytes, world => by
    have beneath := write_takes depth inner bytes world
    simp only [write]
    split
    · rename_i taken answer
      refine ⟨beneath.becomes.counted counters total _ taken, ?_, by simp⟩
      rintro modest other same
      cases same
      exact beneath.fits modest taken answer
    · rename_i fault failed
      have passed := beneath.becomes.counted counters total total 0
      rw [World.count, Journal.count_zero] at passed
      refine ⟨passed, by simp, ?_⟩
      rintro orderly other same
      cases same
      exact beneath.candid orderly fault failed
  | depth + 1, .plain inner, bytes, world => by
    have beneath := write_takes depth inner bytes world
    exact ⟨beneath.becomes.plain, beneath.fits, beneath.candid⟩
  | depth + 1, .staged buffer inner, bytes, world =>
    staged_takes inner buffer bytes world (write_takes depth)

/-- Driving a handshake without input. -/
theorem greet_becomes (sink : Sink σ depth) (world : World) :
    Becomes sink world (sink.greet world).after (sink.greet world).world := by
  cases sink with
  | peer writer =>
    refine ⟨?_, rfl, rfl, rfl, fun _ _ => rfl, rfl, Nat.le_refl _, .record trivial world⟩
    rintro _ ⟨⟩
    exact ⟨writer, rfl, .greet (.still writer)⟩
  | descriptor | shared | counted | plain | staged => exact .refl _ world

theorem feed_becomes (sink : Sink σ depth) (bytes : Bytes) (world : World) :
    Becomes sink world (sink.feed bytes world).after (sink.feed bytes world).world := by
  cases sink with
  | peer writer =>
    refine ⟨?_, rfl, rfl, rfl, fun _ _ => rfl, rfl, Nat.le_refl _, .record trivial world⟩
    rintro _ ⟨⟩
    exact ⟨writer, rfl, .feed bytes (.still writer)⟩
  | descriptor | shared | counted | plain | staged => exact .refl _ world

omit [WritePeer σ] in
/-- Letting go of a sink leaves the journal alone. -/
theorem journal_drop (sink : Sink σ depth) (world : World) :
    (sink.drop world).journal = world.journal := by
  induction sink with
  | peer | descriptor => rfl
  | shared handle => exact World.journal_release world handle
  | counted _ _ _ ih => exact ih
  | plain _ ih => exact ih
  | staged buffer _ ih => exact (World.journal_dropBuffer _ buffer).trans ih

end Sink

end Conduit
