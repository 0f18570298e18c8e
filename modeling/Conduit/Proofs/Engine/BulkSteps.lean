import Conduit.Engine.Copy
import Conduit.Proofs.Sink.Giving
import Conduit.Proofs.Source.Stacks
import Conduit.Proofs.Transfer.Draining
import Conduit.Proofs.Transfer.Filling
import Mathlib.Logic.Relation

set_option autoImplicit false

namespace Conduit

/-- The bulk of a copy through a buffer, between two calls. -/
structure BulkState (ρ σ : Type) (depth : Nat) where
  source : Source ρ
  /-- What the source answered so far. -/
  answers : List (Except IoFault Bytes)
  /-- Bytes that were read and are not written yet. -/
  left : Bytes
  course : Course σ depth

namespace BulkState

variable {ρ σ : Type} [ReadPeer ρ] [WritePeer σ] {depth : Nat}

/-- The state after the source was asked for so many bytes. -/
def read (state : BulkState ρ σ depth) (counters : CounterSet) (wanted : Nat) :
    BulkState ρ σ depth :=
  let reading := state.source.read wanted state.course.world
  let bytes := ReadPeer.brought reading.answer
  ⟨reading.after, state.answers ++ [reading.answer], bytes,
    state.course.inWorld (reading.world.count counters.read bytes.length)⟩

/-- The state after the destination was offered all that is left. -/
def write (state : BulkState ρ σ depth) (counters : CounterSet) : BulkState ρ σ depth :=
  let wrote := Watched.write state.course.sink state.left state.course.world
  let taken := WritePeer.took wrote.answer
  ⟨state.source, state.answers, state.left.drop taken,
    ⟨wrote.after, state.course.copied + taken, wrote.world.count counters.write taken⟩⟩

end BulkState

namespace Engine

variable {ρ σ : Type} {depth : Nat}

/-- Why the bulk stops, and with what result. -/
inductive BulkEnd (state : BulkState ρ σ depth) : Except TransferFault Unit → Prop where
  /-- The source has no more bytes. -/
  | finished (clear : state.left = []) (last : state.answers.getLast? = some (.ok [])) :
    BulkEnd state (.ok ())
  /-- The buffer has no room for any byte. -/
  | roomless (clear : state.left = []) : BulkEnd state (.error (.buffer .shortBuffer))
  | unread {fault : IoFault} (clear : state.left = [])
    (last : state.answers.getLast? = some (.error fault)) (hard : fault.isInterrupted = false) :
    BulkEnd state (.error fault.toBuffer.toTransfer)
  /-- The destination stalled too often. -/
  | stuck (some : state.left ≠ []) : BulkEnd state (.error (.buffer .noProgress))
  | unwritten {fault : IoFault} {pending : Option Handshake} (some : state.left ≠ [])
    (last : state.course.sink.calls.getLast? = .some (.write pending state.left (.error fault)))
    (hard : fault.isTransient = false) : BulkEnd state (.error fault.toBuffer.toTransfer)

variable [ReadPeer ρ] [WritePeer σ]

inductive BulkStep (counters : CounterSet) : BulkState ρ σ depth → BulkState ρ σ depth → Prop where
  | read {state : BulkState ρ σ depth} {wanted : Nat} (clear : state.left = [])
    (some : 0 < wanted) : BulkStep counters state (state.read counters wanted)
  | write {state : BulkState ρ σ depth} (some : state.left ≠ []) :
    BulkStep counters state (state.write counters)

def BulkPath (counters : CounterSet) : BulkState ρ σ depth → BulkState ρ σ depth → Prop :=
  Relation.ReflTransGen (BulkStep counters)

variable {counters : CounterSet}

namespace BulkPath

variable {first : BulkState ρ σ depth} {source : Source ρ} {answers : List (Except IoFault Bytes)}
  {left : Bytes} {course : Course σ depth} {sink : Watched σ depth} {world : World}
  {copied wanted taken : Nat} {fault : IoFault}

theorem unread
    (path : BulkPath counters first ⟨source, answers, [], course.inWorld world⟩)
    (some : 0 < wanted) (failed : (source.read wanted world).answer = .error fault) :
    BulkPath counters first ⟨(source.read wanted world).after, answers ++ [.error fault], [],
      course.inWorld (source.read wanted world).world⟩ := by
  have next : BulkStep counters ⟨source, answers, [], course.inWorld world⟩ _ := .read rfl some
  rw [BulkState.read] at next
  simp only [Course.inWorld, failed, ReadPeer.brought, List.length_nil, World.count,
    Journal.count_zero] at next
  exact path.tail next

theorem wrote (path : BulkPath counters first ⟨source, answers, left, sink, copied, world⟩)
    (some : left ≠ []) (answer : (Watched.write sink left world).answer = .ok taken) :
    BulkPath counters first ⟨source, answers, left.drop taken,
      (Watched.write sink left world).after, copied + taken,
      (Watched.write sink left world).world.count counters.write taken⟩ := by
  have next : BulkStep counters ⟨source, answers, left, sink, copied, world⟩ _ := .write some
  rw [BulkState.write] at next
  simp only [answer, WritePeer.took] at next
  exact path.tail next

theorem unwritten (path : BulkPath counters first ⟨source, answers, left, sink, copied, world⟩)
    (some : left ≠ []) (failed : (Watched.write sink left world).answer = .error fault) :
    BulkPath counters first ⟨source, answers, left, (Watched.write sink left world).after, copied,
      (Watched.write sink left world).world⟩ := by
  have next : BulkStep counters ⟨source, answers, left, sink, copied, world⟩ _ := .write some
  rw [BulkState.write] at next
  simp only [failed, WritePeer.took, List.drop_zero, Nat.add_zero, World.count,
    Journal.count_zero] at next
  exact path.tail next

end BulkPath

/-- A fill of an empty buffer is a path of reads, unless the buffer has no room. -/
theorem fillOnce_path {retries : Nat} {buffer : Buffer} {source : Source ρ}
    {course : Course σ depth} {filled : Filled ρ} (clear : buffer.unread = [])
    (ended : buffer.fillOnce retries counters.read source course.world = some filled)
    (answers : List (Except IoFault Bytes)) :
    ∃ more, let last : BulkState ρ σ depth := ⟨filled.source, answers ++ more,
        filled.buffer.unread, course.inWorld filled.world⟩
      BulkPath counters ⟨source, answers, [], course⟩ last ∧
        match filled.result with
        | .ok count => last.answers.getLast? = some (.ok last.left) ∧ last.left.length = count
        | .error fault => BulkEnd last (.error fault.toTransfer) := by
  unfold Buffer.fillOnce at ended
  split at ended
  · cases ended
    refine ⟨[], ?_, .roomless clear⟩
    rw [List.append_nil, clear]
    exact .refl
  · rename_i roomy
    have room : 0 < buffer.freeLen := by
      simpa [Buffer.isFull, Nat.pos_iff_ne_zero] using roomy
    have sitsOut : Buffer.SitsOut buffer.freeLen fun _ (last : Source ρ) later => ∃ more,
        BulkPath counters ⟨source, answers, [], course⟩
          ⟨last, answers ++ more, [], course.inWorld later⟩ := by
      rintro _ last later fault ⟨more, path⟩ failed _
      refine ⟨more ++ [.error fault], ?_⟩
      rw [← List.append_assoc]
      exact path.unread room failed
    obtain ⟨_, last, later, ⟨more, path⟩, settled, rfl⟩ :=
      Buffer.fillOnceLoop_ends counters.read buffer source course.world retries sitsOut
        ⟨[], by rw [List.append_nil]; exact .refl⟩ filled ended
    refine ⟨more ++ [(last.read buffer.freeLen later).answer], ?_⟩
    rw [Buffer.filledFrom, ← List.append_assoc]
    cases answer : (last.read buffer.freeLen later).answer with
    | ok bytes =>
      have fits := (last.reads_read buffer.freeLen later).length_le
      rw [answer, ReadPeer.brought] at fits
      have unread : (buffer.append bytes).unread = bytes := by
        rw [Buffer.append, clear, List.nil_append, List.take_of_length_le fits]
      have next : BulkStep counters ⟨last, answers ++ more, [], course.inWorld later⟩ _ :=
        .read rfl room
      rw [BulkState.read] at next
      simp only [Course.inWorld, answer, ReadPeer.brought] at next
      simp only [unread]
      exact ⟨path.tail next, List.getLast?_concat, trivial⟩
    | error fault =>
      simp only [clear]
      exact ⟨path.unread room answer, .unread rfl List.getLast?_concat (settled fault answer)⟩

theorem drain_path {buffer : Buffer} (source : Source ρ) (answers : List (Except IoFault Bytes))
    (course : Course σ depth) (some : buffer.unread ≠ []) :
    let drained := buffer.drain Watched.write counters.write course.sink course.world
    let last : BulkState ρ σ depth := ⟨source, answers, drained.buffer.unread, drained.sink,
      course.copied + drained.reported, drained.world⟩
    BulkPath counters ⟨source, answers, buffer.unread, course⟩ last ∧
      match drained.result with
      | .ok _ => last.left = []
      | .error fault => BulkEnd last (.error fault.toTransfer) := by
  have rule : Buffer.DrainRule Watched.write counters.write fun _ left reported sink world =>
      BulkPath counters ⟨source, answers, buffer.unread, course⟩
        ⟨source, answers, left, sink, course.copied + reported, world⟩ := by
    apply Buffer.DrainRule.steady
    · intro left reported sink world taken path some answer
      have wrote := path.wrote some answer
      rw [Nat.add_assoc] at wrote
      exact wrote
    · exact fun path some failed => path.unwritten some failed
  have ends := rule.drain buffer course.sink course.world some .refl
  obtain ⟨_, count, said, sink, world, _, final, ended⟩ :=
    rule.drain_last buffer course.sink course.world some .refl
  refine ⟨ends.holds.elim fun _ path => path, ?_⟩
  rw [ended, Buffer.drainedBy]
  have some := final.some
  cases answer : (Watched.write sink (buffer.consume count).unread world).answer with
  | ok taken =>
    cases taken with
    | zero => exact .stuck some
    | succ less => exact final.whole less answer
  | error fault =>
    cases hard : fault.isTransient with
    | true =>
      simp only [hard, if_true]
      exact .stuck some
    | false =>
      simp only [hard, Bool.false_eq_true, if_false]
      have last : (Watched.write sink (buffer.consume count).unread world).after.calls.getLast? =
          .some (.write sink.handshake? (buffer.consume count).unread (.error fault)) := by
        rw [← answer]
        exact (congrArg List.getLast? (Watched.calls_answered _ _ _)).trans List.getLast?_concat
      exact .unwritten some last hard

/-- Every run of the pump is a path of steps of the bulk. -/
theorem pump_path {retries rounds : Nat} {buffer : Buffer} {source : Source ρ}
    {course : Course σ depth} {pumped : Pumped ρ σ depth}
    (ended : pump retries counters rounds buffer source course = some pumped)
    (answers : List (Except IoFault Bytes)) :
    ∃ more left, let last : BulkState ρ σ depth :=
        ⟨pumped.source, answers ++ more, left, pumped.course⟩
      BulkPath counters ⟨source, answers, [], course⟩ last ∧ BulkEnd last pumped.result := by
  induction rounds generalizing buffer source course answers with
  | zero => cases ended
  | succ rounds ih =>
    rw [pump] at ended
    split at ended
    · cases ended
    · rename_i filled fill
      obtain ⟨more, path, stops⟩ := fillOnce_path rfl fill answers
      dsimp only at ended stops
      split at ended
      · rename_i fault failed
        cases ended
        rw [failed] at stops
        exact ⟨more, _, path, stops⟩
      · rename_i done
        cases ended
        rw [done] at stops
        have clear := List.eq_nil_of_length_eq_zero stops.2
        have last := stops.1
        rw [clear] at last
        exact ⟨more, _, path, .finished clear last⟩
      · rename_i less came
        rw [came] at stops
        have some : filled.buffer.unread ≠ [] := List.ne_nil_of_length_eq_add_one stops.2
        obtain ⟨writes, halts⟩ := drain_path filled.source
          (answers ++ more) (course.inWorld filled.world) some
        split at ended
        · rename_i fault failed
          cases ended
          rw [failed] at halts
          exact ⟨more, _, path.trans writes, halts⟩
        · rename_i total success
          rw [success] at halts
          obtain ⟨others, left, on, stops⟩ := ih ended (answers ++ more)
          rw [List.append_assoc] at on stops
          dsimp only at halts
          rw [halts] at writes
          exact ⟨more ++ others, left, (path.trans writes).trans on, stops⟩

end Engine

end Conduit
