import Conduit.Proofs.Rehearsal.Conduct
import Conduit.Proofs.Source.Flowing
import Conduit.Proofs.Transfer.Pouring
import Conduit.Sink.Pull
import Mathlib.Data.List.Permutation

set_option autoImplicit false

namespace Conduit

namespace Buffer

variable {τ : Type} {send : Writing τ} {handle : SharedId} {sink : τ}

/-- Writes to a sink are writes to the buffer behind a handle. -/
def Enters (send : Writing τ) (handle : SharedId) (sink : τ) : Prop :=
  ∀ bytes world, send sink bytes world =
    ⟨((world.shared handle).write bytes).1, sink,
      world.setShared handle ((world.shared handle).write bytes).2⟩

theorem write_fitting {buffer : Buffer} {bytes : Bytes} (some : bytes ≠ [])
    (fits : bytes.length ≤ buffer.freeLen) :
    buffer.write bytes = (.ok bytes.length, buffer.append bytes) := by
  have length := List.length_pos_of_ne_nil some
  have roomy : ¬ buffer.isFull = true := by
    rw [isFull, beq_iff_eq]
    omega
  rw [write, if_neg (by rwa [List.isEmpty_iff]), if_neg roomy, Nat.min_eq_left fits]

theorem write_full {buffer : Buffer} {bytes : Bytes} (some : bytes ≠ [])
    (full : buffer.isFull = true) :
    buffer.write bytes = (.error BufferFault.shortBuffer.toIo, buffer) := by
  rw [write, if_neg (by rwa [List.isEmpty_iff]), if_pos full]

theorem reset_consume (buffer : Buffer) (count : Nat) :
    (buffer.consume count).reset = buffer.reset := by
  simp only [consume, reset, storage, List.reverse_append, List.reverse_reverse,
    List.append_assoc, ← List.append_assoc (buffer.unread.take count), List.take_append_drop]

/-- What fits goes into the buffer behind the handle in one write. -/
theorem drain_fitting (enters : Enters send handle sink) (buffer : Buffer) (world : World)
    (some : buffer.unread ≠ [])
    (fits : buffer.unread.length ≤ (world.shared handle).freeLen) :
    buffer.drain send [] sink world =
      ⟨.ok buffer.unread.length, buffer.unread.length, buffer.consume buffer.unread.length, sink,
        world.setShared handle ((world.shared handle).append buffer.unread)⟩ := by
  obtain ⟨less, length⟩ := Nat.exists_eq_succ_of_ne_zero
    (Nat.ne_of_gt (List.length_pos_of_ne_nil some))
  have gone : (buffer.consume (less + 1)).isEmpty = true := by
    rw [isEmpty, consume, List.isEmpty_iff, List.drop_eq_nil_iff, length]
  rw [drain, if_neg (by rwa [isEmpty, List.isEmpty_iff])]
  unfold drainLoop
  rw [enters, write_fitting some fits]
  simp only [length, Nat.succ_eq_add_one, gone, if_true, Nat.min_self, Nat.zero_add,
    World.count_nil]

theorem drainLoop_full (enters : Enters send handle sink) (buffer : Buffer) (world : World)
    (patience total reported : Nat) (some : buffer.unread ≠ [])
    (full : (world.shared handle).isFull = true) :
    (buffer.drainLoop send [] sink world patience total reported).result =
      .error BufferFault.shortBuffer := by
  unfold drainLoop
  rw [enters, write_full some full]
  rfl

/-- What does not fit goes in as far as it does, and the rest is refused. -/
theorem drain_overfull (enters : Enters send handle sink) (buffer : Buffer) (world : World)
    (more : (world.shared handle).freeLen < buffer.unread.length) :
    (buffer.drain send [] sink world).result = .error BufferFault.shortBuffer := by
  have some : buffer.unread ≠ [] := by
    rintro none
    simp [none] at more
  rw [drain, if_neg (by rwa [isEmpty, List.isEmpty_iff])]
  by_cases full : (world.shared handle).isFull = true
  · exact drainLoop_full enters buffer world _ _ _ some full
  · obtain ⟨less, free⟩ := Nat.exists_eq_succ_of_ne_zero (mt beq_iff_eq.mpr full)
    have left : (buffer.consume (less + 1)).unread ≠ [] := by
      rw [consume, ne_eq, List.drop_eq_nil_iff]
      omega
    have now : ((world.setShared handle ((world.shared handle).append buffer.unread)).shared
        handle).isFull = true := by
      rw [World.shared_setShared, if_pos rfl, isFull, beq_iff_eq, freeLen_append]
      omega
    unfold drainLoop
    rw [enters, write, if_neg (by rwa [List.isEmpty_iff]), if_neg full,
      Nat.min_eq_right (Nat.le_of_lt more)]
    simp only [free, Nat.succ_eq_add_one, isEmpty, List.isEmpty_iff, left, if_false,
      World.count_nil]
    exact drainLoop_full enters _ _ _ _ _ left now

end Buffer

namespace Staged

open Buffer (Enters)

variable {ρ τ : Type} [ReadPeer ρ] {send : Writing τ} {handle : SharedId}
  {source : Source ρ} {world : World} {stream : Bytes} {stalls : Nat} {ends : Prop}

/-- What waits in a write buffer goes into the buffer behind the handle if it fits there. -/
theorem settle_fitting (staged : Staged τ) (enters : Enters send handle staged.inner)
    (some : staged.buffer.unread ≠ [])
    (fits : staged.buffer.unread.length ≤ (world.shared handle).freeLen) :
    staged.settle send world = ⟨.ok (), ⟨staged.inner, staged.buffer.reset⟩,
      world.setShared handle ((world.shared handle).append staged.buffer.unread)⟩ := by
  rw [settle, if_neg (by rwa [Buffer.isEmpty, List.isEmpty_iff]),
    Buffer.drain_fitting enters staged.buffer world some fits]
  simp only [Buffer.reset_consume]

/-- Otherwise the write buffer fails to go out. -/
theorem settle_overfull (staged : Staged τ) (enters : Enters send handle staged.inner)
    (more : (world.shared handle).freeLen < staged.buffer.unread.length) :
    ∃ fault, (staged.settle send world).answer = .error fault := by
  have some : ¬ staged.buffer.isEmpty = true := by
    rw [Buffer.isEmpty, List.isEmpty_iff]
    rintro none
    simp [none] at more
  rw [settle, if_neg some]
  simp only [Buffer.drain_overfull enters staged.buffer world more]
  exact ⟨_, rfl⟩

/-- A fill by one read brings the next bytes of a stream, and none only at its end; a fault ends it
otherwise. -/
theorem fillOnce_flows {buffer : Buffer} {retries : Nat} {filled : Filled ρ}
    (room : 0 < buffer.freeLen) (flows : source.Flows handle world stream stalls ends)
    (ended : buffer.fillOnce retries [] source world = some filled) :
    (∃ fault, filled.result = .error fault) ∨ ∃ bytes rest,
      filled.result = .ok bytes.length ∧ filled.buffer = buffer.append bytes ∧
      bytes.length ≤ buffer.freeLen ∧ stream = bytes ++ rest ∧ (bytes = [] → stream = [] ∧ ends) ∧
      filled.world.shared handle = world.shared handle ∧
      (bytes ≠ [] → filled.source.Flows handle filled.world rest stallLimit ends) := by
  have roomy : ¬ buffer.isFull = true := by
    rw [Buffer.isFull, beq_iff_eq]
    omega
  have sitsOut : Buffer.SitsOut buffer.freeLen fun _ (last : Source ρ) later =>
      (∃ stalls, last.Flows handle later stream stalls ends) ∧
        later.shared handle = world.shared handle := by
    rintro _ last later fault ⟨⟨stalls, flows⟩, same⟩ failed interrupted
    obtain ⟨fewer, _, on⟩ :=
      flows.stalled room failed (IoFault.isTransient_of_isInterrupted interrupted)
    exact ⟨⟨fewer, on⟩, (flows.apart _).trans same⟩
  rw [Buffer.fillOnce, if_neg roomy] at ended
  obtain ⟨_, last, later, ⟨⟨stalls, flows⟩, same⟩, _, rfl⟩ :=
    Buffer.fillOnceLoop_ends [] buffer source world retries sitsOut ⟨⟨stalls, flows⟩, rfl⟩ _ ended
  have fits := (last.reads_read buffer.freeLen later).length_le
  unfold Buffer.filledFrom
  cases answer : (last.read buffer.freeLen later).answer with
  | error fault =>
    simp only [answer]
    exact .inl ⟨_, rfl⟩
  | ok bytes =>
    obtain ⟨none, rest, split, on⟩ := flows.ok room answer
    rw [answer] at fits
    simp only [answer, World.count_nil]
    exact .inr ⟨bytes, rest, rfl, rfl, fits, split, none, (flows.apart _).trans same, on⟩

/-- Where moving a stream round after round ends well, the stream has an end, and all of it fitted
in and went in. -/
theorem moveLoop_flows (staged : Staged τ) {retries rounds total count : Nat} {last : Source ρ}
    {final : Staged τ} {later : World} (enters : Enters send handle staged.inner)
    (clear : staged.buffer.unread = []) (room : 0 < staged.buffer.freeLen)
    (flows : source.Flows handle world stream stalls ends)
    (moved : moveLoop send retries staged source world rounds total =
      .finished (.ok count) last final later) :
    ends ∧ count = total + stream.length ∧ stream.length ≤ (world.shared handle).freeLen ∧
      later.shared handle = (world.shared handle).append stream := by
  induction rounds generalizing staged source world stream stalls total with
  | zero => cases moved
  | succ rounds ih =>
    rw [moveLoop] at moved
    cases fill : staged.buffer.fillOnce retries [] source world with
    | none => simp only [fill, reduceCtorEq] at moved
    | some filled =>
      simp only [fill] at moved
      rcases fillOnce_flows room flows fill with ⟨fault, failed⟩ |
        ⟨bytes, rest, ok, grown, fits, split, dry, same, on⟩
      · simp only [failed, Pull.finished.injEq, reduceCtorEq, false_and] at moved
      · have unread : filled.buffer.unread = bytes := by
          rw [grown, Buffer.append, clear, List.nil_append, List.take_of_length_le fits]
        simp only [ok] at moved
        cases bytes with
        | nil =>
          obtain ⟨rfl, ends⟩ := dry rfl
          simp only [List.length_nil, Pull.finished.injEq, Except.ok.injEq] at moved
          obtain ⟨rfl, _, _, rfl⟩ := moved
          refine ⟨ends, rfl, Nat.zero_le _, ?_⟩
          rw [same, Buffer.append_nil]
        | cons first more =>
          have some : filled.buffer.unread ≠ [] := by
            rw [unread]
            exact List.cons_ne_nil first more
          simp only [List.length_cons] at moved
          by_cases within : (first :: more).length ≤ (world.shared handle).freeLen
          · rw [settle_fitting ⟨staged.inner, filled.buffer⟩ enters some
              (by rw [same, unread]; exact within)] at moved
            have size : filled.buffer.reset.freeLen = staged.buffer.size := by
              rw [grown]
              rfl
            have roomy : staged.buffer.freeLen ≤ staged.buffer.size := Nat.sub_le _ _
            rw [unread, same] at moved
            obtain ⟨ends, sum, left, all⟩ := ih ⟨staged.inner, filled.buffer.reset⟩ enters rfl
              (by rw [size]; omega) ((on (List.cons_ne_nil first more)).filled _) moved
            rw [World.shared_setShared, if_pos rfl] at left all
            rw [Buffer.freeLen_append] at left
            rw [Buffer.append_append, ← split] at all
            have whole := congrArg List.length split
            rw [List.length_append] at whole
            rw [List.length_cons] at whole left within
            exact ⟨ends, by omega, by omega, all⟩
          · -- What does not fit is refused, so that the move did not succeed.
            have more : (filled.world.shared handle).freeLen < filled.buffer.unread.length := by
              rw [same, unread]
              omega
            obtain ⟨fault, failed⟩ := settle_overfull ⟨staged.inner, filled.buffer⟩ enters more
            simp only [failed, Pull.finished.injEq, reduceCtorEq, false_and] at moved

end Staged

namespace Buffer

variable {ρ : Type} [ReadPeer ρ] {handle : SharedId}

/-- A fill with room takes all of a stream that fits and ends; if it takes up all the room, it runs
short before it sees the end. -/
theorem fillLoop_flows {ends : Prop} (ended : ends) (buffer : Buffer) (source : Source ρ)
    (world : World) (patience total : Nat) {stream : Bytes} {stalls : Nat}
    (room : 0 < buffer.freeLen) (fits : stream.length ≤ buffer.freeLen)
    (patient : stalls ≤ patience) (flows : source.Flows handle world stream stalls ends) :
    (buffer.fillLoop source world patience total).buffer = buffer.append stream ∧
      (buffer.fillLoop source world patience total).result =
        if (buffer.append stream).isFull then .error .shortBuffer
        else .ok (total + stream.length) := by
  fun_induction fillLoop buffer source world patience total generalizing stream stalls with
  | case1 buffer source world patience total reading =>
    rename_i none
    obtain ⟨rfl, _⟩ := (flows.ok room none).1 rfl
    have roomy : buffer.isFull = false := by
      rw [isFull, beq_eq_false_iff_ne]
      omega
    rw [append_nil, roomy]
    exact ⟨rfl, rfl⟩
  | case2 buffer source world patience total reading first rest some =>
    rename_i grown full
    obtain ⟨_, left, rfl, _⟩ := flows.ok room some
    have whole : left = [] := by
      simp only [grown, isFull, beq_iff_eq, freeLen_append] at full
      rw [List.length_append] at fits
      exact List.length_eq_zero_iff.mp (by omega)
    rw [whole, List.append_nil]
    exact ⟨rfl, (if_pos full).symm⟩
  | case3 buffer source world patience total reading first rest some grown =>
    rename_i roomy ih
    obtain ⟨_, left, rfl, on⟩ := flows.ok room some
    have free : grown.freeLen = _ := buffer.freeLen_append (first :: rest)
    rw [isFull, beq_iff_eq] at roomy
    rw [List.length_append] at fits
    obtain ⟨all, result⟩ := ih (by omega) (by omega) (Nat.le_refl _)
      (on (List.cons_ne_nil first rest))
    rw [append_append] at all result
    refine ⟨all, ?_⟩
    rw [result, List.length_append, List.length_cons, Nat.add_assoc]
  | case4 buffer source world total reading fault failed =>
    rename_i transient
    obtain ⟨fewer, less, _⟩ := flows.stalled room failed transient
    omega
  | case5 buffer source world total reading fault failed transient patience =>
    rename_i ih
    obtain ⟨fewer, less, on⟩ := flows.stalled room failed transient
    exact ih room fits (by omega) on
  | case6 buffer source world patience total reading fault failed =>
    rename_i hard
    exact absurd ended (flows.not_ends room failed (by simpa using hard))

/-- A fill takes all of a stream that fits and ends, and runs short if that takes up all the room.
-/
theorem fill_flows {ends : Prop} (buffer : Buffer) (source : Source ρ) (world : World)
    {stream : Bytes} {stalls : Nat} (ended : ends) (fits : stream.length ≤ buffer.freeLen)
    (patient : stalls ≤ stallLimit) (flows : source.Flows handle world stream stalls ends) :
    let filled := buffer.fill source world
    filled.buffer = buffer.append stream ∧
      filled.result = if (buffer.append stream).isFull then .error .shortBuffer
        else .ok stream.length := by
  by_cases full : buffer.isFull = true
  · have none : stream = [] := by
      rw [isFull, beq_iff_eq] at full
      exact List.length_eq_zero_iff.mp (by omega)
    rw [fill, if_pos full, none, append_nil, if_pos full]
    exact ⟨rfl, rfl⟩
  · have room : 0 < buffer.freeLen := by
      rw [isFull, beq_iff_eq] at full
      omega
    have ends := fillLoop_flows ended buffer source world stallLimit 0 room fits patient flows
    rw [Nat.zero_add] at ends
    rw [fill, if_neg full]
    exact ends

end Buffer

def Pull.result? {ρ τ : Type} : Pull ρ τ → Option (Except IoFault Nat)
  | .finished result _ _ _ => some result
  | _ => none

theorem Pull.finished_of_result? {ρ τ : Type} {pull : Pull ρ τ} {result : Except IoFault Nat}
    (came : pull.result? = some result) :
    ∃ source sink world, pull = .finished result source sink world := by
  cases pull with
  | finished other source sink world =>
    cases came
    exact ⟨source, sink, world, rfl⟩
  | unsupported | unfinished => cases came

namespace Staged

open Buffer (Enters)

variable {ρ σ : Type} [ReadPeer ρ] [WritePeer σ] {handle : SharedId} {source : Source ρ}
  {world : World} {stream : Bytes} {stalls : Nat} {ends : Prop}

/-- A write buffer with contents that fit, sent out into the buffer behind a handle in whatever way,
is left with room, and the source has the same stream to give. -/
theorem settle_ready {buffer : Buffer} (room : 0 < buffer.freeLen)
    (fits : buffer.unread.length ≤ (world.shared handle).freeLen)
    (flows : source.Flows handle world stream stalls ends) :
    ∃ ready between, ready.unread = [] ∧ 0 < ready.freeLen ∧
      between.shared handle = (world.shared handle).append buffer.unread ∧
      source.Flows handle between stream stalls ends ∧
      ∀ {τ : Type} (send : Writing τ) (inner : τ), Enters send handle inner →
        settle send ⟨inner, buffer⟩ world = ⟨.ok (), ⟨inner, ready⟩, between⟩ := by
  by_cases none : buffer.unread = []
  · refine ⟨buffer, world, none, room, ?_, flows, fun send inner _ => ?_⟩
    · rw [none, Buffer.append_nil]
    · exact if_pos (List.isEmpty_iff.mpr none)
  · have size : buffer.freeLen ≤ buffer.size := Nat.sub_le _ _
    refine ⟨buffer.reset, world.setShared handle ((world.shared handle).append buffer.unread), rfl,
      Nat.lt_of_lt_of_le room size, ?_, flows.filled _, fun send inner enters => ?_⟩
    · rw [World.shared_setShared, if_pos rfl]
    · exact settle_fitting ⟨inner, buffer⟩ enters none fits

/-- A write buffer with room moves a finite stream into a buffer behind a handle, through itself or
by the destination's own means. Where the first way succeeds, the destination holds the contents of
the write buffer and then the stream. The second way leaves the very same destination, whatever it
and the write buffer were like; it succeeds with the same count if the destination has room left,
and runs short if not. -/
theorem readFrom_bulk {buffer : Buffer} (room : 0 < buffer.freeLen)
    (fits : buffer.unread.length ≤ (world.shared handle).freeLen) (within : stalls ≤ stallLimit)
    (flows : source.Flows handle world stream stalls ends) {retries rounds count : Nat}
    {last : Source ρ} {final : Staged (Sink σ 1)} {later : World}
    (moved : readFrom (Sink.write 1) retries rounds (Sink.pull retries rounds 1)
      ⟨.plain (.shared handle), buffer⟩ source world = .finished (.ok count) last final later) :
    count = stream.length ∧
      later.shared handle = (world.shared handle).append (buffer.unread ++ stream) ∧
      ∀ retries rounds, ∃ (rest : Source ρ) (direct : Staged (Sink σ 0)) (after : World),
        readFrom (Sink.write 0) retries rounds (Sink.pull retries rounds 0)
          ⟨.shared handle, buffer⟩ source world =
          .finished (if (later.shared handle).isFull then .error BufferFault.shortBuffer.toIo
            else .ok count) rest direct after ∧
        after.shared handle = later.shared handle := by
  obtain ⟨ready, between, clear, roomy, sent, flows, settled⟩ := settle_ready room fits flows
  have plain : Enters (Sink.write 1) handle (.plain (.shared handle) : Sink σ 1) := fun _ _ => rfl
  have direct : Enters (Sink.write 0) handle (.shared handle : Sink σ 0) := fun _ _ => rfl
  have sized : ready.size ≠ 0 := fun none => by
    rw [Buffer.freeLen, none, Nat.zero_sub] at roomy
    cases roomy
  rw [readFrom, settled _ _ plain] at moved
  simp only [Sink.pull, sized, if_false] at moved
  obtain ⟨ended, sum, left, all⟩ := moveLoop_flows ⟨_, ready⟩ plain clear roomy flows moved
  rw [Nat.zero_add] at sum
  rw [sent, Buffer.append_append] at all
  refine ⟨sum, all, fun retries rounds => ?_⟩
  obtain ⟨grown, result⟩ :=
    Buffer.fill_flows (between.shared handle) source between ended left within flows
  rw [sent, Buffer.append_append, ← all] at grown result
  have answer : Except.mapError (·.toIo) (if (later.shared handle).isFull then
      .error BufferFault.shortBuffer else .ok stream.length) =
      if (later.shared handle).isFull then .error BufferFault.shortBuffer.toIo else .ok count := by
    rw [sum]
    split <;> rfl
  rw [readFrom, settled _ _ direct]
  simp only [Sink.pull, sent, grown, result, answer]
  refine ⟨_, _, _, rfl, ?_⟩
  rw [World.shared_setShared, if_pos rfl]

def roomForThree : World := (World.initial.share (.zeroed 3)).2

/-- Moves a source into that destination through a write buffer. -/
def looped (buffer : Buffer) (source : Source RehearsedReader) :
    Pull RehearsedReader (Staged (Sink RehearsedWriter 1)) :=
  readFrom (Sink.write 1) 101 3 (Sink.pull 101 3 1) ⟨.plain (.shared 0), buffer⟩ source roomForThree

/-- Moves a source into that destination by the destination's own means. -/
def pulled (buffer : Buffer) (source : Source RehearsedReader) :
    Pull RehearsedReader (Staged (Sink RehearsedWriter 0)) :=
  readFrom (Sink.write 0) 101 3 (Sink.pull 101 3 0) ⟨.shared 0, buffer⟩ source roomForThree

/-- A byte that waits in the write buffer and one from a reader leave room for a third. -/
theorem readFrom_bulk_sample :
    let buffer : Buffer := ⟨[], [3], [0], 2, none⟩
    let source : Source RehearsedReader := .peer (.ofBytes 0 [4])
    0 < buffer.freeLen ∧ buffer.unread.length ≤ (roomForThree.shared 0).freeLen ∧
      0 ≤ stallLimit ∧ source.Flows 0 roomForThree [4] 0 True ∧
      ∃ last final later, looped buffer source = .finished (.ok 1) last final later ∧
        later.shared 0 = (roomForThree.shared 0).append [3, 4] ∧
        ∃ rest direct after, pulled buffer source = .finished (.ok 1) rest direct after ∧
          after.shared 0 = later.shared 0 := by
  intro buffer source
  have room : 0 < buffer.freeLen := by decide
  have fits : buffer.unread.length ≤ (roomForThree.shared 0).freeLen := by decide
  have steady : (RehearsedReader.ofBytes 0 [4]).Steady := by
    constructor
    · simp [RehearsedReader.ofBytes, RehearsedReader.SteadyCue]
    · rfl
  have gives : source.Gives [4] 0 := steady.streams
  have flows : source.Flows 0 roomForThree [4] 0 True :=
    .of_gives gives (Nat.zero_le _) List.not_mem_nil roomForThree
  obtain ⟨last, final, later, moved⟩ : ∃ last final later,
      looped buffer source = .finished (.ok 1) last final later :=
    Pull.finished_of_result? (by cbv)
  obtain ⟨_, all, direct⟩ := readFrom_bulk room fits (Nat.zero_le _) flows moved
  obtain ⟨rest, direct, after, ended, same⟩ := direct 101 3
  rw [all] at ended
  exact ⟨room, fits, Nat.zero_le _, flows, last, final, later, moved, all, rest, direct, after,
    ended, same⟩

/-- A stream that just fits, and one that stalls too often in a row, go through a write buffer with
room, but not by the destination's own means. -/
theorem readFrom_bulk_falls_short :
    let buffer : Buffer := .zeroed 4
    let fitting : Source RehearsedReader := .peer (.ofBytes 0 [3, 4, 5])
    let halting : Source RehearsedReader :=
      .peer ⟨0, List.replicate 101 (.fail (.plain .interrupted)) ++ [.deliver [3]], .ended⟩
    0 < buffer.freeLen ∧ buffer.unread.length ≤ (roomForThree.shared 0).freeLen ∧
      (looped buffer fitting).result? = some (.ok 3) ∧
      (pulled buffer fitting).result? = some (.error BufferFault.shortBuffer.toIo) ∧
      (looped buffer halting).result? = some (.ok 1) ∧
      (pulled buffer halting).result? = some (.error BufferFault.noProgress.toIo) := by
  refine ⟨by decide, by decide, ?_, ?_, ?_, ?_⟩
  · cbv
  · cbv
  · cbv
  · cbv

end Staged

end Conduit
