import Conduit.Proofs.Sink.Greeting
import Conduit.Proofs.Sink.Timing
import Conduit.Rehearsal

set_option autoImplicit false

namespace Conduit

namespace RehearsedReader

def SteadyCue : ReadCue → Prop
  | .deliver bytes => bytes ≠ []
  | .fail fault => fault.isInterrupted = true

/-- A part that delivers its script, with interruptions, and ends. -/
structure Steady (reader : RehearsedReader) : Prop where
  cues : ∀ cue ∈ reader.cues, SteadyCue cue
  finale : reader.finale = .ended

def failures (reader : RehearsedReader) : Nat :=
  reader.cues.countP fun cue => match cue with
    | .deliver _ => false
    | .fail _ => true

theorem Steady.read {reader : RehearsedReader} (steady : reader.Steady) {wanted : Nat}
    (some : 0 < wanted) : (ReadPeer.after reader wanted).Steady ∧
      match ReadPeer.answer reader wanted with
      | .ok bytes => reader.script = bytes ++ (ReadPeer.after reader wanted).script ∧
          (bytes = [] → reader.script = []) ∧
          (ReadPeer.after reader wanted).failures = reader.failures
      | .error fault => fault.isInterrupted = true ∧
          (ReadPeer.after reader wanted).script = reader.script ∧
          (ReadPeer.after reader wanted).failures + 1 = reader.failures := by
  obtain ⟨id, cues, finale⟩ := reader
  obtain ⟨steps, ends⟩ := steady
  dsimp only at steps ends
  subst ends
  cases cues with
  | nil =>
    refine ⟨⟨steps, rfl⟩, ?_, fun _ => rfl, rfl⟩
    simp [script, ReadPeer.after, ReadPeer.read, RehearsedReader.read]
  | cons cue rest =>
    have first := steps cue List.mem_cons_self
    have later : ∀ cue ∈ rest, SteadyCue cue := fun each inside =>
      steps each (List.mem_cons_of_mem cue inside)
    cases cue with
    | fail fault =>
      refine ⟨⟨later, rfl⟩, first, rfl, ?_⟩
      simp [failures, ReadPeer.after, ReadPeer.read, RehearsedReader.read]
    | deliver piece =>
      simp only [ReadPeer.answer, ReadPeer.after, ReadPeer.read, RehearsedReader.read, Except.map,
        List.take_take, Nat.min_self]
      have brought : piece.take wanted ≠ [] := by
        intro none
        rcases List.take_eq_nil_iff.mp none with zero | empty
        · omega
        · exact first empty
      by_cases finished : piece.drop wanted = []
      · have all : piece.take wanted = piece :=
          List.take_of_length_le (List.drop_eq_nil_iff.mp finished)
        simp only [finished, List.isEmpty_nil, if_true]
        refine ⟨⟨later, rfl⟩, ?_, fun none => absurd none brought, ?_⟩
        · simp [script, all]
        · simp [failures]
      · simp only [List.isEmpty_iff, finished, if_false]
        refine ⟨⟨?_, rfl⟩, ?_, fun none => absurd none brought, ?_⟩
        · intro cue inside
          rcases List.mem_cons.mp inside with same | before
          · rw [same]
            exact finished
          · exact later cue before
        · simp [script, ← List.append_assoc]
        · simp [failures]

theorem Steady.streams {reader : RehearsedReader} (steady : reader.Steady) :
    ReadPeer.Streams reader reader.script reader.failures := by
  refine ⟨fun reader stream patience => reader.Steady ∧ stream = reader.script ∧
    patience = reader.failures, ⟨?_, ?_⟩, steady, rfl, rfl⟩
  · rintro reader _ _ wanted bytes ⟨steady, rfl, rfl⟩ some success
    obtain ⟨on, reads⟩ := steady.read some
    rw [success] at reads
    exact ⟨reads.2.1, _, _, reads.1, Nat.le_of_eq reads.2.2, on, rfl, rfl⟩
  · rintro reader _ _ wanted fault ⟨steady, rfl, rfl⟩ some failed
    obtain ⟨on, reads⟩ := steady.read some
    rw [failed] at reads
    exact ⟨reads.1, _, Nat.lt_of_succ_le (Nat.le_of_eq reads.2.2), on, reads.2.1.symm, rfl⟩

end RehearsedReader

namespace RehearsedWriter

/-- An answer that claims no more than was offered and does not pass for the end of a stream. -/
def ProperCue : WriteCue → Prop
  | .all => True
  | .take _ => True
  | .over _ => False
  | .fail fault => ¬ fault.EndsStream

/-- A part whose answers to writes are proper; its handshake may do anything. -/
structure Proper (writer : RehearsedWriter) : Prop where
  cues : ∀ cue ∈ writer.cues, ProperCue cue
  finale : ProperCue writer.finale

variable {writer : RehearsedWriter}

theorem Proper.write (proper : writer.Proper) (bytes : Bytes) :
    (WritePeer.write writer bytes).2.Proper := by
  obtain ⟨id, cues, finale, flushFault, plan, part⟩ := writer
  cases cues with
  | nil => exact proper
  | cons cue rest =>
    exact ⟨fun each inside => proper.cues each (List.mem_cons_of_mem cue inside), proper.finale⟩

theorem Proper.flush (proper : writer.Proper) : (WritePeer.flush writer).2.Proper := by
  simp only [WritePeer.flush, RehearsedWriter.flush]
  split <;> exact proper

theorem Proper.greet (proper : writer.Proper) : (WritePeer.greet writer).2.Proper := by
  simp only [WritePeer.greet, RehearsedWriter.greet]
  split <;> exact ⟨proper.cues, proper.finale⟩

theorem Proper.feed (proper : writer.Proper) (bytes : Bytes) :
    (WritePeer.feed writer bytes).2.Proper := by
  simp only [WritePeer.feed, RehearsedWriter.feed]
  split <;> exact ⟨proper.cues, proper.finale⟩

theorem Proper.reached (proper : writer.Proper) {later : RehearsedWriter}
    (reached : WritePeer.Reaches writer later) : later.Proper := by
  induction reached with
  | still => exact proper
  | write bytes _ ih => exact ih.write bytes
  | flush _ ih => exact ih.flush
  | greet _ ih => exact ih.greet
  | feed bytes _ ih => exact ih.feed bytes

def next (writer : RehearsedWriter) : WriteCue := writer.cues.headD writer.finale

theorem write_answer (writer : RehearsedWriter) (bytes : Bytes) :
    (WritePeer.write writer bytes).1 = writer.next.answer bytes.length := by
  obtain ⟨id, cues, finale, flushFault, plan, part⟩ := writer
  cases cues <;> rfl

theorem Proper.next (proper : writer.Proper) : ProperCue writer.next := by
  obtain ⟨id, cues, finale, flushFault, plan, part⟩ := writer
  cases cues with
  | nil => exact proper.finale
  | cons cue rest => exact proper.cues cue List.mem_cons_self

theorem Proper.orderly (proper : writer.Proper) : WritePeer.Orderly writer where
  modest := by
    intro later bytes taken reached success
    have cue := (proper.reached reached).next
    rw [write_answer] at success
    cases next : later.next with
    | all =>
      simp only [next, WriteCue.answer, Except.ok.injEq] at success
      omega
    | take limit =>
      simp only [next, WriteCue.answer, Except.ok.injEq] at success
      omega
    | «over» excess => exact False.elim (next ▸ cue : ProperCue (.over excess))
    | fail fault => simp [next, WriteCue.answer] at success
  candid := by
    intro later bytes fault reached failed
    have cue := (proper.reached reached).next
    rw [write_answer] at failed
    cases next : later.next with
    | all => simp [next, WriteCue.answer] at failed
    | take limit => simp [next, WriteCue.answer] at failed
    | «over» excess => exact False.elim (next ▸ cue : ProperCue (.over excess))
    | fail cause =>
      simp only [next, WriteCue.answer, Except.error.injEq] at failed
      rw [next] at cue
      exact failed ▸ cue

def WillingCue : WriteCue → Prop
  | .all => True
  | .take _ => True
  | .over _ => False
  | .fail _ => False

/-- The handshake of a writer wants so many bytes, and its next answers, after which it takes
everything, are as many as these and no faults. -/
structure Willing (writer : RehearsedWriter) (wants slack : Nat) : Prop where
  part : writer.part = .buffered (if wants = 0 then [] else [.want wants])
  slack : writer.cues.length = slack
  cues : ∀ cue ∈ writer.cues, WillingCue cue
  finale : writer.finale = .all

/-- Such a writer greets, unless it has more answers in store than a sink stands stalls. -/
theorem Willing.greets {wants slack : Nat} (willing : writer.Willing wants slack)
    (fits : slack ≤ stallLimit) : WritePeer.Greets writer wants slack := by
  refine ⟨fits, fun writer wants slack => writer.Willing wants slack ∧ slack ≤ stallLimit,
    ⟨?_, ?_, ?_⟩, willing, fits⟩
  · rintro ⟨id, cues, finale, flushFault, plan, part⟩ wants slack ⟨⟨rfl, _, _, _⟩, _⟩
    by_cases finished : wants = 0
    · simp [finished, WritePeer.handshake, handshake]
    · simp [finished, WritePeer.handshake, handshake]
  · rintro ⟨id, cues, finale, flushFault, plan, part⟩ wants slack bytes
      ⟨⟨rfl, count, steps, last⟩, fits⟩ pending _
    simp only [WritePeer.feed, RehearsedWriter.feed, Nat.ne_of_gt pending, if_false, true_and]
    exact ⟨slack, fits, ⟨rfl, count, steps, last⟩, fits⟩
  · rintro ⟨id, cues, finale, flushFault, plan, part⟩ slack bytes
      ⟨⟨rfl, count, steps, last⟩, fits⟩ some
    dsimp only at count steps last
    subst count last
    cases cues with
    | nil =>
      refine ⟨_, 0, rfl, ?_, ⟨rfl, rfl, steps, rfl⟩, Nat.zero_le _⟩
      rw [if_neg (Nat.ne_of_gt (List.length_pos_of_ne_nil some))]
      exact Nat.zero_le _
    | cons cue rest =>
      have first := steps cue List.mem_cons_self
      have later : ∀ cue ∈ rest, WillingCue cue := fun each inside =>
        steps each (List.mem_cons_of_mem cue inside)
      simp only [List.length_cons] at fits ⊢
      cases cue with
      | «over» | fail => exact (first : False).elim
      | all =>
        refine ⟨_, rest.length, rfl, ?_, ⟨rfl, rfl, later, rfl⟩, by omega⟩
        split <;> omega
      | take limit =>
        refine ⟨_, rest.length, rfl, ?_, ⟨rfl, rfl, later, rfl⟩, by omega⟩
        split <;> omega

theorem concludes (writer : RehearsedWriter) : WritePeer.Concludes writer := by
  intro later bytes _ finished
  obtain ⟨id, cues, finale, flushFault, plan, part⟩ := later
  cases cues <;> exact finished

end RehearsedWriter

end Conduit
