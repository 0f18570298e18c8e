import Conduit.Proofs.Source.Draws
import Conduit.Proofs.Transfer.Filling

set_option autoImplicit false

namespace Conduit

namespace Buffer

variable {ρ : Type} [ReadPeer ρ]

/-- A fill of an empty buffer took these bytes out of a source. -/
structure Fetches (buffer : Buffer) (source : Source ρ) (world : World)
    (counters : List Counter) (filled : Filled ρ) (bytes gained : Bytes) (after : World) :
    Prop where
  draws : source.Draws world bytes gained filled.source after
  world : filled.world = after.count counters bytes.length
  unread : filled.buffer.unread = bytes
  fits : bytes.length ≤ buffer.freeLen
  handles : filled.source.handles.Sublist source.handles
  size : filled.buffer.size = buffer.size
  ok : ∀ count, filled.result = .ok count → count = bytes.length
  /-- None means that the source ended. -/
  ended : source.Orderly → filled.result = .ok 0 → filled.source.Ended after.stores
  failed : ∀ fault, filled.result = .error fault → bytes = []
  candid : source.Orderly → ∀ fault, filled.result = .error fault →
    fault.toTransfer.isEndOfStream = false
  /-- A buffer with room can be filled from a live reader with a stream to give, and no byte comes
  only when all of the stream was given. -/
  supplied : 0 < buffer.freeLen → ∀ tail patience, source.Gives tail patience →
    ∃ count, filled.result = .ok count ∧ (count = 0 → tail = gained)

theorem filledFrom_fetches (counters : List Counter) (buffer : Buffer) (source : Source ρ)
    (world : World) (blank : buffer.unread = []) (room : 0 < buffer.freeLen)
    (settled : Settled (source.read buffer.freeLen world).answer) :
    ∃ bytes gained after, buffer.Fetches source world counters
      (buffer.filledFrom counters source world) bytes gained after := by
  have reads := Source.reads_read source buffer.freeLen world
  have fits := reads.length_le
  obtain ⟨gained, draws⟩ := Source.Draws.read source room world
  unfold filledFrom
  cases answer : (source.read buffer.freeLen world).answer with
  | ok bytes =>
    rw [answer] at draws fits
    simp only [answer]
    refine ⟨bytes, gained, _, draws, rfl, ?_, fits, reads.handles_sublist, rfl, ?_, ?_, by simp,
      by simp, ?_⟩
    · simp only [append, blank, List.nil_append]
      exact List.take_of_length_le fits
    · rintro count same
      cases same
      rfl
    · intro orderly none
      simp only [Except.ok.injEq, List.length_eq_zero_iff] at none
      obtain ⟨empty, spent⟩ := reads.ended room (answer.trans (congrArg _ none))
      exact ⟨empty, spent orderly⟩
    · intro _ tail patience gives
      refine ⟨bytes.length, rfl, fun none => ?_⟩
      obtain ⟨rest, fewer, on, _, sum, _, dry⟩ := reads.supplies room gives
      rw [draws.heard, List.append_assoc, List.append_cancel_left_eq] at sum
      rw [sum, dry (answer.trans (congrArg _ (List.length_eq_zero_iff.mp none))), List.append_nil]
  | error fault =>
    rw [answer] at draws
    simp only [answer]
    have hard := settled fault answer
    refine ⟨[], gained, _, draws, rfl, blank, Nat.zero_le _, reads.handles_sublist, rfl, by simp,
      by simp, fun _ _ => rfl, ?_, ?_⟩
    · rintro orderly other same
      cases same
      exact IoFault.isEndOfStream_toTransfer_toBuffer
        ((reads.orderly room orderly).2 fault answer hard)
    · intro _ tail patience gives
      obtain ⟨_, _, _, _, _, failed, _⟩ := reads.supplies room gives
      rw [(failed fault answer).1] at hard
      cases hard

theorem fillOnce_fetches {retries : Nat} {counters : List Counter} {buffer : Buffer}
    {source : Source ρ} {world : World} {filled : Filled ρ} (blank : buffer.unread = [])
    (ended : buffer.fillOnce retries counters source world = some filled) :
    ∃ bytes gained after, buffer.Fetches source world counters filled bytes gained after := by
  unfold fillOnce at ended
  split at ended
  · cases ended
    rename_i full
    refine ⟨[], [], world, .still source (World.Unmoved.refl world), rfl, blank, Nat.zero_le _,
      List.Sublist.refl _, rfl, by simp, by simp, fun _ _ => rfl, ?_, ?_⟩
    · rintro _ fault same
      cases same
      rfl
    · simp only [isFull, beq_iff_eq] at full
      omega
  · rename_i full
    have room : 0 < buffer.freeLen := by
      simp only [isFull, beq_iff_eq] at full
      omega
    -- Interrupted reads bring nothing, so what they leave is drawn from as if nothing had happened.
    have sitsOut : SitsOut buffer.freeLen fun _ last later =>
        ∃ gained, source.Draws world [] gained last later ∧
          last.handles.Sublist source.handles := by
      rintro _ last later _ ⟨gained, drawn, kept⟩ failed _
      obtain ⟨further, draws⟩ := Source.Draws.read last room later
      rw [failed] at draws
      exact ⟨_, drawn.trans draws, (Source.reads_read last _ later).handles_sublist.trans kept⟩
    obtain ⟨_, last, later, ⟨gained, drawn, kept⟩, settled, rfl⟩ := fillOnceLoop_ends counters
      buffer source world retries sitsOut
      ⟨[], .still source (World.Unmoved.refl world), List.Sublist.refl _⟩ filled ended
    obtain ⟨bytes, further, after, fetches⟩ := filledFrom_fetches counters buffer last later blank
      room settled
    refine ⟨bytes, _, after, drawn.trans fetches.draws, fetches.world, fetches.unread, fetches.fits,
      fetches.handles.trans kept, fetches.size, fetches.ok,
      fun orderly => fetches.ended (drawn.orderly orderly), fetches.failed,
      fun orderly => fetches.candid (drawn.orderly orderly), ?_⟩
    intro _ tail patience gives
    obtain ⟨rest, fewer, split, _, on⟩ := drawn.supply tail patience gives
    obtain ⟨count, success, dry⟩ := fetches.supplied room rest fewer on
    exact ⟨count, success, fun none => by rw [split, dry none]⟩

/-- A fill by one read comes to an end when the live reader is interrupted no more often than is sat
out. -/
theorem fillOnce_isSome {retries : Nat} (counters : List Counter) (buffer : Buffer)
    {source : Source ρ} (world : World) {tail : Bytes} {patience : Nat}
    (gives : source.Gives tail patience) (patient : patience ≤ retries) :
    (buffer.fillOnce retries counters source world).isSome = true := by
  unfold fillOnce
  split
  · rfl
  · rename_i full
    have room : 0 < buffer.freeLen := by
      simp only [isFull, beq_iff_eq] at full
      omega
    have sitsOut : SitsOut buffer.freeLen fun retries (last : Source ρ) _ =>
        ∃ tail patience, last.Gives tail patience ∧ patience ≤ retries := by
      rintro retries last later fault ⟨tail, patience, gives, patient⟩ answer _
      obtain ⟨rest, fewer, on, _, _, failed, _⟩ :=
        (Source.reads_read last buffer.freeLen later).supplies room gives
      have sooner := (failed fault answer).2
      exact ⟨rest, fewer, on, by omega⟩
    refine fillOnceLoop_isSome counters buffer source world retries sitsOut
      ⟨tail, patience, gives, patient⟩ ?_
    rintro last later ⟨tail, patience, gives, none⟩ fault answer
    obtain ⟨_, _, _, _, _, failed, _⟩ :=
      (Source.reads_read last buffer.freeLen later).supplies room gives
    have sooner := (failed fault answer).2
    omega

end Buffer

end Conduit
