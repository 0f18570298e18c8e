import Conduit.Transfer.Drain
import Mathlib.Data.List.Basic

set_option autoImplicit false

namespace Conduit

namespace Buffer

variable {τ : Type}

theorem consume_zero (buffer : Buffer) : buffer.consume 0 = buffer := by
  simp only [consume, List.take_zero, List.reverse_nil, List.nil_append, List.drop_zero]

theorem consume_consume (buffer : Buffer) (first second : Nat) :
    (buffer.consume first).consume second = buffer.consume (first + second) := by
  simp only [consume, List.drop_drop, List.take_add, List.reverse_append, List.append_assoc]

theorem drain_of_empty (write : Writing τ) (counters : List Counter) {buffer : Buffer} (sink : τ)
    (world : World) (none : buffer.unread = []) :
    buffer.drain write counters sink world = ⟨.error .endOfStream, 0, buffer, sink, world⟩ :=
  if_pos (List.isEmpty_iff.mpr none)

/-- A write moved nothing and may be made again. -/
def Stalls : Except IoFault Nat → Prop
  | .ok taken => taken = 0
  | .error fault => fault.isTransient = true

/-- What a drain comes to when its last write starts from this buffer, sink and world. -/
def drainedBy (write : Writing τ) (counters : List Counter) (buffer : Buffer) (sink : τ)
    (world : World) (total reported : Nat) : Drained τ :=
  let wrote := write sink buffer.unread world
  match wrote.answer with
  | .ok 0 => ⟨.error .noProgress, reported, buffer, wrote.after, wrote.world⟩
  | .ok (less + 1) =>
    ⟨.ok (total + min (less + 1) buffer.unread.length), reported + (less + 1),
      buffer.consume (less + 1), wrote.after, wrote.world.count counters (less + 1)⟩
  | .error fault =>
    ⟨.error (if fault.isTransient then .noProgress else fault.toBuffer), reported, buffer,
      wrote.after, wrote.world⟩

/-- The answer to a write of some bytes after which a drain makes no other one, when it stands so
many more stalls. -/
structure LastWrite (answer : Except IoFault Nat) (patience : Nat) (left : Bytes) : Prop where
  some : left ≠ []
  stuck : Stalls answer → patience = 0
  whole : ∀ less, answer = .ok (less + 1) → left.drop (less + 1) = []

/-- What has to be shown of an invariant of drains. Its number is one more than the stalls that the
drain still stands, and zero once it gave up. -/
structure DrainRule (write : Writing τ) (counters : List Counter)
    (Inv : Nat → Bytes → Nat → τ → World → Prop) : Prop where
  stalled : ∀ {patience left reported sink world}, Inv (patience + 1) left reported sink world →
    left ≠ [] → Stalls (write sink left world).answer →
    Inv patience left reported (write sink left world).after (write sink left world).world
  /-- It outlasts progress, after which the drain is patient again. -/
  took : ∀ {patience left reported sink world less}, Inv (patience + 1) left reported sink world →
    left ≠ [] → (write sink left world).answer = .ok (less + 1) →
    Inv (stallLimit + 1) (left.drop (less + 1)) (reported + (less + 1))
      (write sink left world).after ((write sink left world).world.count counters (less + 1))
  refused : ∀ {patience left reported sink world fault},
    Inv (patience + 1) left reported sink world → left ≠ [] →
    (write sink left world).answer = .error fault → fault.isTransient = false →
    Inv 0 left reported (write sink left world).after (write sink left world).world

namespace DrainRule

variable {write : Writing τ} {counters : List Counter}
  {Inv : Nat → Bytes → Nat → τ → World → Prop}

/-- For an invariant that does not care how patient the drain is, stalls are writes of no bytes. -/
theorem steady {Inv : Bytes → Nat → τ → World → Prop}
    (ok : ∀ {left reported sink world taken}, Inv left reported sink world → left ≠ [] →
      (write sink left world).answer = .ok taken →
      Inv (left.drop taken) (reported + taken) (write sink left world).after
        ((write sink left world).world.count counters taken))
    (error : ∀ {left reported sink world fault}, Inv left reported sink world → left ≠ [] →
      (write sink left world).answer = .error fault →
      Inv left reported (write sink left world).after (write sink left world).world) :
    DrainRule write counters fun _ => Inv where
  stalled := by
    intro _ left reported sink world inv some stalls
    cases answer : (write sink left world).answer with
    | ok taken =>
      rw [answer] at stalls
      have still := ok inv some answer
      simp only [Stalls] at stalls
      rw [stalls, List.drop_zero, Nat.add_zero] at still
      exact still
    | error fault => exact error inv some answer
  took := fun inv some answer => ok inv some answer
  refused := fun inv some answer _ => error inv some answer

def Ends (write : Writing τ) (Inv : Nat → Bytes → Nat → τ → World → Prop) (drained : Drained τ) :
    Prop :=
  match drained.result with
  | .ok _ => drained.buffer.unread = [] ∧
      ∃ patience, Inv patience [] drained.reported drained.sink drained.world
  | .error fault =>
    Inv 0 drained.buffer.unread drained.reported drained.sink drained.world ∧
      (fault = .noProgress ∨ ∃ patience left reported sink world cause,
        Inv patience left reported sink world ∧ left ≠ [] ∧
          (write sink left world).answer = .error cause ∧ fault = cause.toBuffer)

namespace Ends

variable {drained : Drained τ}

theorem ok {total : Nat} (ends : Ends write Inv drained) (success : drained.result = .ok total) :
    drained.buffer.unread = [] ∧
      ∃ patience, Inv patience [] drained.reported drained.sink drained.world := by
  rw [Ends, success] at ends
  exact ends

theorem error {fault : BufferFault} (ends : Ends write Inv drained)
    (failed : drained.result = .error fault) :
    Inv 0 drained.buffer.unread drained.reported drained.sink drained.world ∧
      (fault = .noProgress ∨ ∃ patience left reported sink world cause,
        Inv patience left reported sink world ∧ left ≠ [] ∧
          (write sink left world).answer = .error cause ∧ fault = cause.toBuffer) := by
  rw [Ends, failed] at ends
  exact ends

/-- The invariant holds of what is left, however the drain ended. -/
theorem holds (ends : Ends write Inv drained) :
    ∃ patience, Inv patience drained.buffer.unread drained.reported drained.sink
      drained.world := by
  cases result : drained.result with
  | ok total =>
    obtain ⟨empty, patience, inv⟩ := ends.ok result
    exact ⟨patience, empty ▸ inv⟩
  | error fault => exact ⟨0, (ends.error result).1⟩

end Ends

/-- A drain ends with a write before which the invariant holds, and which is the last one because it
stalled too often, took the rest or failed. -/
theorem drainLoop_last (rule : DrainRule write counters Inv) (buffer : Buffer) (sink : τ)
    (world : World) (patience total reported : Nat) (some : buffer.unread ≠ [])
    (inv : Inv (patience + 1) buffer.unread reported sink world) :
    ∃ patient count said last later,
      Inv (patient + 1) (buffer.consume count).unread said last later ∧
      LastWrite (write last (buffer.consume count).unread later).answer patient
        (buffer.consume count).unread ∧
      buffer.drainLoop write counters sink world patience total reported =
        (buffer.consume count).drainedBy write counters last later (total + count) said := by
  -- Along the calls of the loop: a stall or a write with bytes left leads on, every other call is
  -- the last one, made of what `buffer.consume count` left.
  induction buffer, sink, world, patience, total, reported
      using Buffer.drainLoop.induct write counters with
  | case1 buffer sink world total reported wrote none =>
    unfold Buffer.drainLoop
    simp only [wrote] at none
    refine ⟨0, 0, reported, sink, world, ?_, ?_, ?_⟩
    all_goals rw [consume_zero]
    · exact inv
    · rw [none]
      exact ⟨some, fun _ => rfl, nofun⟩
    · simp only [none, drainedBy]
  | case2 buffer sink world total reported wrote none patience ih =>
    unfold Buffer.drainLoop
    simp only [wrote] at none ih ⊢
    simp only [none]
    exact ih some (rule.stalled inv some (by rw [none]; rfl))
  | case3 buffer sink world patience total reported wrote less took left gone =>
    unfold Buffer.drainLoop
    simp only [wrote, left] at took gone
    refine ⟨patience, 0, reported, sink, world, ?_, ?_, ?_⟩
    all_goals rw [consume_zero]
    · exact inv
    · rw [took]
      refine ⟨some, fun none => absurd none (Nat.succ_ne_zero less), fun more same => ?_⟩
      cases same
      exact List.isEmpty_iff.mp gone
    · simp only [took, gone, if_true, drainedBy, Nat.add_zero]
  | case4 buffer sink world patience total reported wrote less took counted left sum more ih =>
    unfold Buffer.drainLoop
    simp only [wrote, left, counted, sum] at took more ih ⊢
    simp only [took, more, if_false, Bool.false_eq_true]
    obtain ⟨patient, count, said, last, later, holds, final, ended⟩ :=
      ih (fun empty => more (List.isEmpty_iff.mpr empty)) (rule.took inv some took)
    have fewer : min (less + 1) buffer.unread.length = less + 1 := by
      simp only [isEmpty, consume, List.isEmpty_iff, List.drop_eq_nil_iff] at more
      omega
    rw [consume_consume] at holds final ended
    rw [fewer] at ended ⊢
    rw [Nat.add_assoc total] at ended
    exact ⟨patient, less + 1 + count, said, last, later, holds, final, ended⟩
  | case5 buffer sink world total reported wrote fault failed transient =>
    unfold Buffer.drainLoop
    simp only [wrote] at failed
    refine ⟨0, 0, reported, sink, world, ?_, ?_, ?_⟩
    all_goals rw [consume_zero]
    · exact inv
    · rw [failed]
      exact ⟨some, fun _ => rfl, nofun⟩
    · simp only [failed, transient, if_true, drainedBy]
  | case6 buffer sink world total reported wrote fault failed transient patience ih =>
    unfold Buffer.drainLoop
    simp only [wrote] at failed ih ⊢
    simp only [failed, transient, if_true]
    exact ih some (rule.stalled inv some (by rw [failed]; exact transient))
  | case7 buffer sink world patience total reported wrote fault failed hard =>
    unfold Buffer.drainLoop
    simp only [wrote] at failed
    refine ⟨patience, 0, reported, sink, world, ?_, ?_, ?_⟩
    all_goals rw [consume_zero]
    · exact inv
    · rw [failed]
      exact ⟨some, fun stalls => absurd stalls hard, nofun⟩
    · simp only [failed, hard, if_false, Bool.false_eq_true, drainedBy]

theorem drainLoop (rule : DrainRule write counters Inv) (buffer : Buffer) (sink : τ)
    (world : World) (patience total reported : Nat) (some : buffer.unread ≠ [])
    (inv : Inv (patience + 1) buffer.unread reported sink world) :
    Ends write Inv (buffer.drainLoop write counters sink world patience total reported) := by
  obtain ⟨patient, count, said, last, later, holds, final, ended⟩ :=
    rule.drainLoop_last buffer sink world patience total reported some inv
  rw [ended, drainedBy]
  generalize buffer.consume count = rest at *
  cases answer : (write last rest.unread later).answer with
  | ok taken =>
    cases taken with
    | zero =>
      have stalls : Stalls (write last rest.unread later).answer := by rw [answer]; rfl
      have none := final.stuck stalls
      subst none
      exact ⟨rule.stalled holds final.some stalls, .inl rfl⟩
    | succ less =>
      have empty := final.whole less answer
      have inv := rule.took holds final.some answer
      rw [empty] at inv
      exact ⟨empty, _, inv⟩
  | error fault =>
    cases hard : fault.isTransient with
    | true =>
      have stalls : Stalls (write last rest.unread later).answer := by rw [answer]; exact hard
      have none := final.stuck stalls
      subst none
      simp only [hard, if_true]
      exact ⟨rule.stalled holds final.some stalls, .inl rfl⟩
    | false =>
      simp only [hard, if_false, Bool.false_eq_true]
      exact ⟨rule.refused holds final.some answer hard,
        .inr ⟨_, _, _, _, _, _, holds, final.some, answer, rfl⟩⟩

/-- A drain of some bytes ends with a write before which the invariant holds. -/
theorem drain_last (rule : DrainRule write counters Inv) (buffer : Buffer) (sink : τ)
    (world : World) (some : buffer.unread ≠ [])
    (inv : Inv (stallLimit + 1) buffer.unread 0 sink world) :
    ∃ patient count said last later,
      Inv (patient + 1) (buffer.consume count).unread said last later ∧
      LastWrite (write last (buffer.consume count).unread later).answer patient
        (buffer.consume count).unread ∧
      buffer.drain write counters sink world =
        (buffer.consume count).drainedBy write counters last later count said := by
  rw [Buffer.drain, if_neg (by rwa [Buffer.isEmpty, List.isEmpty_iff])]
  have ends := rule.drainLoop_last buffer sink world stallLimit 0 0 some inv
  simp only [Nat.zero_add] at ends
  exact ends

/-- An invariant that holds before a drain of some bytes holds after it. -/
theorem drain (rule : DrainRule write counters Inv) (buffer : Buffer) (sink : τ) (world : World)
    (some : buffer.unread ≠ []) (inv : Inv (stallLimit + 1) buffer.unread 0 sink world) :
    Ends write Inv (buffer.drain write counters sink world) := by
  rw [Buffer.drain, if_neg (by rwa [Buffer.isEmpty, List.isEmpty_iff])]
  exact rule.drainLoop buffer sink world stallLimit 0 0 some inv

end DrainRule

theorem drain_ok_unread {write : Writing τ} {counters : List Counter} {buffer : Buffer} {sink : τ}
    {world : World} {total : Nat}
    (success : (buffer.drain write counters sink world).result = .ok total) :
    (buffer.drain write counters sink world).buffer.unread = [] := by
  by_cases none : buffer.unread = []
  · rw [drain_of_empty write counters sink world none] at success
    cases success
  · have rule : DrainRule write counters fun _ _ _ _ _ => True :=
      ⟨fun _ _ _ => trivial, fun _ _ _ => trivial, fun _ _ _ _ => trivial⟩
    exact ((rule.drain buffer sink world none trivial).ok success).1

theorem writeAt_consume (buffer : Buffer) (count : Nat) :
    (buffer.consume count).writeAt = buffer.writeAt := by
  simp only [consume, writeAt, List.length_append, List.length_reverse, List.length_take,
    List.length_drop]
  omega

/-- A drain moves the read cursor only, and one that ends well says how many bytes there were. -/
theorem drain_consumes (write : Writing τ) (counters : List Counter) (buffer : Buffer) (sink : τ)
    (world : World) (some : buffer.unread ≠ []) :
    let drained := buffer.drain write counters sink world
    (∃ count, drained.buffer = buffer.consume count) ∧
      ∀ count, drained.result = .ok count → count = buffer.unread.length := by
  have rule : DrainRule write counters fun _ _ _ _ _ => True :=
    ⟨fun _ _ _ => trivial, fun _ _ _ => trivial, fun _ _ _ _ => trivial⟩
  obtain ⟨_, before, _, last, later, _, final, ended⟩ :=
    rule.drain_last buffer sink world some trivial
  rw [ended, drainedBy]
  cases answer : (write last (buffer.consume before).unread later).answer with
  | ok taken =>
    cases taken with
    | zero => exact ⟨⟨before, rfl⟩, nofun⟩
    | succ less =>
      refine ⟨⟨_, consume_consume buffer before (less + 1)⟩, fun count same => ?_⟩
      have all := final.whole less answer
      have some := final.some
      cases same
      simp only [consume, ne_eq, List.drop_eq_nil_iff, List.length_drop] at all some ⊢
      omega
  | error fault => exact ⟨⟨before, rfl⟩, nofun⟩

theorem drain_frame (write : Writing τ) (counters : List Counter) (buffer : Buffer) (sink : τ)
    (world : World) :
    (buffer.drain write counters sink world).buffer.size = buffer.size ∧
      (buffer.drain write counters sink world).buffer.writeAt = buffer.writeAt := by
  by_cases none : buffer.unread = []
  · rw [drain_of_empty write counters sink world none]
    exact ⟨rfl, rfl⟩
  · obtain ⟨⟨count, consumed⟩, _⟩ := drain_consumes write counters buffer sink world none
    rw [consumed]
    exact ⟨rfl, writeAt_consume buffer count⟩

theorem drain_size (write : Writing τ) (counters : List Counter) (buffer : Buffer) (sink : τ)
    (world : World) : (buffer.drain write counters sink world).buffer.size = buffer.size :=
  (drain_frame write counters buffer sink world).1

end Buffer

end Conduit
