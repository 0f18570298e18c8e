import Conduit.Proofs.Transfer.Patience
import Conduit.Proofs.Transfer.Pouring
import Conduit.Rehearsal

set_option autoImplicit false

namespace Conduit

/-- Where a drain stands between two writes. -/
structure Draining (τ : Type) where
  buffer : Buffer
  sink : τ
  world : World

namespace Draining

variable {τ : Type} (write : Writing τ) (counters : List Counter)

def answer (state : Draining τ) : Except IoFault Nat :=
  (write state.sink state.buffer.unread state.world).answer

/-- Makes one write of all that is left. -/
def next (state : Draining τ) : Draining τ :=
  let wrote := write state.sink state.buffer.unread state.world
  match wrote.answer with
  | .ok taken => ⟨state.buffer.consume taken, wrote.after, wrote.world.count counters taken⟩
  | .error _ => ⟨state.buffer, wrote.after, wrote.world⟩

variable {write} (state : Draining τ)

theorem next_ok {taken : Nat} (success : state.answer write = .ok taken) :
    state.next write counters = ⟨state.buffer.consume taken,
      (write state.sink state.buffer.unread state.world).after,
      (write state.sink state.buffer.unread state.world).world.count counters taken⟩ := by
  rw [answer] at success
  simp only [next, success]

theorem next_error {fault : IoFault} (failed : state.answer write = .error fault) :
    state.next write counters = ⟨state.buffer,
      (write state.sink state.buffer.unread state.world).after,
      (write state.sink state.buffer.unread state.world).world⟩ := by
  rw [answer] at failed
  simp only [next, failed]

/-- A write that moved nothing leaves the buffer as it is. -/
theorem next_stalls (stalls : Buffer.Stalls (state.answer write)) :
    state.next write counters = ⟨state.buffer,
      (write state.sink state.buffer.unread state.world).after,
      (write state.sink state.buffer.unread state.world).world⟩ := by
  cases answer : state.answer write with
  | ok taken =>
    have none : taken = 0 := by rwa [answer] at stalls
    subst none
    rw [next_ok counters state answer, Buffer.consume_zero]
    rfl
  | error fault => exact next_error counters state answer

variable (write)

def Fails (state : Draining τ) : Prop :=
  ∃ fault, state.answer write = .error fault ∧ fault.isTransient = false

variable {write} {state}

theorem not_stalls {less : Nat} (took : state.answer write = .ok (less + 1)) :
    ¬ Buffer.Stalls (state.answer write) := by
  rw [took]
  exact Nat.succ_ne_zero less

theorem not_fails {taken : Nat} (took : state.answer write = .ok taken) : ¬ state.Fails write := by
  rintro ⟨fault, failed, _⟩
  rw [took] at failed
  cases failed

theorem goesOn_of_stalls (stalls : Buffer.Stalls (state.answer write)) : ¬ state.Fails write := by
  rintro ⟨fault, failed, hard⟩
  rw [failed] at stalls
  exact absurd stalls (Bool.eq_false_iff.mp hard)

/-- A write that neither stalls nor fails makes what is left less. -/
theorem length_next_lt (some : state.buffer.unread.length ≠ 0)
    (moves : ¬ Buffer.Stalls (state.answer write)) (goesOn : ¬ state.Fails write) :
    (state.next write counters).buffer.unread.length < state.buffer.unread.length := by
  cases answer : state.answer write with
  | ok taken =>
    have took : taken ≠ 0 := fun none => moves (by rwa [answer])
    rw [next_ok counters state answer]
    simp only [Buffer.consume, List.length_drop]
    omega
  | error fault =>
    refine absurd ⟨fault, answer, ?_⟩ goesOn
    apply eq_false_of_ne_true
    rwa [answer] at moves

variable (write)

def effort : Effort (Draining τ) where
  next := next write counters
  left := fun state => state.buffer.unread.length
  stalls := fun state => Buffer.Stalls (state.answer write)
  ends := Fails write
  stalls_goes_on := goesOn_of_stalls
  stalls_still := fun {state} stalls =>
    congrArg (fun later => later.buffer.unread.length) (next_stalls counters state stalls)
  moves := length_next_lt counters

/-- As long as there is something to write, no failed write carries the fault of a buffer. -/
def Plain (start : Draining τ) : Prop :=
  ∀ call fault, ((effort write counters).next^[call] start).buffer.unread ≠ [] →
    ((effort write counters).next^[call] start).answer write = .error fault → fault.Own

theorem Plain.next {start : Draining τ} (plain : start.Plain write counters) :
    (start.next write counters).Plain write counters :=
  fun call => plain (call + 1)

end Draining

/-- Where a fill stands between two reads. -/
structure Filling (ρ : Type) where
  buffer : Buffer
  source : Source ρ
  world : World

namespace Filling

variable {ρ : Type} [ReadPeer ρ] (state : Filling ρ)

/-- The read that comes next, for all that still fits. -/
def reading : Called (Source ρ) Bytes := state.source.read state.buffer.freeLen state.world

def next : Filling ρ :=
  ⟨state.buffer.append (ReadPeer.brought state.reading.answer), state.reading.after,
    state.reading.world⟩

def Stalls : Prop := ∃ fault, state.reading.answer = .error fault ∧ fault.isTransient = true

def Fails : Prop := ∃ fault, state.reading.answer = .error fault ∧ fault.isTransient = false

/-- The next read is the last one: it meets the end of the source, or fails for good. -/
def Closes : Prop := state.reading.answer = .ok [] ∨ state.Fails

variable {bytes : Bytes} {fault : IoFault}

theorem next_error (failed : state.reading.answer = .error fault) :
    state.next = ⟨state.buffer, (state.source.read state.buffer.freeLen state.world).after,
      (state.source.read state.buffer.freeLen state.world).world⟩ := by
  rw [next, failed, ReadPeer.brought, Buffer.append_nil]
  rfl

theorem next_ok (success : state.reading.answer = .ok bytes) :
    state.next = ⟨state.buffer.append bytes,
      (state.source.read state.buffer.freeLen state.world).after,
      (state.source.read state.buffer.freeLen state.world).world⟩ := by
  rw [next, success, ReadPeer.brought]
  rfl

variable {state}

theorem not_stalls (success : state.reading.answer = .ok bytes) : ¬ state.Stalls := by
  rintro ⟨fault, failed, _⟩
  rw [success] at failed
  cases failed

theorem goesOn_of_stalls (stalls : state.Stalls) : ¬ state.Closes := by
  obtain ⟨fault, failed, transient⟩ := stalls
  rintro (none | ⟨other, same, hard⟩)
  · rw [failed] at none
    cases none
  · rw [failed] at same
    cases same
    exact absurd transient (Bool.eq_false_iff.mp hard)

theorem freeLen_of_stalls (stalls : state.Stalls) :
    state.next.buffer.freeLen = state.buffer.freeLen := by
  obtain ⟨fault, failed, _⟩ := stalls
  rw [next_error state failed]

/-- A read that neither stalls nor closes the fill makes the room less. -/
theorem freeLen_next_lt (room : state.buffer.freeLen ≠ 0) (moves : ¬ state.Stalls)
    (goesOn : ¬ state.Closes) : state.next.buffer.freeLen < state.buffer.freeLen := by
  cases answer : state.reading.answer with
  | ok bytes =>
    have some : bytes ≠ [] := by
      rintro rfl
      exact goesOn (.inl answer)
    have length := List.length_pos_of_ne_nil some
    rw [next_ok state answer]
    simp only [Buffer.freeLen_append]
    omega
  | error fault =>
    cases transient : fault.isTransient with
    | true => exact absurd ⟨fault, answer, transient⟩ moves
    | false => exact absurd (.inr ⟨fault, answer, transient⟩) goesOn

variable (ρ)

/-- To read as many bytes as still fit. -/
def effort : Effort (Filling ρ) where
  next := next
  left := fun state => state.buffer.freeLen
  stalls := Stalls
  ends := Closes
  stalls_goes_on := goesOn_of_stalls
  stalls_still := freeLen_of_stalls
  moves := freeLen_next_lt

variable {ρ}

/-- As long as there is room, no failed read carries the fault of a buffer. -/
def Plain (start : Filling ρ) : Prop :=
  ∀ call fault, ((effort ρ).next^[call] start).buffer.freeLen ≠ 0 →
    ((effort ρ).next^[call] start).reading.answer = .error fault → fault.Own

theorem Plain.next {start : Filling ρ} (plain : start.Plain) : start.next.Plain :=
  fun call => plain (call + 1)

/-- A fill is plain when no read of any source that it comes to fails with a buffer's fault. -/
theorem plain_of (Comes : Source ρ → Prop)
    (read : ∀ source wanted world, Comes source → Comes (source.read wanted world).after)
    (own : ∀ source wanted world fault, Comes source →
      (source.read wanted world).answer = .error fault → fault.Own)
    {start : Filling ρ} (comes : Comes start.source) : start.Plain := by
  have later : ∀ call, Comes ((effort ρ).next^[call] start).source := by
    intro call
    induction call generalizing start with
    | zero => exact comes
    | succ call ih => exact @ih start.next (read _ _ _ comes)
  exact fun call fault _ failed => own _ _ _ fault (later call) failed

end Filling

namespace Buffer

theorem length_unread_ne_zero {buffer : Buffer} (some : buffer.unread ≠ []) :
    buffer.unread.length ≠ 0 :=
  fun none => some (List.eq_nil_of_length_eq_zero none)

section

variable {τ : Type} (write : Writing τ) (counters : List Counter)

/-- A drain comes to what becomes of the effort to write its bytes. -/
def DrainSpends (patience : Nat) (start : Draining τ) (drained : Drained τ) : Prop :=
  ∃ calls, (Draining.effort write counters).Spends (drained.result = .error .noProgress) patience
    start calls ⟨drained.buffer, drained.sink, drained.world⟩

variable {write} {buffer : Buffer} {sink : τ} {world : World}

/-- A drain that meets a stall makes the write again, or gives up. -/
theorem drainLoop_stalls (stalls : Stalls (write sink buffer.unread world).answer)
    (patience total reported : Nat) :
    buffer.drainLoop write counters sink world patience total reported =
      match patience with
      | 0 => ⟨.error .noProgress, reported, buffer, (write sink buffer.unread world).after,
          (write sink buffer.unread world).world⟩
      | patience + 1 => buffer.drainLoop write counters (write sink buffer.unread world).after
          (write sink buffer.unread world).world patience total reported := by
  rw [drainLoop.eq_def]
  cases answer : (write sink buffer.unread world).answer with
  | ok taken =>
    rw [answer] at stalls
    have none : taken = 0 := stalls
    subst none
    cases patience <;> simp only [answer]
  | error fault =>
    rw [answer] at stalls
    have transient : fault.isTransient = true := stalls
    cases patience <;> simp only [answer, transient, if_true]

theorem drainLoop_gaveUp (some : buffer.unread ≠ [])
    (stalls : Stalls (write sink buffer.unread world).answer) (total reported : Nat) :
    DrainSpends write counters 0 ⟨buffer, sink, world⟩
      (buffer.drainLoop write counters sink world 0 total reported) := by
  have next := Draining.next_stalls counters ⟨buffer, sink, world⟩ stalls
  rw [drainLoop_stalls counters stalls]
  refine ⟨1, ?_⟩
  simp only [← next]
  exact .gaveUp (length_unread_ne_zero some) stalls trivial

theorem drainLoop_stalled (some : buffer.unread ≠ [])
    (stalls : Stalls (write sink buffer.unread world).answer) (patience total reported : Nat)
    (plain : Draining.Plain write counters ⟨buffer, sink, world⟩)
    (on : let wrote := write sink buffer.unread world
      Draining.Plain write counters ⟨buffer, wrote.after, wrote.world⟩ →
        DrainSpends write counters patience ⟨buffer, wrote.after, wrote.world⟩
          (buffer.drainLoop write counters wrote.after wrote.world patience total reported)) :
    DrainSpends write counters (patience + 1) ⟨buffer, sink, world⟩
      (buffer.drainLoop write counters sink world (patience + 1) total reported) := by
  have next := Draining.next_stalls counters ⟨buffer, sink, world⟩ stalls
  have still := plain.next
  rw [next] at still
  obtain ⟨calls, spends⟩ := on still
  rw [← next] at spends
  rw [drainLoop_stalls counters stalls]
  exact ⟨calls + 1, .stalled (length_unread_ne_zero some) stalls spends⟩

theorem drainLoop_spends (buffer : Buffer) (sink : τ) (world : World)
    (patience total reported : Nat) (some : buffer.unread ≠ [])
    (plain : Draining.Plain write counters ⟨buffer, sink, world⟩) :
    DrainSpends write counters patience ⟨buffer, sink, world⟩
      (buffer.drainLoop write counters sink world patience total reported) := by
  induction buffer, sink, world, patience, total, reported
      using drainLoop.induct write counters with
  | case1 buffer sink world total reported wrote none =>
    simp only [wrote] at none
    apply drainLoop_gaveUp counters some
    rw [none]
    rfl
  | case2 buffer sink world total reported wrote none patience ih =>
    simp only [wrote] at none ih
    apply drainLoop_stalled counters some _ _ _ _ plain (ih some)
    rw [none]
    rfl
  | case3 buffer sink world patience total reported wrote less took left gone =>
    simp only [wrote, left] at took gone
    have next := Draining.next_ok counters ⟨buffer, sink, world⟩ took
    rw [drainLoop.eq_def]
    simp only [took, gone, if_true]
    refine ⟨1, ?_⟩
    simp only [← next]
    refine .ended (length_unread_ne_zero some) (Draining.not_stalls took) (.inr ?_) (by simp)
    refine (congrArg (fun state => state.buffer.unread.length) next).trans ?_
    exact List.length_eq_zero_iff.mpr (List.isEmpty_iff.mp gone)
  | case4 buffer sink world patience total reported wrote less took counted left sum more ih =>
    simp only [wrote, left, counted, sum] at took more ih
    have next := Draining.next_ok counters ⟨buffer, sink, world⟩ took
    have on := plain.next
    rw [next] at on
    obtain ⟨calls, spends⟩ := ih (fun none => more (List.isEmpty_iff.mpr none)) on
    rw [← next] at spends
    rw [drainLoop.eq_def]
    simp only [took, more, if_false, Bool.false_eq_true]
    exact ⟨calls + 1, .moved (length_unread_ne_zero some) (Draining.not_stalls took)
      (Draining.not_fails took) spends⟩
  | case5 buffer sink world total reported wrote fault failed transient =>
    simp only [wrote] at failed
    apply drainLoop_gaveUp counters some
    rw [failed]
    exact transient
  | case6 buffer sink world total reported wrote fault failed transient patience ih =>
    simp only [wrote] at failed ih
    apply drainLoop_stalled counters some _ _ _ _ plain (ih some)
    rw [failed]
    exact transient
  | case7 buffer sink world patience total reported wrote fault failed hard =>
    simp only [wrote] at failed
    have next := Draining.next_error counters ⟨buffer, sink, world⟩ failed
    have fails : Draining.Fails write ⟨buffer, sink, world⟩ :=
      ⟨fault, failed, eq_false_of_ne_true hard⟩
    have own := plain 0 fault some failed
    rw [drainLoop.eq_def]
    simp only [failed, hard, if_false, Bool.false_eq_true, own.toBuffer_eq]
    refine ⟨1, ?_⟩
    simp only [← next]
    exact .ended (length_unread_ne_zero some)
      (fun stalls => Draining.goesOn_of_stalls stalls fails) (.inl fails) (by simp)

/-- A drain whose sink fails for reasons of its own gives up just when it meets too many stalls in a
row. -/
theorem drain_concludes (buffer : Buffer) (sink : τ) (world : World)
    (plain : Draining.Plain write counters ⟨buffer, sink, world⟩) :
    let drained := buffer.drain write counters sink world
    ∃ calls, (Draining.effort write counters).Concludes (drained.result = .error .noProgress)
      ⟨buffer, sink, world⟩ calls ⟨drained.buffer, drained.sink, drained.world⟩ := by
  by_cases none : buffer.unread = []
  · rw [drain_of_empty write counters sink world none]
    exact ⟨0, .nothing (List.length_eq_zero_iff.mpr none) (by simp)⟩
  · have loop : buffer.drain write counters sink world =
        buffer.drainLoop write counters sink world stallLimit 0 0 :=
      if_neg fun empty => none (List.isEmpty_iff.mp empty)
    obtain ⟨calls, spends⟩ := drainLoop_spends counters buffer sink world stallLimit 0 0 none plain
    rw [loop]
    exact ⟨calls, spends.concludes⟩

end

section

variable {ρ : Type} [ReadPeer ρ]

/-- A fill comes to what becomes of the effort to read as many bytes as fit. -/
def FillSpends (patience : Nat) (start : Filling ρ) (filled : Filled ρ) : Prop :=
  ∃ calls, (Filling.effort ρ).Spends (filled.result = .error .noProgress) patience start calls
    ⟨filled.buffer, filled.source, filled.world⟩

theorem fillLoop_spends (buffer : Buffer) (source : Source ρ) (world : World)
    (patience total : Nat) (room : buffer.freeLen ≠ 0)
    (plain : Filling.Plain ⟨buffer, source, world⟩) :
    FillSpends patience ⟨buffer, source, world⟩
      (buffer.fillLoop source world patience total) := by
  -- Each call of the loop is one call of the effort: `next` says what that call leaves.
  induction buffer, source, world, patience, total using fillLoop.induct with
  | case1 buffer source world patience total reading ended =>
    simp only [reading] at ended
    have next := Filling.next_ok ⟨buffer, source, world⟩ ended
    rw [append_nil] at next
    rw [fillLoop.eq_def]
    simp only [ended]
    refine ⟨1, ?_⟩
    simp only [← next]
    exact .ended room (Filling.not_stalls ended) (.inl (.inl ended)) (by simp)
  | case2 buffer source world patience total reading first rest some filled full =>
    simp only [reading, filled] at some full
    have next := Filling.next_ok ⟨buffer, source, world⟩ some
    rw [fillLoop.eq_def]
    simp only [some, full, if_true]
    refine ⟨1, ?_⟩
    simp only [← next]
    refine .ended room (Filling.not_stalls some) (.inr ?_) (by simp)
    refine (congrArg (fun state => state.buffer.freeLen) next).trans ?_
    rwa [isFull, beq_iff_eq] at full
  | case3 buffer source world patience total reading first rest some filled roomy ih =>
    simp only [reading, filled] at some roomy ih
    have next := Filling.next_ok ⟨buffer, source, world⟩ some
    have on := plain.next
    rw [next] at on
    obtain ⟨calls, spends⟩ := ih (fun none => roomy (beq_iff_eq.mpr none)) on
    simp only [← next] at spends
    rw [fillLoop.eq_def]
    simp only [some, roomy, if_false, Bool.false_eq_true]
    refine ⟨calls + 1, .moved room (Filling.not_stalls some) ?_ spends⟩
    rintro (none | ⟨fault, failed, _⟩)
    · cases some.symm.trans none
    · cases some.symm.trans failed
  | case4 buffer source world total reading fault failed transient =>
    simp only [reading] at failed
    have next := Filling.next_error ⟨buffer, source, world⟩ failed
    rw [fillLoop.eq_def]
    simp only [failed, transient, if_true]
    refine ⟨1, ?_⟩
    simp only [← next]
    exact .gaveUp room ⟨fault, failed, transient⟩ trivial
  | case5 buffer source world total reading fault failed transient patience ih =>
    simp only [reading] at failed ih
    have next := Filling.next_error ⟨buffer, source, world⟩ failed
    have on := plain.next
    rw [next] at on
    obtain ⟨calls, spends⟩ := ih room on
    simp only [← next] at spends
    rw [fillLoop.eq_def]
    simp only [failed, transient, if_true]
    exact ⟨calls + 1, .stalled room ⟨fault, failed, transient⟩ spends⟩
  | case6 buffer source world patience total reading fault failed hard =>
    simp only [reading] at failed
    have next := Filling.next_error ⟨buffer, source, world⟩ failed
    have fails : Filling.Fails ⟨buffer, source, world⟩ :=
      ⟨fault, failed, eq_false_of_ne_true hard⟩
    have own := plain 0 fault room failed
    rw [fillLoop.eq_def]
    simp only [failed, hard, if_false, Bool.false_eq_true, own.toBuffer_eq]
    refine ⟨1, ?_⟩
    simp only [← next]
    exact .ended room (fun stalls => Filling.goesOn_of_stalls stalls (.inr fails))
      (.inl (.inr fails)) (by simp)

/-- A fill whose source fails for reasons of its own gives up just when it meets too many stalls in
a row. -/
theorem fill_concludes (buffer : Buffer) (source : Source ρ) (world : World)
    (plain : Filling.Plain ⟨buffer, source, world⟩) :
    let filled := buffer.fill source world
    ∃ calls, (Filling.effort ρ).Concludes (filled.result = .error .noProgress)
      ⟨buffer, source, world⟩ calls ⟨filled.buffer, filled.source, filled.world⟩ := by
  unfold fill
  by_cases full : buffer.isFull
  · rw [if_pos full]
    exact ⟨0, .nothing (beq_iff_eq.mp full) (by simp)⟩
  · rw [if_neg full]
    obtain ⟨calls, spends⟩ := fillLoop_spends buffer source world stallLimit 0
      (fun none => full (beq_iff_eq.mpr none)) plain
    exact ⟨calls, spends.concludes⟩

end

end Buffer

/-- Drains and fills between endpoints that fail for reasons of their own end after no more calls
for each byte than the stalls that are stood and one more. They give up just when they meet more
stalls in a row than that, with the last of these. -/
theorem transfers_give_up (ρ τ : Type) [ReadPeer ρ] :
    (∀ (write : Writing τ) (counters : List Counter) (start : Draining τ),
      start.Plain write counters →
        let drained := start.buffer.drain write counters start.sink start.world
        ∃ calls, (Draining.effort write counters).Concludes
          (drained.result = .error .noProgress) start calls
          ⟨drained.buffer, drained.sink, drained.world⟩) ∧
    ∀ start : Filling ρ, start.Plain →
      let filled := start.buffer.fill start.source start.world
      ∃ calls, (Filling.effort ρ).Concludes (filled.result = .error .noProgress) start calls
        ⟨filled.buffer, filled.source, filled.world⟩ := by
  constructor
  · intro write counters start plain
    exact Buffer.drain_concludes counters start.buffer start.sink start.world plain
  · intro start plain
    exact Buffer.fill_concludes start.buffer start.source start.world plain

/-- A sink that puts every other write off, and takes one byte at a time. -/
def hesitant : Writing Bool := fun ready _ world =>
  ⟨if ready then .ok 1 else .error (.plain .wouldBlock), !ready, world⟩

/-- A reader that delivers one byte and then puts every read off. -/
def halting : RehearsedReader := ⟨0, [.deliver [1]], .failing (.plain .wouldBlock)⟩

theorem plain_hesitant (start : Draining Bool) : start.Plain hesitant [] := by
  intro call fault _ failed
  rw [Draining.answer, hesitant] at failed
  split at failed
  · cases failed
  · cases failed
    trivial

theorem plain_halting (buffer : Buffer) (world : World) :
    Filling.Plain ⟨buffer, .peer halting, world⟩ := by
  apply Filling.plain_of fun source =>
    source = .peer halting ∨ source = .peer { halting with cues := [] }
  · rintro source wanted world (rfl | rfl)
    · cases wanted with
      | zero => exact .inl rfl
      | succ wanted =>
        right
        simp [Source.read, ReadPeer.read, RehearsedReader.read, halting]
    · exact .inr rfl
  · rintro source wanted world fault (rfl | rfl) failed
    · cases failed
    · cases failed
      trivial
  · exact .inl rfl

/-- Two bytes go out although every other write is put off; a fill that gets one byte and then none
gives up. -/
theorem transfers_give_up_sample :
    (∃ calls, (Draining.effort hesitant []).Concludes False
      ⟨.ofBytes [7, 8], false, World.initial⟩ calls
      ⟨(Buffer.ofBytes [7, 8]).consume 2, false, World.initial⟩) ∧
    ∃ calls last, (Filling.effort RehearsedReader).Concludes True
      ⟨.zeroed 2, .peer halting, World.initial⟩ calls last := by
  obtain ⟨drains, fills⟩ := transfers_give_up RehearsedReader Bool
  have drained := drains hesitant [] ⟨.ofBytes [7, 8], false, World.initial⟩ (plain_hesitant _)
  have filled := fills ⟨.zeroed 2, .peer halting, World.initial⟩ (plain_halting _ _)
  have gone : ((Buffer.ofBytes [7, 8]).drain hesitant [] false World.initial) =
      ⟨.ok 2, 2, (Buffer.ofBytes [7, 8]).consume 2, false, World.initial⟩ := by cbv
  have stuck : ((Buffer.zeroed 2).fill (.peer halting) World.initial).result =
      .error .noProgress := by cbv
  simp only [gone, reduceCtorEq] at drained
  simp only [stuck] at filled
  exact ⟨drained, filled.imp fun _ concludes => ⟨_, concludes⟩⟩

end Conduit
