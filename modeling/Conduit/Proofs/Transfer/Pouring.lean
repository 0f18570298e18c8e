import Conduit.Proofs.Buffer.Cursors
import Conduit.Proofs.Source.Stacks
import Conduit.Proofs.Transfer.Draining
import Conduit.Proofs.Transfer.Filling

set_option autoImplicit false

namespace Conduit

/-- Calls that are made again fail this many times in a row, each for an interruption. -/
def Interrupted {σ α : Type} (call : σ → World → Called σ α) : Nat → σ → World → Prop
  | 0, _, _ => True
  | times + 1, endpoint, world =>
    (∃ fault, (call endpoint world).answer = .error fault ∧ fault.isInterrupted = true) ∧
      Interrupted call times (call endpoint world).after (call endpoint world).world

namespace Buffer

theorem append_nil (buffer : Buffer) : buffer.append [] = buffer := by
  simp only [append, List.take_nil, List.append_nil, List.length_nil, List.drop_zero]

/-- Bytes that go in one after the other go in as if at once. -/
theorem append_append (buffer : Buffer) (first second : Bytes) :
    (buffer.append first).append second = buffer.append (first ++ second) := by
  have room := buffer.freeLen_append first
  generalize left : (buffer.append first).freeLen = less at room
  rw [append, left, room]
  simp only [append, List.take_append, List.append_assoc, List.drop_drop, List.length_append]

section

variable {ρ : Type} [ReadPeer ρ]

def Pours (buffer : Buffer) (source : Source ρ) (world : World) (bytes : Bytes) (filled : Buffer)
    (last : Source ρ) (later : World) : Prop :=
  ∃ sizes, (source.readEach sizes world).after = last ∧
    (source.readEach sizes world).world = later ∧
    (source.readEach sizes world).answers.flatMap ReadPeer.brought = bytes ∧
    bytes.length ≤ buffer.freeLen ∧ filled = buffer.append bytes

namespace Pours

variable {buffer filled : Buffer} {source after : Source ρ} {world later : World} {bytes : Bytes}

theorem nothing (buffer : Buffer) (source : Source ρ) (world : World) :
    buffer.Pours source world [] buffer source world :=
  ⟨[], rfl, rfl, rfl, Nat.zero_le _, (append_nil buffer).symm⟩

theorem call {wanted : Nat} {first : Bytes} (within : wanted ≤ buffer.freeLen)
    (brings : ReadPeer.brought (source.read wanted world).answer = first)
    (pours : (buffer.append first).Pours (source.read wanted world).after
      (source.read wanted world).world bytes filled after later) :
    buffer.Pours source world (first ++ bytes) filled after later := by
  obtain ⟨sizes, same, between, others, fits, result⟩ := pours
  refine ⟨wanted :: sizes, same, between, ?_, ?_, ?_⟩
  · rw [Source.readEach, List.flatMap_cons, others, brings]
  · have brought := (source.reads_read wanted world).length_le
    rw [brings] at brought
    rw [freeLen_append] at fits
    rw [List.length_append]
    omega
  · rw [result, append_append]

/-- A read that brings nothing comes first. -/
theorem idle {wanted : Nat} (within : wanted ≤ buffer.freeLen)
    (brings : ReadPeer.brought (source.read wanted world).answer = [])
    (pours : buffer.Pours (source.read wanted world).after (source.read wanted world).world bytes
      filled after later) :
    buffer.Pours source world bytes filled after later := by
  rw [← append_nil buffer] at pours
  exact call within brings pours

theorem last {wanted : Nat} {first : Bytes} (within : wanted ≤ buffer.freeLen)
    (brings : ReadPeer.brought (source.read wanted world).answer = first) :
    buffer.Pours source world first (buffer.append first) (source.read wanted world).after
      (source.read wanted world).world := by
  have all := call within brings (.nothing _ _ _)
  rwa [List.append_nil] at all

theorem puts (pours : buffer.Pours source world bytes filled after later) :
    buffer.Puts filled bytes := by
  obtain ⟨_, _, _, _, fits, rfl⟩ := pours
  exact .append buffer bytes fits

end Pours

/-- A fill puts in what its reads brought. -/
theorem fillLoop_pours (buffer : Buffer) (source : Source ρ) (world : World)
    (patience total : Nat) :
    let filled := buffer.fillLoop source world patience total
    ∃ bytes, buffer.Pours source world bytes filled.buffer filled.source filled.world ∧
      ∀ count, filled.result = .ok count → count = total + bytes.length := by
  induction buffer, source, world, patience, total using fillLoop.induct with
  | case1 buffer source world patience total reading ended =>
    unfold fillLoop
    simp only [reading] at ended
    simp only [ended]
    refine ⟨[], .idle (Nat.le_refl _) (congrArg ReadPeer.brought ended) (.nothing _ _ _), ?_⟩
    intro count same
    cases same
    rfl
  | case2 buffer source world patience total reading first rest some filled full =>
    unfold fillLoop
    simp only [reading, filled] at some full
    simp only [some, full, if_true]
    exact ⟨first :: rest, Pours.last (Nat.le_refl _) (congrArg ReadPeer.brought some),
      nofun⟩
  | case3 buffer source world patience total reading first rest some filled roomy ih =>
    unfold fillLoop
    simp only [reading, filled] at some roomy ih
    simp only [some, roomy, if_false, Bool.false_eq_true]
    obtain ⟨bytes, pours, counts⟩ := ih
    refine ⟨first :: rest ++ bytes,
      .call (Nat.le_refl _) (congrArg ReadPeer.brought some) pours, ?_⟩
    intro count ok
    have sum := counts count ok
    rw [List.length_append, List.length_cons]
    omega
  | case4 buffer source world total reading fault failed transient =>
    unfold fillLoop
    simp only [reading] at failed
    simp only [failed, transient, if_true]
    exact ⟨[], .idle (Nat.le_refl _) (congrArg ReadPeer.brought failed) (.nothing _ _ _), nofun⟩
  | case5 buffer source world total reading fault failed transient patience ih =>
    unfold fillLoop
    simp only [reading] at failed ih
    simp only [failed, transient, if_true]
    obtain ⟨bytes, pours, counts⟩ := ih
    exact ⟨bytes, .idle (Nat.le_refl _) (congrArg ReadPeer.brought failed) pours, counts⟩
  | case6 buffer source world patience total reading fault failed hard =>
    unfold fillLoop
    simp only [reading] at failed
    simp only [failed, hard, if_false, Bool.false_eq_true]
    exact ⟨[], .idle (Nat.le_refl _) (congrArg ReadPeer.brought failed) (.nothing _ _ _), nofun⟩

/-- What a fill by one read comes to: it puts in what the read brought, and counts it, unless it is
interrupted too often. -/
def PoursOnce (counters : List Counter) (buffer : Buffer) (source : Source ρ) (world : World)
    (retries : Nat) : Option (Filled ρ) → Prop
  | none =>
    Interrupted (fun last later => last.read buffer.freeLen later) (retries + 1) source world
  | some filled => ∃ bytes later,
      buffer.Pours source world bytes filled.buffer filled.source later ∧
      filled.world = later.count counters bytes.length ∧
      ∀ count, filled.result = .ok count → count = bytes.length

theorem filledFrom_pours (counters : List Counter) (buffer : Buffer) (source : Source ρ)
    (world : World) (retries : Nat) :
    PoursOnce counters buffer source world retries
      (some (buffer.filledFrom counters source world)) := by
  unfold filledFrom
  cases answer : (source.read buffer.freeLen world).answer with
  | ok bytes =>
    simp only [answer]
    refine ⟨bytes, _, .last (Nat.le_refl _) (congrArg ReadPeer.brought answer), rfl, ?_⟩
    intro count same
    cases same
    rfl
  | error fault =>
    simp only [answer]
    exact ⟨[], _, .idle (Nat.le_refl _) (congrArg ReadPeer.brought answer) (.nothing _ _ _), rfl,
      nofun⟩

theorem fillOnceLoop_pours (counters : List Counter) (buffer : Buffer) (source : Source ρ)
    (world : World) (retries : Nat) :
    PoursOnce counters buffer source world retries
      (buffer.fillOnceLoop counters source world retries) := by
  induction retries generalizing source world with
  | zero =>
    rcases settled_or_interrupted (source.read buffer.freeLen world).answer with
      settled | ⟨fault, failed, interrupted⟩
    · rw [fillOnceLoop_settled _ _ _ _ _ settled]
      exact filledFrom_pours counters buffer source world 0
    · rw [fillOnceLoop_interrupted _ _ _ _ _ failed interrupted]
      exact ⟨⟨fault, failed, interrupted⟩, trivial⟩
  | succ retries ih =>
    rcases settled_or_interrupted (source.read buffer.freeLen world).answer with
      settled | ⟨fault, failed, interrupted⟩
    · rw [fillOnceLoop_settled _ _ _ _ _ settled]
      exact filledFrom_pours counters buffer source world (retries + 1)
    · rw [fillOnceLoop_interrupted _ _ _ _ _ failed interrupted]
      have later := ih (source.read buffer.freeLen world).after
        (source.read buffer.freeLen world).world
      dsimp only
      cases ended : buffer.fillOnceLoop counters (source.read buffer.freeLen world).after
          (source.read buffer.freeLen world).world retries with
      | none =>
        rw [ended] at later
        exact ⟨⟨fault, failed, interrupted⟩, later⟩
      | some filled =>
        rw [ended] at later
        obtain ⟨bytes, between, pours, counts⟩ := later
        exact ⟨bytes, between,
          .idle (Nat.le_refl _) (congrArg ReadPeer.brought failed) pours, counts⟩

/-- What a fill with so many bytes comes to: it puts in what its reads brought, all of the bytes or
fewer if it fails, unless it is interrupted too often. -/
def PoursExactly (retries : Nat) (buffer : Buffer) (source : Source ρ) (world : World)
    (wanted missing patience : Nat) : Option (Filled ρ) → Prop
  | none =>
    Interrupted (fun last later => last.read missing later) (patience + 1) source world ∨
      ∃ sizes wanted, Interrupted (fun last later => last.read wanted later) (retries + 1)
        (source.readEach sizes world).after (source.readEach sizes world).world
  | some filled => ∃ bytes,
      buffer.Pours source world bytes filled.buffer filled.source filled.world ∧
      bytes.length ≤ missing ∧
      (∀ count, filled.result = .ok count → count = wanted ∧ bytes.length = missing) ∧
      ∀ fault, filled.result = .error fault → bytes.length < missing

namespace PoursExactly

variable {retries : Nat} {buffer : Buffer} {source : Source ρ} {world : World}
  {wanted missing patience : Nat}

/-- A read that fails comes first, and the rest goes on if it was interrupted. -/
theorem interrupted {result : Option (Filled ρ)} {fault : IoFault}
    (room : missing + 1 ≤ buffer.freeLen)
    (failed : (source.read (missing + 1) world).answer = .error fault)
    (again : fault.isInterrupted = true)
    (pours : PoursExactly retries buffer (source.read (missing + 1) world).after
      (source.read (missing + 1) world).world wanted (missing + 1) patience result) :
    PoursExactly retries buffer source world wanted (missing + 1) (patience + 1) result := by
  cases result with
  | none =>
    rcases pours with stuck | ⟨sizes, wanted, stuck⟩
    · exact .inl ⟨⟨fault, failed, again⟩, stuck⟩
    · exact .inr ⟨(missing + 1) :: sizes, wanted, stuck⟩
  | some filled =>
    obtain ⟨bytes, pours, rest⟩ := pours
    exact ⟨bytes, .idle room (congrArg ReadPeer.brought failed) pours, rest⟩

theorem progress {result : Option (Filled ρ)} {first : UInt8} {rest : Bytes}
    (room : missing + 1 ≤ buffer.freeLen)
    (answer : (source.read (missing + 1) world).answer = .ok (first :: rest))
    (pours : PoursExactly retries (buffer.append (first :: rest))
      (source.read (missing + 1) world).after (source.read (missing + 1) world).world wanted
      (missing - rest.length) retries result) :
    PoursExactly retries buffer source world wanted (missing + 1) patience result := by
  have brought := (source.reads_read (missing + 1) world).length_le
  rw [answer, ReadPeer.brought, List.length_cons] at brought
  cases result with
  | none =>
    rcases pours with stuck | ⟨sizes, wanted, stuck⟩
    · exact .inr ⟨[missing + 1], _, stuck⟩
    · exact .inr ⟨(missing + 1) :: sizes, wanted, stuck⟩
  | some filled =>
    obtain ⟨bytes, pours, within, counts, fails⟩ := pours
    have sum : (first :: rest ++ bytes).length = rest.length + 1 + bytes.length := by
      rw [List.length_append, List.length_cons]
    refine ⟨first :: rest ++ bytes, .call room (congrArg ReadPeer.brought answer) pours, ?_, ?_,
      ?_⟩
    · omega
    · intro count ok
      have all := counts count ok
      omega
    · intro fault failed
      have fewer := fails fault failed
      omega

theorem ended {filled : Filled ρ} {fault : BufferFault} (room : missing + 1 ≤ buffer.freeLen)
    (brings : ReadPeer.brought (source.read (missing + 1) world).answer = [])
    (result : filled = ⟨.error fault, buffer, (source.read (missing + 1) world).after,
      (source.read (missing + 1) world).world⟩) :
    PoursExactly retries buffer source world wanted (missing + 1) patience (some filled) := by
  subst result
  exact ⟨[], .idle room brings (.nothing _ _ _), Nat.zero_le _, nofun, fun _ _ => Nat.succ_pos _⟩

end PoursExactly

theorem fillExactlyLoop_pours (retries : Nat) (buffer : Buffer) (source : Source ρ)
    (world : World) (wanted missing patience : Nat) (room : missing ≤ buffer.freeLen) :
    PoursExactly retries buffer source world wanted missing patience
      (buffer.fillExactlyLoop retries source world wanted missing patience) := by
  induction buffer, source, world, missing, patience
      using @fillExactlyLoop.induct ρ _ retries with
  | case1 buffer source world patience =>
    unfold fillExactlyLoop
    refine ⟨[], .nothing _ _ _, Nat.le_refl _, fun count same => ?_, nofun⟩
    cases same
    exact ⟨rfl, rfl⟩
  | case2 buffer source world patience missing reading ended =>
    unfold fillExactlyLoop
    simp only [reading] at ended
    simp only [ended]
    exact .ended room (congrArg ReadPeer.brought ended) rfl
  | case3 buffer source world patience missing reading first rest some ih =>
    unfold fillExactlyLoop
    simp only [reading] at some ih
    simp only [some]
    apply PoursExactly.progress room some
    apply ih
    rw [freeLen_append, List.length_cons]
    omega
  | case4 buffer source world missing reading fault failed interrupted =>
    unfold fillExactlyLoop
    simp only [reading] at failed
    simp only [failed, interrupted, if_true]
    exact .inl ⟨⟨fault, failed, interrupted⟩, trivial⟩
  | case5 buffer source world missing reading fault failed interrupted patience ih =>
    unfold fillExactlyLoop
    simp only [reading] at failed ih
    simp only [failed, interrupted, if_true]
    exact .interrupted room failed interrupted (ih room)
  | case6 buffer source world patience missing reading fault failed hard =>
    unfold fillExactlyLoop
    simp only [reading] at failed
    simp only [failed, hard, if_false, Bool.false_eq_true]
    exact .ended room (congrArg ReadPeer.brought failed) rfl

end

section

variable {τ : Type}

/-- Writes handed bytes on, each of them offered all that those before it left, and the sink said
that it took so many. -/
inductive Hands (write : Writing τ) (counters : List Counter) (bytes : Bytes) (sink : τ)
    (world : World) : Nat → τ → World → Prop where
  | nothing : Hands write counters bytes sink world 0 sink world
  | took {sofar taken : Nat} {last : τ} {later : World}
    (hands : Hands write counters bytes sink world sofar last later)
    (some : bytes.drop sofar ≠ [])
    (answer : (write last (bytes.drop sofar) later).answer = .ok taken) :
    Hands write counters bytes sink world (sofar + taken)
      (write last (bytes.drop sofar) later).after
      ((write last (bytes.drop sofar) later).world.count counters taken)
  | failed {sofar : Nat} {last : τ} {later : World} {fault : IoFault}
    (hands : Hands write counters bytes sink world sofar last later)
    (some : bytes.drop sofar ≠ [])
    (answer : (write last (bytes.drop sofar) later).answer = .error fault) :
    Hands write counters bytes sink world sofar (write last (bytes.drop sofar) later).after
      (write last (bytes.drop sofar) later).world

theorem hands_rule (write : Writing τ) (counters : List Counter) (bytes : Bytes) (sink : τ)
    (world : World) :
    DrainRule write counters fun _ left reported last later =>
      Hands write counters bytes sink world reported last later ∧ left = bytes.drop reported := by
  apply DrainRule.steady
  · rintro left reported last later taken ⟨hands, rfl⟩ some answer
    exact ⟨.took hands some answer, List.drop_drop⟩
  · rintro left reported last later fault ⟨hands, rfl⟩ some answer
    exact ⟨.failed hands some answer, rfl⟩

theorem drain_hands (write : Writing τ) (counters : List Counter) (buffer : Buffer) (sink : τ)
    (world : World) (some : buffer.unread ≠ []) :
    let drained := buffer.drain write counters sink world
    ∃ taken, Hands write counters buffer.unread sink world taken drained.sink drained.world ∧
      buffer.Takes drained.buffer taken ∧
      ∀ count, drained.result = .ok count →
        count = buffer.unread.length ∧ drained.buffer.unread = [] := by
  intro drained
  have ends := (hands_rule write counters buffer.unread sink world).drain buffer sink world some
    ⟨.nothing, rfl⟩
  obtain ⟨⟨count, consumed⟩, counts⟩ := drain_consumes write counters buffer sink world some
  obtain ⟨_, hands, left⟩ := ends.holds
  have takes := Takes.consume buffer count
  rw [← consumed] at takes
  refine ⟨_, hands, ⟨left, takes.storage, takes.write, takes.size, takes.owner⟩, ?_⟩
  intro count ok
  exact ⟨counts count ok, (ends.ok ok).1⟩

/-- What a drain by one write comes to: it takes off what the write handed on, unless it is
interrupted too often. -/
def HandsOnce (write : Writing τ) (buffer : Buffer) (sink : τ) (world : World) (retries : Nat) :
    Option (Drained τ) → Prop
  | none => Interrupted (fun last later => write last buffer.unread later) (retries + 1) sink world
  | some drained => ∃ taken,
      Hands write [] buffer.unread sink world taken drained.sink drained.world ∧
      buffer.Takes drained.buffer taken ∧
      ∀ count, drained.result = .ok count → count = min taken buffer.unread.length

/-- A first write that hands nothing on may be left out. -/
theorem Hands.earlier {write : Writing τ} {bytes : Bytes} {sink last : τ} {world later : World}
    {taken : Nat} {fault : IoFault} (some : bytes ≠ [])
    (failed : (write sink bytes world).answer = .error fault)
    (hands : Hands write [] bytes (write sink bytes world).after (write sink bytes world).world
      taken last later) :
    Hands write [] bytes sink world taken last later := by
  induction hands with
  | nothing => exact .failed .nothing some failed
  | took _ left answer ih => exact .took ih left answer
  | failed _ left answer ih => exact .failed ih left answer

namespace HandsOnce

variable {write : Writing τ} {buffer : Buffer} {sink : τ} {world : World} {retries : Nat}

theorem took {taken : Nat} (some : buffer.unread ≠ [])
    (answer : (write sink buffer.unread world).answer = .ok taken) :
    HandsOnce write buffer sink world retries
      (.some ⟨.ok (min taken buffer.unread.length), taken, buffer.consume taken,
        (write sink buffer.unread world).after, (write sink buffer.unread world).world⟩) := by
  have first : Hands write [] buffer.unread sink world 0 sink world := .nothing
  have took := Hands.took first some answer
  rw [World.count_nil, Nat.zero_add] at took
  refine ⟨taken, took, .consume buffer taken, fun count same => ?_⟩
  cases same
  rfl

theorem refused {fault : IoFault} (some : buffer.unread ≠ [])
    (answer : (write sink buffer.unread world).answer = .error fault) :
    HandsOnce write buffer sink world retries
      (.some ⟨.error fault.toBuffer, 0, buffer, (write sink buffer.unread world).after,
        (write sink buffer.unread world).world⟩) := by
  have first : Hands write [] buffer.unread sink world 0 sink world := .nothing
  exact ⟨0, .failed first some answer, .refl buffer, nofun⟩

theorem interrupted {result : Option (Drained τ)} {fault : IoFault} (some : buffer.unread ≠ [])
    (answer : (write sink buffer.unread world).answer = .error fault)
    (again : fault.isInterrupted = true)
    (hands : HandsOnce write buffer (write sink buffer.unread world).after
      (write sink buffer.unread world).world retries result) :
    HandsOnce write buffer sink world (retries + 1) result := by
  cases result with
  | none => exact ⟨⟨fault, answer, again⟩, hands⟩
  | some drained =>
    obtain ⟨taken, hands, rest⟩ := hands
    exact ⟨taken, hands.earlier some answer, rest⟩

end HandsOnce

theorem drainOnceLoop_hands (write : Writing τ) (buffer : Buffer) (sink : τ) (world : World)
    (retries : Nat) (some : buffer.unread ≠ []) :
    HandsOnce write buffer sink world retries
      (buffer.drainOnceLoop write sink world retries) := by
  induction retries generalizing sink world with
  | zero =>
    rw [drainOnceLoop.eq_def]
    cases answer : (write sink buffer.unread world).answer with
    | ok taken =>
      simp only [answer]
      exact .took some answer
    | error fault =>
      cases again : fault.isInterrupted with
      | true =>
        simp only [answer, again, if_true]
        exact ⟨⟨fault, answer, again⟩, trivial⟩
      | false =>
        simp only [answer, again, Bool.false_eq_true, if_false]
        exact .refused some answer
  | succ retries ih =>
    rw [drainOnceLoop.eq_def]
    cases answer : (write sink buffer.unread world).answer with
    | ok taken =>
      simp only [answer]
      exact .took some answer
    | error fault =>
      cases again : fault.isInterrupted with
      | true =>
        simp only [answer, again, if_true]
        exact .interrupted some answer again (ih _ _)
      | false =>
        simp only [answer, again, Bool.false_eq_true, if_false]
        exact .refused some answer

end

end Buffer

end Conduit
