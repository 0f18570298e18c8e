import Conduit.Proofs.Sink.Landing
import Conduit.Proofs.Transfer.Draining
import Conduit.Staged

set_option autoImplicit false

namespace Conduit

/-- A sink and the bytes that it has accepted, as its own answers say. -/
structure Accepting (τ : Type) where
  sink : τ
  accepted : Bytes

namespace Accepting

variable {τ : Type}

/-- Writes to the sink. What it accepts is what it says it took; a write that fails took nothing. -/
def write (send : Writing τ) : Writing (Accepting τ) := fun sink bytes world =>
  let wrote := send sink.sink bytes world
  ⟨wrote.answer, ⟨wrote.after, sink.accepted ++ Sink.accepted bytes wrote.answer⟩, wrote.world⟩

def flush (flushSink : τ → World → Called τ Unit) (sink : Accepting τ) (world : World) :
    Called (Accepting τ) Unit :=
  (flushSink sink.sink world).through fun last => { sink with sink := last }

end Accepting

namespace Staged

variable {τ : Type}

section

variable (send : Writing τ)

/-- What the sink has accepted, and behind it what waits in the buffer. -/
def log (staged : Staged (Accepting τ)) : Bytes :=
  staged.inner.accepted ++ staged.buffer.unread

/-- Sending the buffer out leaves the log as it is, and nothing waits any more if that succeeds.
What outlasts writes outlasts it. -/
theorem settle_keeps (staged : Staged (Accepting τ)) (world : World)
    (Holds : Accepting τ → World → Prop)
    (write : ∀ sink world bytes, Holds sink world →
      Holds (sink.write send bytes world).after (sink.write send bytes world).world)
    (holds : Holds staged.inner world) :
    let settled := staged.settle (Accepting.write send) world
    settled.after.log = staged.log ∧ Holds settled.after.inner settled.world ∧
      (settled.answer = .ok () → settled.after.buffer.unread = []) := by
  intro settled
  by_cases empty : staged.buffer.isEmpty
  · have still : settled = ⟨.ok (), staged, world⟩ := by
      show staged.settle (Accepting.write send) world = _
      rw [settle, if_pos empty]
    rw [still]
    exact ⟨rfl, holds, fun _ => List.isEmpty_iff.mp empty⟩
  have rule : Buffer.DrainRule (Accepting.write send) [] fun _ left _ sink world =>
      sink.accepted ++ left = staged.log ∧ Holds sink world := by
    apply Buffer.DrainRule.steady
    · rintro left reported sink world taken ⟨whole, holds⟩ _ answer
      rw [World.count_nil]
      refine ⟨?_, write sink world left holds⟩
      have took : (send sink.sink left world).answer = .ok taken := answer
      show sink.accepted ++ Sink.accepted left (send sink.sink left world).answer ++ _ = _
      rw [took, Sink.accepted, List.append_assoc, List.take_append_drop]
      exact whole
    · rintro left reported sink world fault ⟨whole, holds⟩ _ answer
      refine ⟨?_, write sink world left holds⟩
      have failed : (send sink.sink left world).answer = .error fault := answer
      show sink.accepted ++ Sink.accepted left (send sink.sink left world).answer ++ _ = _
      rw [failed, Sink.accepted, List.append_nil]
      exact whole
  have ends := rule.drain staged.buffer staged.inner world
    (fun none => empty (List.isEmpty_iff.mpr none)) ⟨rfl, holds⟩
  generalize drained_eq : staged.buffer.drain (Accepting.write send) [] staged.inner world =
    drained at ends
  obtain ⟨_, whole, still⟩ := ends.holds
  have settled_eq : settled = staged.settle (Accepting.write send) world := rfl
  rw [settle, if_neg empty, drained_eq] at settled_eq
  cases result : drained.result with
  | ok total =>
    simp only [result] at settled_eq
    rw [(ends.ok result).1] at whole
    rw [settled_eq]
    exact ⟨whole, still, fun _ => rfl⟩
  | error fault =>
    simp only [result] at settled_eq
    rw [settled_eq]
    exact ⟨whole, still, fun ok => by cases ok⟩

/-- A sink accepted these bytes in order, all of them if it is said to have succeeded and not all if
it failed. -/
def Sends (sink : Accepting τ) (bytes : Bytes) (wrote : Called (Accepting τ) Unit) : Prop :=
  ∃ sent rest, bytes = sent ++ rest ∧ wrote.after.accepted = sink.accepted ++ sent ∧
    (rest = [] ↔ wrote.answer = .ok ())

theorem Sends.took {sink next : Accepting τ} {front back : Bytes}
    {wrote : Called (Accepting τ) Unit} (took : next.accepted = sink.accepted ++ front)
    (sends : Sends next back wrote) : Sends sink (front ++ back) wrote := by
  obtain ⟨sent, rest, split, accepted, all⟩ := sends
  refine ⟨front ++ sent, rest, ?_, ?_, all⟩
  · rw [split, List.append_assoc]
  · rw [accepted, took, List.append_assoc]

theorem Sends.refused {sink last : Accepting τ} {bytes : Bytes} {world : World} {fault : IoFault}
    (some : bytes ≠ []) (same : last.accepted = sink.accepted) :
    Sends sink bytes ⟨.error fault, last, world⟩ := by
  refine ⟨[], bytes, rfl, ?_, fun none => absurd none some, nofun⟩
  rw [List.append_nil]
  exact same

theorem accepted_write (sink : Accepting τ) (bytes : Bytes) (world : World) :
    (sink.write send bytes world).after.accepted =
      sink.accepted ++ Sink.accepted bytes (sink.write send bytes world).answer := rfl

theorem writeAll_sends (retries : Nat) (bytes : Bytes) (sink : Accepting τ) (world : World)
    (patience : Nat) (wrote : Called (Accepting τ) Unit)
    (ended : writeAll retries (Accepting.write send) bytes sink world patience = some wrote) :
    Sends sink bytes wrote := by
  induction bytes, sink, world, patience
      using writeAll.induct retries (Accepting.write send) with
  | case1 sink world patience =>
    unfold writeAll at ended
    cases ended
    exact ⟨[], [], rfl, (List.append_nil _).symm, fun _ => rfl, fun _ => rfl⟩
  | case2 sink world patience first rest tried none =>
    simp only [tried] at none
    unfold writeAll at ended
    simp only [none, Option.some.injEq] at ended
    subst ended
    apply Sends.refused (List.cons_ne_nil first rest)
    rw [accepted_write, none]
    exact List.append_nil _
  | case3 sink world patience first rest tried less took ih =>
    simp only [tried] at took ih
    unfold writeAll at ended
    simp only [took] at ended
    have sends := ih ended
    rw [show first :: rest = (first :: rest).take (less + 1) ++ rest.drop less by
      rw [← List.drop_succ_cons, List.take_append_drop]]
    apply sends.took
    rw [accepted_write, took]
    rfl
  | case4 sink world first rest tried fault failed interrupted =>
    simp only [tried] at failed
    unfold writeAll at ended
    simp only [failed, interrupted, if_true, reduceCtorEq] at ended
  | case5 sink world first rest tried fault failed interrupted patience ih =>
    simp only [tried] at failed ih
    unfold writeAll at ended
    simp only [failed, interrupted, if_true] at ended
    have same : (sink.write send (first :: rest) world).after.accepted = sink.accepted ++ [] := by
      rw [accepted_write, failed]
      rfl
    exact (ih ended).took same
  | case6 sink world patience first rest tried fault failed hard =>
    simp only [tried] at failed
    unfold writeAll at ended
    simp only [failed, hard, Bool.false_eq_true, if_false, Option.some.injEq] at ended
    subst ended
    apply Sends.refused (List.cons_ne_nil first rest)
    rw [accepted_write, failed]
    exact List.append_nil _

theorem log_append (sink : Accepting τ) (buffer : Buffer) (bytes : Bytes)
    (fits : bytes.length ≤ buffer.freeLen) :
    (⟨sink, buffer.append bytes⟩ : Staged (Accepting τ)).log =
      (⟨sink, buffer⟩ : Staged (Accepting τ)).log ++ bytes := by
  simp only [log, Buffer.append, List.take_of_length_le fits, List.append_assoc]

/-- Once nothing waits in the buffer, the log grows by what the sink accepts. -/
theorem log_through {staged : Staged (Accepting τ)} {last : Accepting τ} {bytes : Bytes}
    (clear : staged.buffer.unread = []) (grown : last.accepted = staged.inner.accepted ++ bytes) :
    (⟨last, staged.buffer⟩ : Staged (Accepting τ)).log = staged.log ++ bytes := by
  rw [log, log, clear, grown, List.append_nil, List.append_nil]

theorem log_settle (staged : Staged (Accepting τ)) (world : World) :
    (staged.settle (Accepting.write send) world).after.log = staged.log :=
  (settle_keeps send staged world (fun _ _ => True) (fun _ _ _ _ => trivial) trivial).1

theorem settle_clears {staged : Staged (Accepting τ)} {world : World}
    (ok : (staged.settle (Accepting.write send) world).answer = .ok ()) :
    (staged.settle (Accepting.write send) world).after.buffer.unread = [] :=
  (settle_keeps send staged world (fun _ _ => True) (fun _ _ _ _ => trivial) trivial).2.2 ok

/-- A write adds exactly the bytes that it says it took. -/
theorem log_write (staged : Staged (Accepting τ)) (bytes : Bytes) (world : World) :
    let wrote := staged.write (Accepting.write send) bytes world
    wrote.after.log = staged.log ++ Sink.accepted bytes wrote.answer := by
  intro wrote
  have wrote_eq : wrote = staged.write (Accepting.write send) bytes world := rfl
  rw [write] at wrote_eq
  by_cases none : bytes.isEmpty
  · rw [if_pos none] at wrote_eq
    rw [wrote_eq]
    exact (List.append_nil _).symm
  rw [if_neg none] at wrote_eq
  by_cases tight : staged.buffer.freeLen < bytes.length
  · rw [if_pos tight] at wrote_eq
    have kept := log_settle send staged world
    cases answer : (staged.settle (Accepting.write send) world).answer with
    | error fault =>
      simp only [answer] at wrote_eq
      rw [wrote_eq, kept]
      exact (List.append_nil _).symm
    | ok _ =>
      simp only [answer] at wrote_eq
      rw [wrote_eq, ← kept]
      exact log_through (settle_clears send answer) (accepted_write send _ bytes _)
  · rw [if_neg tight] at wrote_eq
    have fits : bytes.length ≤ staged.buffer.freeLen := Nat.le_of_not_lt tight
    have some : 0 < bytes.length := by
      rw [List.length_pos_iff]
      exact fun empty => none (List.isEmpty_iff.mpr empty)
    have roomy : ¬ staged.buffer.isFull := by
      rw [Buffer.isFull, beq_iff_eq]
      omega
    rw [Buffer.write, if_neg none, if_neg roomy] at wrote_eq
    rw [wrote_eq]
    refine (log_append staged.inner staged.buffer bytes fits).trans ?_
    show _ = _ ++ bytes.take (min bytes.length staged.buffer.freeLen)
    rw [Nat.min_eq_left fits, List.take_length]

/-- Bytes that are written as a whole are added whole, or some first part of them if that fails. -/
theorem log_writeWhole {retries : Nat} {staged : Staged (Accepting τ)} {bytes : Bytes}
    {world : World} {wrote : Called (Staged (Accepting τ)) Nat}
    (ended : staged.writeWhole (Accepting.write send) retries bytes world = some wrote) :
    ∃ sent, sent <+: bytes ∧ wrote.after.log = staged.log ++ sent ∧
      ∀ count, wrote.answer = .ok count → sent = bytes := by
  have gathered : ∀ staged : Staged (Accepting τ), bytes.length ≤ staged.buffer.freeLen →
      (⟨staged.inner, (staged.buffer.writeAll bytes).2⟩ : Staged (Accepting τ)).log =
        staged.log ++ bytes := by
    intro staged fits
    rw [Buffer.writeAll, if_neg (Nat.not_lt.mpr fits)]
    exact log_append staged.inner staged.buffer bytes fits
  rw [writeWhole] at ended
  by_cases fits : bytes.length ≤ staged.buffer.freeLen
  · rw [if_pos fits] at ended
    cases ended
    exact ⟨bytes, List.prefix_refl bytes, gathered staged fits, fun _ _ => rfl⟩
  rw [if_neg fits] at ended
  have kept := log_settle send staged world
  cases answer : (staged.settle (Accepting.write send) world).answer with
  | error fault =>
    simp only [answer, Option.some.injEq] at ended
    subst ended
    refine ⟨[], List.nil_prefix, ?_, fun count ok => by cases ok⟩
    rw [List.append_nil]
    exact kept
  | ok _ =>
    simp only [answer] at ended
    rw [← kept]
    split at ended
    · rename_i roomy
      cases ended
      exact ⟨bytes, List.prefix_refl bytes, gathered _ roomy, fun _ _ => rfl⟩
    · obtain ⟨through, passed, rfl⟩ := Option.map_eq_some_iff.mp ended
      obtain ⟨sent, rest, split, accepted, all⟩ := writeAll_sends send retries bytes _ _ _ _ passed
      refine ⟨sent, ⟨rest, split.symm⟩, log_through (settle_clears send answer) accepted, ?_⟩
      intro count ok
      cases result : through.answer with
      | error fault =>
        simp only [result, Except.map, reduceCtorEq] at ok
      | ok _ =>
        rw [all.mpr result, List.append_nil] at split
        exact split.symm

theorem log_writeByte {retries : Nat} {staged : Staged (Accepting τ)} {byte : UInt8}
    {world : World} {wrote : Called (Staged (Accepting τ)) Unit}
    (ended : staged.writeByte (Accepting.write send) retries byte world = some wrote) :
    wrote.after.log = staged.log ++
      match wrote.answer with
      | .ok () => [byte]
      | .error _ => [] := by
  -- The buffer is sent out only when it is full; either way the log is what it was.
  have begun : ∃ settled : Called (Staged (Accepting τ)) Unit,
      (if staged.buffer.isFull then staged.settle (Accepting.write send) world
        else ⟨.ok (), staged, world⟩) = settled ∧ settled.after.log = staged.log ∧
      (settled.answer = .ok () → settled.after.buffer.isFull →
        settled.after.buffer.unread = []) := by
    by_cases full : staged.buffer.isFull
    · rw [if_pos full]
      exact ⟨_, rfl, log_settle send staged world, fun ok _ => settle_clears send ok⟩
    · rw [if_neg full]
      exact ⟨_, rfl, rfl, fun _ still => absurd still full⟩
  obtain ⟨settled, settled_eq, kept, clear⟩ := begun
  rw [writeByte, settled_eq] at ended
  cases answer : settled.answer with
  | error fault =>
    simp only [answer, Option.some.injEq] at ended
    subst ended
    rw [kept]
    exact (List.append_nil _).symm
  | ok _ =>
    simp only [answer] at ended
    rw [← kept]
    by_cases full : settled.after.buffer.isFull
    · rw [if_pos full] at ended
      obtain ⟨through, passed, rfl⟩ := Option.map_eq_some_iff.mp ended
      obtain ⟨sent, rest, split, accepted, all⟩ := writeAll_sends send retries [byte] _ _ _ _ passed
      refine (log_through (clear answer full) accepted).trans (congrArg _ ?_)
      rcases List.append_eq_singleton_iff.mp split.symm with ⟨none, left⟩ | ⟨whole, none⟩
      · cases result : through.answer with
        | error fault => exact none
        | ok _ =>
          rw [all.mpr result] at left
          cases left
      · rw [all.mp none]
        exact whole
    · rw [if_neg full] at ended
      cases ended
      rw [Buffer.writeByte, if_neg full]
      apply log_append settled.after.inner settled.after.buffer [byte]
      rw [Buffer.isFull, beq_iff_eq] at full
      exact Nat.pos_of_ne_zero full

/-- Flushing adds nothing, and leaves nothing waiting if it succeeds. -/
theorem log_flush (flushSink : τ → World → Called τ Unit) (staged : Staged (Accepting τ))
    (world : World) :
    let flushed := staged.flush (Accepting.write send) (Accepting.flush flushSink) world
    flushed.after.log = staged.log ∧
      (flushed.answer = .ok () → flushed.after.buffer.unread = []) := by
  have kept := log_settle send staged world
  rw [flush]
  cases answer : (staged.settle (Accepting.write send) world).answer with
  | error fault =>
    simp only
    exact ⟨kept, nofun⟩
  | ok _ =>
    simp only
    exact ⟨kept, fun _ => settle_clears send answer⟩

theorem unread_freeBuffer (world : World) {buffer : Buffer} (clear : buffer.unread = []) :
    (world.freeBuffer buffer).1.unread = [] := by
  by_cases bare : buffer.capacity = 0
  · simp only [World.freeBuffer, Buffer.free, bare, if_true, clear]
  · cases owner : buffer.owner <;>
      simp only [World.freeBuffer, Buffer.free, bare, if_false, owner, Option.map_none,
        Option.map_some] <;> rfl

/-- Freeing the buffer adds nothing, and nothing waits after it if it succeeds. -/
theorem log_free (staged : Staged (Accepting τ)) (world : World) :
    let freed := staged.free (Accepting.write send) world
    freed.after.log = staged.log ∧ (freed.answer = .ok () → freed.after.buffer.unread = []) := by
  have kept := log_settle send staged world
  rw [free]
  cases answer : (staged.settle (Accepting.write send) world).answer with
  | error fault =>
    simp only
    exact ⟨kept, nofun⟩
  | ok _ =>
    have clear := settle_clears send answer
    have hollow := unread_freeBuffer (staged.settle (Accepting.write send) world).world clear
    simp only [giveUpBuffer]
    refine ⟨?_, fun _ => hollow⟩
    rw [← kept, log, log, clear, hollow]

end

end Staged

end Conduit
