import Conduit.Proofs.Transfer.Pouring
import Conduit.Proofs.World.Likeness
import Conduit.Sink.Pull

set_option autoImplicit false

namespace Conduit

variable {Like : World → World → Prop}

/-- Two fills end the same, and the same bytes came into both buffers. -/
structure Filled.Matches {ρ : Type} (Like : World → World → Prop) (one other : Buffer)
    (filled mirror : Filled ρ) : Prop where
  result : filled.result = mirror.result
  buffer : ∃ bytes, filled.buffer = one.append bytes ∧ mirror.buffer = other.append bytes
  source : filled.source = mirror.source
  world : Like filled.world mirror.world

/-- Two drains end the same, and both buffers lost as many bytes. -/
structure Drained.Matches {τ : Type} (Like : World → World → Prop) (one other : Buffer)
    (drained mirror : Drained τ) : Prop where
  result : drained.result = mirror.result
  reported : drained.reported = mirror.reported
  buffer : ∃ count, drained.buffer = one.consume count ∧ mirror.buffer = other.consume count
  sink : drained.sink = mirror.sink
  world : Like drained.world mirror.world

/-- Writes to a sink go the same way in worlds that are alike. -/
def Writing.Matches {τ : Type} (Like : World → World → Prop) (write : Writing τ) : Prop :=
  ∀ (sink : τ) (bytes : Bytes) {world other : World}, Like world other →
    (write sink bytes world).Matches Like (write sink bytes other)

namespace Filled.Matches

variable {ρ : Type} {one other : Buffer} {filled mirror : Filled ρ}

theorem start (result : Except BufferFault Nat) (source : Source ρ) {world later : World}
    (like : Like world later) :
    Filled.Matches Like one other ⟨result, one, source, world⟩ ⟨result, other, source, later⟩ :=
  ⟨rfl, ⟨[], (one.append_nil).symm, (other.append_nil).symm⟩, rfl, like⟩

theorem append {first : Bytes}
    (same : Filled.Matches Like (one.append first) (other.append first) filled mirror) :
    Filled.Matches Like one other filled mirror := by
  obtain ⟨bytes, left, right⟩ := same.buffer
  rw [Buffer.append_append] at left right
  exact { same with buffer := ⟨first ++ bytes, left, right⟩ }

end Filled.Matches

namespace Drained.Matches

variable {τ : Type} {one other : Buffer} {drained mirror : Drained τ}

theorem start (result : Except BufferFault Nat) (reported : Nat) (sink : τ) {world later : World}
    (like : Like world later) :
    Drained.Matches Like one other ⟨result, reported, one, sink, world⟩
      ⟨result, reported, other, sink, later⟩ :=
  ⟨rfl, rfl, ⟨0, (one.consume_zero).symm, (other.consume_zero).symm⟩, rfl, like⟩

theorem consume {first : Nat}
    (same : Drained.Matches Like (one.consume first) (other.consume first) drained mirror) :
    Drained.Matches Like one other drained mirror := by
  obtain ⟨count, left, right⟩ := same.buffer
  rw [Buffer.consume_consume] at left right
  exact { same with buffer := ⟨first + count, left, right⟩ }

end Drained.Matches

namespace Buffer

variable (likeness : World.Likeness Like)

include likeness

section

variable {ρ : Type} [ReadPeer ρ]

theorem fillLoop_matches {one other : Buffer} (room : one.freeLen = other.freeLen)
    (source : Source ρ) {world later : World} (like : Like world later) (patience total : Nat) :
    Filled.Matches Like one other (fillLoop one source world patience total)
      (fillLoop other source later patience total) := by
  have reads := source.read_matches likeness other.freeLen like
  unfold fillLoop
  simp only [room, reads.answer, reads.after]
  split
  · exact .start _ _ reads.world
  · rename_i first rest answer
    have left : (one.append (first :: rest)).freeLen = (other.append (first :: rest)).freeLen := by
      rw [freeLen_append, freeLen_append, room]
    have full : (one.append (first :: rest)).isFull = (other.append (first :: rest)).isFull := by
      rw [isFull, isFull, left]
    rw [full]
    split
    · exact .append (.start _ _ reads.world)
    · rename_i roomy
      have shrinks : (one.append (first :: rest)).freeLen < one.freeLen := by
        have less := freeLen_append one (first :: rest)
        simp only [isFull, beq_iff_eq, List.length_cons] at roomy less
        omega
      exact .append (fillLoop_matches left _ reads.world stallLimit _)
  · split
    · cases again : patience with
      | zero => exact .start _ _ reads.world
      | succ fewer => exact fillLoop_matches room _ reads.world fewer total
    · exact .start _ _ reads.world
termination_by (one.freeLen, patience)
decreasing_by
  · exact Prod.Lex.left _ _ shrinks
  · rw [again]
    exact Prod.Lex.right _ (Nat.lt_succ_self _)

variable {one other : Buffer} (room : one.freeLen = other.freeLen)

include room

theorem fill_matches (source : Source ρ) {world later : World} (like : Like world later) :
    Filled.Matches Like one other (one.fill source world) (other.fill source later) := by
  unfold fill isFull
  rw [room]
  split
  · exact .start _ _ like
  · exact fillLoop_matches likeness room source like stallLimit 0

theorem fillOnceLoop_matches (counters : List Counter) (source : Source ρ) {world later : World}
    (like : Like world later) (retries : Nat) :
    Option.Rel (Filled.Matches Like one other) (fillOnceLoop counters one source world retries)
      (fillOnceLoop counters other source later retries) := by
  have reads := source.read_matches likeness other.freeLen like
  unfold fillOnceLoop
  simp only [room, reads.answer, reads.after]
  split
  · exact .some ⟨rfl, ⟨_, rfl, rfl⟩, rfl, likeness.count reads.world _ _⟩
  · split
    · cases retries with
      | zero => exact .none
      | succ fewer => exact fillOnceLoop_matches counters _ reads.world fewer
    · exact .some (.start _ _ reads.world)

theorem fillOnce_matches (retries : Nat) (counters : List Counter) (source : Source ρ)
    {world later : World} (like : Like world later) :
    Option.Rel (Filled.Matches Like one other) (one.fillOnce retries counters source world)
      (other.fillOnce retries counters source later) := by
  unfold fillOnce isFull
  rw [room]
  split
  · exact .some (.start _ _ like)
  · exact fillOnceLoop_matches likeness room counters source like retries

omit room in
theorem fillExactlyLoop_matches (retries : Nat) (one other : Buffer) (source : Source ρ)
    {world later : World} (like : Like world later) (wanted missing patience : Nat) :
    Option.Rel (Filled.Matches Like one other)
      (fillExactlyLoop retries one source world wanted missing patience)
      (fillExactlyLoop retries other source later wanted missing patience) := by
  unfold fillExactlyLoop
  cases less : missing with
  | zero => exact .some (.start _ _ like)
  | succ missing =>
    have reads := source.read_matches likeness (missing + 1) like
    simp only [reads.answer, reads.after]
    split
    · exact .some (.start _ _ reads.world)
    · rename_i first rest answer
      have more := fillExactlyLoop_matches retries (one.append (first :: rest))
        (other.append (first :: rest)) (source.read (missing + 1) later).after reads.world wanted
        (missing - rest.length) retries
      exact more.mono fun _ _ same => same.append
    · split
      · cases again : patience with
        | zero => exact .none
        | succ fewer =>
          exact fillExactlyLoop_matches retries one other _ reads.world wanted (missing + 1) fewer
      · exact .some (.start _ _ reads.world)
termination_by (missing, patience)
decreasing_by
  · apply Prod.Lex.left
    rw [less]
    exact Nat.lt_succ_of_le (Nat.sub_le _ _)
  · rw [less, again]
    exact Prod.Lex.right _ (Nat.lt_succ_self _)

theorem fillExactly_matches (retries : Nat) (source : Source ρ) {world later : World}
    (like : Like world later) (wanted : Nat) :
    Option.Rel (Filled.Matches Like one other) (one.fillExactly retries source world wanted)
      (other.fillExactly retries source later wanted) := by
  unfold fillExactly
  rw [room]
  split
  · exact .some (.start _ _ like)
  · exact fillExactlyLoop_matches likeness retries one other source like wanted wanted retries

end

variable {τ : Type} {write : Writing τ} (writes : Writing.Matches Like write)

include writes

theorem drainLoop_matches (counters : List Counter) {one other : Buffer}
    (unread : one.unread = other.unread) (sink : τ) {world later : World} (like : Like world later)
    (patience total reported : Nat) :
    Drained.Matches Like one other
      (drainLoop write counters one sink world patience total reported)
      (drainLoop write counters other sink later patience total reported) := by
  have wrote := writes sink other.unread like
  unfold drainLoop
  simp only [unread, wrote.answer, wrote.after]
  split
  · cases again : patience with
    | zero => exact .start _ _ _ wrote.world
    | succ fewer => exact drainLoop_matches counters unread _ wrote.world fewer total reported
  · rename_i less answer
    have left : (one.consume (less + 1)).unread = (other.consume (less + 1)).unread := by
      simp only [consume, unread]
    have empty : (one.consume (less + 1)).isEmpty = (other.consume (less + 1)).isEmpty := by
      rw [isEmpty, isEmpty, left]
    rw [empty]
    have counted := likeness.count wrote.world counters (less + 1)
    split
    · exact .consume (.start _ _ _ counted)
    · rename_i remains
      have shrinks : (one.consume (less + 1)).unread.length < one.unread.length := by
        rw [isEmpty, ← left, List.isEmpty_iff] at remains
        simp only [consume, List.drop_eq_nil_iff, Nat.not_le] at remains
        simp only [consume, List.length_drop]
        omega
      exact .consume (drainLoop_matches counters left _ counted stallLimit _ _)
  · split
    · cases again : patience with
      | zero => exact .start _ _ _ wrote.world
      | succ fewer => exact drainLoop_matches counters unread _ wrote.world fewer total reported
    · exact .start _ _ _ wrote.world
termination_by (one.unread.length, patience)
decreasing_by
  · rw [again]
    exact Prod.Lex.right _ (Nat.lt_succ_self _)
  · exact Prod.Lex.left _ _ shrinks
  · rw [again]
    exact Prod.Lex.right _ (Nat.lt_succ_self _)

variable {one other : Buffer} (unread : one.unread = other.unread)

include unread

theorem drain_matches (counters : List Counter) (sink : τ) {world later : World}
    (like : Like world later) :
    Drained.Matches Like one other (one.drain write counters sink world)
      (other.drain write counters sink later) := by
  unfold drain isEmpty
  rw [unread]
  split
  · exact .start _ _ _ like
  · exact drainLoop_matches likeness writes counters unread sink like stallLimit 0 0

omit likeness in
theorem drainOnceLoop_matches (sink : τ) {world later : World} (like : Like world later)
    (retries : Nat) :
    Option.Rel (Drained.Matches Like one other) (drainOnceLoop write one sink world retries)
      (drainOnceLoop write other sink later retries) := by
  have wrote := writes sink other.unread like
  unfold drainOnceLoop
  simp only [unread, wrote.answer, wrote.after]
  split
  · exact .some ⟨rfl, rfl, ⟨_, rfl, rfl⟩, rfl, wrote.world⟩
  · split
    · cases retries with
      | zero => exact .none
      | succ fewer => exact drainOnceLoop_matches _ wrote.world fewer
    · exact .some (.start _ _ _ wrote.world)

omit likeness in
theorem drainOnce_matches (retries : Nat) (sink : τ) {world later : World}
    (like : Like world later) :
    Option.Rel (Drained.Matches Like one other) (one.drainOnce retries write sink world)
      (other.drainOnce retries write sink later) := by
  unfold drainOnce isEmpty
  rw [unread]
  split
  · exact .some (.start _ _ _ like)
  · exact drainOnceLoop_matches writes unread sink like retries

end Buffer

section

variable (likeness : World.Likeness Like)

include likeness

theorem Staged.settle_matches {τ : Type} {send : Writing τ} (sends : Writing.Matches Like send)
    (staged : Staged τ) {world other : World} (like : Like world other) :
    (staged.settle send world).Matches Like (staged.settle send other) := by
  have drains := Buffer.drain_matches likeness sends (rfl : staged.buffer.unread = _) []
    staged.inner like
  obtain ⟨count, left, right⟩ := drains.buffer
  unfold settle
  split
  · exact ⟨rfl, rfl, like⟩
  · simp only [drains.result, drains.sink, left, right]
    split <;> exact ⟨rfl, rfl, drains.world⟩

theorem Staged.write_matches {τ : Type} {send : Writing τ} (sends : Writing.Matches Like send)
    (staged : Staged τ) (bytes : Bytes) {world other : World} (like : Like world other) :
    (staged.write send bytes world).Matches Like (staged.write send bytes other) := by
  have settles := settle_matches likeness sends staged like
  unfold write
  split
  · exact ⟨rfl, rfl, like⟩
  · split
    · simp only [settles.answer, settles.after]
      split
      · exact ⟨rfl, rfl, settles.world⟩
      · have sent := sends (staged.settle send other).after.inner bytes settles.world
        simp only [sent.answer, sent.after]
        exact ⟨rfl, rfl, sent.world⟩
    · exact ⟨rfl, rfl, like⟩

/-- A sink is written to in the same way in worlds that are alike. -/
theorem Sink.write_matches {σ : Type} [WritePeer σ] (depth : Nat) :
    Writing.Matches Like (Sink.write (σ := σ) depth) := by
  induction depth with
  | zero =>
    intro sink bytes world other like
    cases sink with
    | peer writer => exact ⟨rfl, rfl, likeness.record like _⟩
    | descriptor fd =>
      simp only [write, likeness.kernel like]
      exact ⟨rfl, rfl, likeness.inKernel like _⟩
    | shared handle =>
      simp only [write, likeness.shared like]
      exact ⟨rfl, rfl, likeness.setShared like _ _⟩
  | succ depth ih =>
    intro sink bytes world other like
    cases sink with
    | counted counters total inner =>
      have beneath := ih inner bytes like
      simp only [write, beneath.answer, beneath.after]
      split
      · exact ⟨rfl, rfl, likeness.count beneath.world _ _⟩
      · exact ⟨rfl, rfl, beneath.world⟩
    | plain inner => exact (ih inner bytes like).through Sink.plain
    | staged buffer inner =>
      exact (Staged.write_matches likeness ih ⟨inner, buffer⟩ bytes like).through ofStaged

theorem AnySink.write_matches {σ : Type} [WritePeer σ] :
    Writing.Matches Like (AnySink.write (σ := σ)) :=
  fun sink bytes _ _ like => (Sink.write_matches likeness sink.1 sink.2 bytes like).through _

end

end Conduit
