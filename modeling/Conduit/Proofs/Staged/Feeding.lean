import Conduit.Proofs.Rehearsal.Conduct
import Conduit.Proofs.Staged.Moving

set_option autoImplicit false

namespace Conduit

section

variable {ρ τ : Type} [ReadPeer ρ]

/-- What is asked of a source and a sink. A read brings the next bytes of the stream that is left,
and none only at its end, or else it is interrupted, which happens only so many times; a write of
some bytes takes some; and neither gets into the other's way. -/
structure Feeding (send : Writing τ) (Stays : Source ρ → τ → World → Bytes → Nat → Prop) :
    Prop where
  ok : ∀ {source sink world stream patience wanted bytes},
    Stays source sink world stream patience → 0 < wanted →
      (source.read wanted world).answer = .ok bytes → (bytes = [] → stream = []) ∧
        ∃ rest fewer, stream = bytes ++ rest ∧ fewer ≤ patience ∧
          Stays (source.read wanted world).after sink (source.read wanted world).world rest fewer
  error : ∀ {source sink world stream patience wanted fault},
    Stays source sink world stream patience → 0 < wanted →
      (source.read wanted world).answer = .error fault → fault.isInterrupted = true ∧
        ∃ fewer, fewer < patience ∧
          Stays (source.read wanted world).after sink (source.read wanted world).world stream fewer
  accepts : ∀ {source sink world stream patience bytes},
    Stays source sink world stream patience → bytes ≠ [] →
      (∃ less, (send sink bytes world).answer = .ok (less + 1)) ∧
        Stays source (send sink bytes world).after (send sink bytes world).world stream patience
  /-- Nor does a buffer that is let go. -/
  letGo : ∀ {source sink world stream patience}, Stays source sink world stream patience →
    ∀ buffer, Stays source sink (world.dropBuffer buffer) stream patience

/-- A source has this stream to give, with at most so many interruptions, next to a sink that always
accepts. -/
def Feeds (send : Writing τ) (source : Source ρ) (sink : τ) (world : World) (stream : Bytes)
    (patience : Nat) : Prop :=
  ∃ Stays : Source ρ → τ → World → Bytes → Nat → Prop,
    Feeding send Stays ∧ Stays source sink world stream patience

namespace Feeds

variable {send : Writing τ} {source : Source ρ} {sink : τ} {world : World} {stream : Bytes}
  {patience wanted : Nat}

theorem ok {bytes : Bytes} (feeds : Feeds send source sink world stream patience)
    (some : 0 < wanted) (success : (source.read wanted world).answer = .ok bytes) :
    (bytes = [] → stream = []) ∧ ∃ rest fewer, stream = bytes ++ rest ∧ fewer ≤ patience ∧
      Feeds send (source.read wanted world).after sink (source.read wanted world).world rest
        fewer := by
  obtain ⟨Stays, feeding, stays⟩ := feeds
  obtain ⟨last, rest, fewer, split, within, on⟩ := feeding.ok stays some success
  exact ⟨last, rest, fewer, split, within, Stays, feeding, on⟩

theorem error {fault : IoFault} (feeds : Feeds send source sink world stream patience)
    (some : 0 < wanted) (failed : (source.read wanted world).answer = .error fault) :
    fault.isInterrupted = true ∧ ∃ fewer, fewer < patience ∧
      Feeds send (source.read wanted world).after sink (source.read wanted world).world stream
        fewer := by
  obtain ⟨Stays, feeding, stays⟩ := feeds
  obtain ⟨interrupted, fewer, within, on⟩ := feeding.error stays some failed
  exact ⟨interrupted, fewer, within, Stays, feeding, on⟩

theorem accepts {bytes : Bytes} (feeds : Feeds send source sink world stream patience)
    (some : bytes ≠ []) : (∃ less, (send sink bytes world).answer = .ok (less + 1)) ∧
      Feeds send source (send sink bytes world).after (send sink bytes world).world stream
        patience := by
  obtain ⟨Stays, feeding, stays⟩ := feeds
  obtain ⟨took, on⟩ := feeding.accepts stays some
  exact ⟨took, Stays, feeding, on⟩

theorem letGo (feeds : Feeds send source sink world stream patience) (buffer : Buffer) :
    Feeds send source sink (world.dropBuffer buffer) stream patience := by
  obtain ⟨Stays, feeding, stays⟩ := feeds
  exact ⟨Stays, feeding, feeding.letGo stays buffer⟩

/-- A source over a live reader with a stream to give feeds any sink that, whatever it comes to,
accepts and leaves the shared buffers and the descriptors alone. The stream is what the source has
in stock and then what the live reader has to give. -/
theorem of_gives {tail : Bytes} (gives : source.Gives tail patience) (Willing : τ → Prop)
    (willing : Willing sink)
    (took : ∀ sink bytes world, Willing sink → bytes ≠ [] →
      (∃ less, (send sink bytes world).answer = .ok (less + 1)) ∧
        Willing (send sink bytes world).after ∧
        (send sink bytes world).world.stores = world.stores) :
    Feeds send source sink world (source.stock world.stores ++ tail) patience := by
  refine ⟨fun source sink world stream patience => Willing sink ∧ ∃ tail,
    source.Gives tail patience ∧ stream = source.stock world.stores ++ tail, ⟨?_, ?_, ?_, ?_⟩,
    willing, tail, gives, rfl⟩
  · rintro source sink world _ patience wanted bytes ⟨willing, tail, gives, rfl⟩ some success
    obtain ⟨none, rest, fewer, on, within, split⟩ := gives.read_ok some success
    exact ⟨none, _, fewer, split, within, willing, rest, on, rfl⟩
  · rintro source sink world _ patience wanted fault ⟨willing, tail, gives, rfl⟩ some failed
    obtain ⟨interrupted, rest, fewer, on, within, same⟩ := gives.read_error some failed
    exact ⟨interrupted, fewer, within, willing, rest, on, same⟩
  · rintro source sink world _ patience bytes ⟨willing, tail, gives, rfl⟩ some
    obtain ⟨accepts, on, apart⟩ := took sink bytes world willing some
    refine ⟨accepts, on, tail, gives, ?_⟩
    rw [apart]
  · rintro source sink world _ patience ⟨willing, tail, gives, rfl⟩ buffer
    refine ⟨willing, tail, gives, ?_⟩
    rw [World.stores_dropBuffer]

end Feeds

end

namespace Buffer

/-- The buffer was filled to its size, and all of that was read. -/
def Exhausted (buffer : Buffer) : Prop :=
  buffer.unread = [] ∧ buffer.size ≠ 0 ∧ buffer.freeLen = 0

variable {ρ τ : Type} [ReadPeer ρ] {send : Writing τ} {source : Source ρ} {sink : τ}
  {world : World} {stream : Bytes} {patience retries : Nat}

/-- A fill brought the next bytes of a stream, and none only at its end. -/
def FedBy (send : Writing τ) (buffer : Buffer) (sink : τ) (stream : Bytes) (patience : Nat)
    (filled : Filled ρ) : Prop :=
  ∃ bytes rest fewer, filled.result = .ok bytes.length ∧ filled.buffer = buffer.append bytes ∧
    bytes.length ≤ buffer.freeLen ∧ stream = bytes ++ rest ∧ (bytes = [] → stream = []) ∧
    fewer ≤ patience ∧ Feeds send filled.source sink filled.world rest fewer

theorem filledFrom_feeds (buffer : Buffer) (room : 0 < buffer.freeLen)
    (feeds : Feeds send source sink world stream patience)
    (settled : Settled (source.read buffer.freeLen world).answer) :
    FedBy send buffer sink stream patience (buffer.filledFrom [] source world) := by
  have fits := (source.reads_read buffer.freeLen world).length_le
  unfold filledFrom
  cases answer : (source.read buffer.freeLen world).answer with
  | ok bytes =>
    obtain ⟨last, rest, fewer, split, within, on⟩ := feeds.ok room answer
    rw [answer] at fits
    simp only [answer, World.count_nil]
    exact ⟨bytes, rest, fewer, rfl, rfl, fits, split, last, within, on⟩
  | error fault =>
    have interrupted := (feeds.error room answer).1
    rw [settled fault answer] at interrupted
    cases interrupted

theorem fillOnce_feeds (buffer : Buffer) (room : 0 < buffer.freeLen)
    (feeds : Feeds send source sink world stream patience) (patient : patience ≤ retries) :
    ∃ filled, buffer.fillOnce retries [] source world = some filled ∧
      FedBy send buffer sink stream patience filled := by
  have roomy : ¬ buffer.isFull = true := by
    rw [isFull, beq_iff_eq]
    omega
  rw [fillOnce, if_neg roomy]
  induction retries generalizing source world patience with
  | zero =>
    rcases settled_or_interrupted (source.read buffer.freeLen world).answer with
      settled | ⟨fault, failed, interrupted⟩
    · rw [fillOnceLoop_settled _ _ _ _ _ settled]
      exact ⟨_, rfl, filledFrom_feeds buffer room feeds settled⟩
    · obtain ⟨_, fewer, within, _⟩ := feeds.error room failed
      omega
  | succ retries ih =>
    rcases settled_or_interrupted (source.read buffer.freeLen world).answer with
      settled | ⟨fault, failed, interrupted⟩
    · rw [fillOnceLoop_settled _ _ _ _ _ settled]
      exact ⟨_, rfl, filledFrom_feeds buffer room feeds settled⟩
    · obtain ⟨_, fewer, within, on⟩ := feeds.error room failed
      rw [fillOnceLoop_interrupted _ _ _ _ _ failed interrupted]
      obtain ⟨filled, ended, bytes, rest, fewest, ok, same, fits, split, last, less, more⟩ :=
        ih on (by omega)
      exact ⟨filled, ended, bytes, rest, fewest, ok, same, fits, split, last, by omega, more⟩

end Buffer

namespace Staged

variable {ρ τ : Type} [ReadPeer ρ] {send : Writing τ} {source : Source ρ} {world : World}
  {stream : Bytes} {patience retries : Nat} {staged : Staged (Accepting τ)}

/-- The buffer goes out to a sink that always accepts, and then its whole size is free. -/
theorem settle_feeds (staged : Staged (Accepting τ)) (some : staged.buffer.unread ≠ [])
    (feeds : Feeds send source staged.inner.sink world stream patience) :
    let settled := staged.settle (Accepting.write send) world
    settled.answer = .ok () ∧ settled.after.buffer.size = staged.buffer.size ∧
      settled.after.buffer.freeLen = staged.buffer.size ∧
      Feeds send source settled.after.inner.sink settled.world stream patience := by
  -- The drain never loses patience, since no write of it is a stall or fails.
  have rule : Buffer.DrainRule (Accepting.write send) [] fun patient _ _ sink later =>
      patient ≠ 0 ∧ Feeds send source sink.sink later stream patience := by
    constructor
    · rintro patient left reported sink later ⟨_, feeds⟩ some stalls
      obtain ⟨less, took⟩ := (feeds.accepts some).1
      have none : Buffer.Stalls (.ok (less + 1)) := by
        rw [← took]
        exact stalls
      cases none
    · rintro patient left reported sink later less ⟨_, feeds⟩ some _
      rw [World.count_nil]
      exact ⟨Nat.succ_ne_zero _, (feeds.accepts some).2⟩
    · rintro patient left reported sink later fault ⟨_, feeds⟩ some failed _
      obtain ⟨less, took⟩ := (feeds.accepts some).1
      cases took.symm.trans failed
  have ends := rule.drain staged.buffer staged.inner world some ⟨Nat.succ_ne_zero _, feeds⟩
  have size := Buffer.drain_size (Accepting.write send) [] staged.buffer staged.inner world
  have empty : ¬ staged.buffer.isEmpty = true := fun empty => some (List.isEmpty_iff.mp empty)
  rw [settle, if_neg empty]
  cases result : (staged.buffer.drain (Accepting.write send) [] staged.inner world).result with
  | error fault => exact absurd rfl (ends.error result).1.1
  | ok total =>
    obtain ⟨_, _, _, on⟩ := ends.ok result
    simp only [result]
    refine ⟨trivial, size, ?_, on⟩
    simp only [Buffer.freeLen, Buffer.writeAt, Buffer.reset, List.length_nil, Nat.add_zero,
      Nat.sub_zero]
    exact size

/-- Round after round the whole stream goes out, as long as the buffer has room. -/
theorem moveLoop_feeds (rounds total : Nat) (clear : staged.buffer.unread = [])
    (room : 0 < staged.buffer.freeLen)
    (feeds : Feeds send source staged.inner.sink world stream patience)
    (patient : patience ≤ retries) (enough : stream.length < rounds) :
    ∃ rest last later,
      moveLoop (Accepting.write send) retries staged source world rounds total =
        .finished (.ok (total + stream.length)) rest last later ∧
      last.buffer.unread = [] ∧ last.inner.accepted = staged.inner.accepted ++ stream := by
  induction rounds generalizing staged source world stream patience total with
  | zero => omega
  | succ rounds ih =>
    obtain ⟨filled, fill, bytes, rest, fewer, ok, grown, fits, split, last, within, on⟩ :=
      Buffer.fillOnce_feeds staged.buffer room feeds patient
    have unread : filled.buffer.unread = bytes := by
      rw [grown, Buffer.append, clear, List.nil_append, List.take_of_length_le fits]
    rw [moveLoop, fill]
    simp only [ok]
    cases bytes with
    | nil =>
      rw [last rfl, List.length_nil, Nat.add_zero]
      refine ⟨_, _, _, rfl, unread, ?_⟩
      rw [List.append_nil]
    | cons first more =>
      have some : filled.buffer.unread ≠ [] := by
        rw [unread]
        exact List.cons_ne_nil first more
      obtain ⟨sent, _, free, feeds⟩ :=
        settle_feeds ⟨staged.inner, filled.buffer⟩ some on
      have clear := settle_clears send sent
      have whole := log_settle send ⟨staged.inner, filled.buffer⟩ filled.world
      rw [log, log, clear, List.append_nil, unread] at whole
      have same : filled.buffer.size = staged.buffer.size := by
        rw [grown]
        rfl
      have roomy : staged.buffer.freeLen ≤ staged.buffer.size := Nat.sub_le _ _
      have length := congrArg List.length split
      rw [List.length_append, List.length_cons] at length
      simp only [List.length_cons, sent]
      obtain ⟨source, final, later, ended, gone, all⟩ := ih (total + (more.length + 1)) clear
        (by rw [free, same]; omega) feeds (by omega) (by omega)
      refine ⟨source, final, later, ?_, gone, ?_⟩
      · rw [ended, length, Nat.add_assoc]
      · rw [all, whole, split, List.append_assoc]

/-- A write buffer that was sent out, or was empty and had room, moves the whole stream. One without
any storage is replaced first. -/
theorem refill_feeds {rounds : Nat} (clear : staged.buffer.unread = [])
    (ready : staged.buffer.size ≠ 0 → 0 < staged.buffer.freeLen)
    (feeds : Feeds send source staged.inner.sink world stream patience)
    (patient : patience ≤ retries) (enough : stream.length < rounds) :
    ∃ rest last later,
      (if staged.buffer.size = 0 then
        moveLoop (Accepting.write send) retries { staged with buffer := .zeroed standardSize }
          source (world.dropBuffer staged.buffer) rounds 0
      else moveLoop (Accepting.write send) retries staged source world rounds 0) =
        .finished (.ok stream.length) rest last later ∧
      last.buffer.unread = [] ∧ last.inner.accepted = staged.inner.accepted ++ stream := by
  have moves (staged : Staged (Accepting τ)) (world : World)
      (clear : staged.buffer.unread = []) (room : 0 < staged.buffer.freeLen)
      (feeds : Feeds send source staged.inner.sink world stream patience) :=
    moveLoop_feeds rounds 0 clear room feeds patient enough
  simp only [Nat.zero_add] at moves
  by_cases bare : staged.buffer.size = 0
  · rw [if_pos bare]
    exact moves ⟨staged.inner, .zeroed standardSize⟩ _ rfl (Nat.succ_pos _)
      (feeds.letGo staged.buffer)
  · rw [if_neg bare]
    exact moves staged world clear (ready bare) feeds

/-- What waits in a write buffer and then the whole stream of a source that never fails goes out to
a sink that always accepts and cannot pull, unless the buffer is exhausted: then nothing is read and
nothing goes out. -/
theorem readFrom_feeds (retries rounds : Nat) (staged : Staged (Accepting τ))
    {pull : Accepting τ → Source ρ → World → Pull ρ (Accepting τ)}
    (unable : ∀ sink later, pull sink source later = .unsupported)
    (feeds : Feeds send source staged.inner.sink world stream patience)
    (patient : patience ≤ retries) (enough : stream.length < rounds) :
    (¬ staged.buffer.Exhausted → ∃ rest last later,
      staged.readFrom (Accepting.write send) retries rounds pull source world =
        .finished (.ok stream.length) rest last later ∧
      last.buffer.unread = [] ∧
      last.inner.accepted = staged.inner.accepted ++ (staged.buffer.unread ++ stream)) ∧
    (staged.buffer.Exhausted →
      staged.readFrom (Accepting.write send) retries rounds pull source world =
        .finished (.error BufferFault.shortBuffer.toIo) source staged world) := by
  by_cases empty : staged.buffer.unread = []
  · have still : staged.settle (Accepting.write send) world = ⟨.ok (), staged, world⟩ :=
      if_pos (List.isEmpty_iff.mpr empty)
    simp only [readFrom, still, unable]
    constructor
    · intro fresh
      rw [empty, List.nil_append]
      apply refill_feeds empty _ feeds patient enough
      intro sized
      apply Nat.pos_of_ne_zero
      exact fun full => fresh ⟨empty, sized, full⟩
    · rintro ⟨_, sized, full⟩
      have positive : rounds ≠ 0 := by omega
      obtain ⟨rounds, rfl⟩ := Nat.exists_eq_succ_of_ne_zero positive
      have stuck : staged.buffer.fillOnce retries [] source world =
          some ⟨.error .shortBuffer, staged.buffer, source, world⟩ := if_pos (beq_iff_eq.mpr full)
      rw [if_neg sized, moveLoop, stuck]
  · obtain ⟨sent, size, free, on⟩ := settle_feeds staged empty feeds
    have clear := settle_clears send sent
    have whole := log_settle send staged world
    rw [log, log, clear, List.append_nil] at whole
    simp only [readFrom, sent, unable]
    refine ⟨fun _ => ?_, fun exhausted => absurd exhausted.1 empty⟩
    rw [← List.append_assoc, ← whole]
    apply refill_feeds clear _ on patient enough
    intro sized
    rw [free, ← size]
    exact Nat.pos_of_ne_zero sized

/-- A sink that takes two bytes at a time and cannot pull. -/
def sipping : Setting RehearsedReader Unit where
  send := fun _ bytes world => ⟨.ok (min 2 bytes.length), (), world⟩
  flush := fun _ world => ⟨.ok (), (), world⟩
  pull := fun _ _ _ => .unsupported
  retries := 0
  rounds := 5

/-- A steady reader feeds a sink that takes two bytes at a time. -/
theorem sipping_feeds {reader : RehearsedReader} (steady : reader.Steady) (world : World) :
    Feeds sipping.send (.peer reader) () world reader.script reader.failures := by
  have gives : Source.Gives (.peer reader) reader.script reader.failures := steady.streams
  show Feeds _ _ _ _ (Source.stock (.peer reader) world.stores ++ reader.script) _
  apply Feeds.of_gives gives (fun _ => True) trivial
  intro _ bytes _ _ some
  have length := List.length_pos_of_ne_nil some
  refine ⟨⟨min 2 bytes.length - 1, congrArg Except.ok ?_⟩, trivial, rfl⟩
  omega

/-- A reader that is interrupted once and then delivers three bytes. -/
def haltingOnce : RehearsedReader :=
  ⟨0, [.fail (.plain .interrupted), .deliver [3, 4, 5]], .ended⟩

theorem haltingOnce_steady : haltingOnce.Steady := by
  constructor
  · simp [haltingOnce, RehearsedReader.SteadyCue, IoFault.isInterrupted, IoFault.kind]
  · rfl

/-- Three bytes go through a buffer of two, behind one that waits there. -/
theorem readFrom_feeds_sample :
    ∃ rest last later, (⟨⟨(), []⟩, ⟨[], [1], [0], 2, none⟩⟩ : Staged (Accepting Unit)).readFrom
        (Accepting.write sipping.send) 1 4 sipping.pull (.peer haltingOnce) World.initial =
        .finished (.ok 3) rest last later ∧
      last.buffer.unread = [] ∧ last.inner.accepted = [1, 3, 4, 5] := by
  have unable : ∀ sink later, sipping.pull sink (.peer haltingOnce) later = .unsupported :=
    fun _ _ => rfl
  have feeds := readFrom_feeds 1 4 ⟨⟨(), []⟩, ⟨[], [1], [0], 2, none⟩⟩ unable
    (sipping_feeds haltingOnce_steady World.initial) (by decide) (by decide)
  exact feeds.1 fun exhausted => by cases exhausted.1

/-- A buffer that was filled and read to its end is not emptied, so that nothing moves through it.
-/
theorem readFrom_stuck_sample :
    let staged : Staged (Accepting Unit) := ⟨⟨(), []⟩, ((Buffer.ofBytes [1, 2]).read 2).2⟩
    Feeds sipping.send (.peer (RehearsedReader.ofBytes 0 [3, 4])) () World.initial [3, 4] 0 ∧
      staged.readFrom (Accepting.write sipping.send) 0 3 sipping.pull
          (.peer (.ofBytes 0 [3, 4])) World.initial =
        .finished (.error BufferFault.shortBuffer.toIo) (.peer (.ofBytes 0 [3, 4])) staged
          World.initial := by
  have steady : (RehearsedReader.ofBytes 0 [3, 4]).Steady := by
    constructor
    · simp [RehearsedReader.ofBytes, RehearsedReader.SteadyCue]
    · rfl
  exact ⟨sipping_feeds steady World.initial, rfl⟩

end Staged

end Conduit
