import Conduit.Proofs.Staged.Log
import Conduit.Proofs.Transfer.Pouring
import Conduit.Rehearsal

set_option autoImplicit false

namespace Conduit

namespace Source

variable {ρ : Type} [ReadPeer ρ]

/-- Reads of a source brought these bytes. What happened in the world between them is not said. -/
inductive Gave : Source ρ → Bytes → Source ρ → Prop where
  | nothing (source : Source ρ) : Gave source [] source
  | read {source last : Source ρ} {bytes : Bytes} (gave : Gave source bytes last) (wanted : Nat)
    (world : World) :
    Gave source (bytes ++ ReadPeer.brought (last.read wanted world).answer)
      (last.read wanted world).after

end Source

namespace Staged

variable {ρ τ : Type} [ReadPeer ρ]

/-- The sink's own way to pull from a source: it accepts exactly what it takes from there. -/
def Faithful (pull : Accepting τ → Source ρ → World → Pull ρ (Accepting τ)) : Prop :=
  ∀ sink source world result rest last later,
    pull sink source world = .finished result rest last later →
    ∃ bytes, source.Gave bytes rest ∧ last.accepted = sink.accepted ++ bytes

/-- The two ends that a write buffer stands between, and the world. -/
structure Ends (ρ τ : Type) where
  source : Source ρ
  sink : Accepting τ
  world : World

namespace Ends

def read (ends : Ends ρ τ) (wanted : Nat) : Ends ρ τ :=
  let reading := ends.source.read wanted ends.world
  ⟨reading.after, ends.sink, reading.world⟩

def write (send : Writing τ) (ends : Ends ρ τ) (bytes : Bytes) : Ends ρ τ :=
  let wrote := ends.sink.write send bytes ends.world
  ⟨ends.source, wrote.after, wrote.world⟩

end Ends

/-- A write buffer works between two ends, and these bytes come out of the source. -/
inductive Moves (send : Writing τ) (pull : Accepting τ → Source ρ → World → Pull ρ (Accepting τ)) :
    Ends ρ τ → Bytes → Ends ρ τ → Prop where
  | nothing (ends : Ends ρ τ) : Moves send pull ends [] ends
  | read {first last : Ends ρ τ} {bytes : Bytes} (moves : Moves send pull first bytes last)
    (wanted : Nat) :
    Moves send pull first
      (bytes ++ ReadPeer.brought (last.source.read wanted last.world).answer) (last.read wanted)
  | write {first last : Ends ρ τ} {bytes : Bytes} (moves : Moves send pull first bytes last)
    (offered : Bytes) : Moves send pull first bytes (last.write send offered)
  /-- The storage of a buffer that was put aside goes back. -/
  | letGo {first last : Ends ρ τ} {bytes : Bytes} (moves : Moves send pull first bytes last)
    (buffer : Buffer) :
    Moves send pull first bytes { last with world := last.world.dropBuffer buffer }
  /-- The sink pulls by itself, and these are the bytes that the source gave it. -/
  | pulled {first last : Ends ρ τ} {bytes more : Bytes} {rest : Source ρ} {sink : Accepting τ}
    {later : World} {result : Except IoFault Nat} (moves : Moves send pull first bytes last)
    (ended : pull last.sink last.source last.world = .finished result rest sink later)
    (gave : last.source.Gave more rest) (kept : sink.accepted = last.sink.accepted ++ more) :
    Moves send pull first (bytes ++ more) ⟨rest, sink, later⟩

namespace Moves

variable {send : Writing τ} {pull : Accepting τ → Source ρ → World → Pull ρ (Accepting τ)}
  {first middle last : Ends ρ τ} {early late : Bytes}

theorem trans (front : Moves send pull first early middle)
    (back : Moves send pull middle late last) : Moves send pull first (early ++ late) last := by
  induction back with
  | nothing => rwa [List.append_nil]
  | read _ wanted ih =>
    rw [← List.append_assoc]
    exact .read ih wanted
  | write _ offered ih => exact .write ih offered
  | letGo _ buffer ih => exact .letGo ih buffer
  | pulled _ ended gave kept ih =>
    rw [← List.append_assoc]
    exact .pulled ih ended gave kept

theorem readEach (moves : Moves send pull first early last) (sizes : List Nat) :
    let readings := last.source.readEach sizes last.world
    Moves send pull first (early ++ readings.answers.flatMap ReadPeer.brought)
      ⟨readings.after, last.sink, readings.world⟩ := by
  induction sizes generalizing last early with
  | nil => simpa only [Source.readEach, List.flatMap_nil, List.append_nil] using moves
  | cons wanted rest ih =>
    have on := ih (moves.read wanted)
    simp only [Source.readEach, List.flatMap_cons, ← List.append_assoc]
    exact on

end Moves

section

variable (send : Writing τ) (pull : Accepting τ → Source ρ → World → Pull ρ (Accepting τ))

/-- Bytes that come out of a source are added to the log, however the work between the two ends
stops, and nothing waits in the buffer if it stops well. -/
def Pumps (source : Source ρ) (staged : Staged (Accepting τ)) (world : World)
    (result : Except IoFault Nat) (rest : Source ρ) (last : Staged (Accepting τ))
    (later : World) : Prop :=
  ∃ bytes, Moves send pull ⟨source, staged.inner, world⟩ bytes ⟨rest, last.inner, later⟩ ∧
    last.log = staged.log ++ bytes ∧ ∀ count, result = .ok count → last.buffer.unread = []

namespace Pumps

variable {send : Writing τ} {pull : Accepting τ → Source ρ → World → Pull ρ (Accepting τ)}
  {source middle rest : Source ρ} {staged last : Staged (Accepting τ)}
  {world midway later : World} {result : Except IoFault Nat} {bytes : Bytes}

theorem behind (between : Staged (Accepting τ))
    (moves : Moves send pull ⟨source, staged.inner, world⟩ bytes ⟨middle, between.inner, midway⟩)
    (added : between.log = staged.log ++ bytes)
    (pumps : Pumps send pull middle between midway result rest last later) :
    Pumps send pull source staged world result rest last later := by
  obtain ⟨more, on, grown, clear⟩ := pumps
  refine ⟨bytes ++ more, moves.trans on, ?_, clear⟩
  rw [grown, added, List.append_assoc]

theorem still (clear : ∀ count, result = .ok count → staged.buffer.unread = []) :
    Pumps send pull source staged world result source staged world :=
  ⟨[], .nothing _, (List.append_nil _).symm, clear⟩

end Pumps

theorem settle_moves (source : Source ρ) (staged : Staged (Accepting τ)) (world : World) :
    let settled := staged.settle (Accepting.write send) world
    Moves send pull ⟨source, staged.inner, world⟩ []
      ⟨source, settled.after.inner, settled.world⟩ :=
  (settle_keeps send staged world
    (fun sink later => Moves send pull ⟨source, staged.inner, world⟩ [] ⟨source, sink, later⟩)
    (fun _ _ bytes moves => moves.write bytes) (.nothing _)).2.1

/-- A fill of the buffer adds to the log what its reads brought. -/
theorem fillOnce_moves {retries : Nat} {staged : Staged (Accepting τ)} {source : Source ρ}
    {world : World} {filled : Filled ρ}
    (ended : staged.buffer.fillOnce retries [] source world = some filled) :
    ∃ bytes, Moves send pull ⟨source, staged.inner, world⟩ bytes
        ⟨filled.source, staged.inner, filled.world⟩ ∧
      (⟨staged.inner, filled.buffer⟩ : Staged (Accepting τ)).log = staged.log ++ bytes ∧
      filled.buffer.unread = staged.buffer.unread ++ bytes ∧
      ∀ count, filled.result = .ok count → count = bytes.length := by
  unfold Buffer.fillOnce at ended
  split at ended
  · cases ended
    exact ⟨[], .nothing _, (List.append_nil _).symm, (List.append_nil _).symm, nofun⟩
  · have pours := Buffer.fillOnceLoop_pours [] staged.buffer source world retries
    rw [ended] at pours
    obtain ⟨bytes, later, ⟨sizes, rest, between, brought, fits, whole⟩, same, counts⟩ := pours
    rw [World.count_nil] at same
    refine ⟨bytes, ?_, ?_, ?_, counts⟩
    · have moves := (Moves.nothing ⟨source, staged.inner, world⟩ :
        Moves send pull _ [] _).readEach sizes
      simp only [List.nil_append, brought, rest, between] at moves
      rw [same]
      exact moves
    · rw [whole]
      exact log_append staged.inner staged.buffer bytes fits
    · rw [whole, Buffer.append, List.take_of_length_le fits]

theorem moveLoop_pumps (retries : Nat) {staged : Staged (Accepting τ)} {source rest : Source ρ}
    {world later : World} {rounds total : Nat} {result : Except IoFault Nat}
    {last : Staged (Accepting τ)} (clear : staged.buffer.unread = [])
    (ended : moveLoop (Accepting.write send) retries staged source world rounds total =
      .finished result rest last later) :
    Pumps send pull source staged world result rest last later := by
  induction rounds generalizing staged source world total with
  | zero => cases ended
  | succ rounds ih =>
    rw [moveLoop] at ended
    cases filling : staged.buffer.fillOnce retries [] source world with
    | none => simp only [filling, reduceCtorEq] at ended
    | some filled =>
      simp only [filling] at ended
      obtain ⟨bytes, moves, added, unread, counts⟩ := fillOnce_moves send pull filling
      cases fill : filled.result with
      | error fault =>
        simp only [fill] at ended
        cases ended
        exact .behind ⟨staged.inner, filled.buffer⟩ moves added (.still nofun)
      | ok count =>
        have same := counts count fill
        cases count with
        | zero =>
          simp only [fill] at ended
          cases ended
          have none := List.eq_nil_of_length_eq_zero same.symm
          refine .behind ⟨staged.inner, filled.buffer⟩ moves added (.still fun _ _ => ?_)
          rw [unread, clear, none, List.append_nil]
        | succ less =>
          simp only [fill] at ended
          have sent := settle_moves send pull filled.source ⟨staged.inner, filled.buffer⟩
            filled.world
          have kept := (log_settle send ⟨staged.inner, filled.buffer⟩ filled.world).trans
            (List.append_nil _).symm
          apply Pumps.behind ⟨staged.inner, filled.buffer⟩ moves added
          cases answer : (settle (Accepting.write send) ⟨staged.inner, filled.buffer⟩
              filled.world).answer with
          | error fault =>
            simp only [answer] at ended
            cases ended
            exact .behind _ sent kept (.still nofun)
          | ok _ =>
            simp only [answer] at ended
            exact .behind _ sent kept (ih (settle_clears send answer) ended)

theorem readFrom_pumps (faithful : Faithful pull) {retries rounds : Nat}
    {staged : Staged (Accepting τ)} {source rest : Source ρ} {world later : World}
    {result : Except IoFault Nat} {last : Staged (Accepting τ)}
    (ended : staged.readFrom (Accepting.write send) retries rounds pull source world =
      .finished result rest last later) :
    Pumps send pull source staged world result rest last later := by
  rw [readFrom] at ended
  have sent := settle_moves send pull source staged world
  have kept := (log_settle send staged world).trans (List.append_nil _).symm
  cases answer : (staged.settle (Accepting.write send) world).answer with
  | error fault =>
    simp only [answer] at ended
    cases ended
    exact .behind _ sent kept (.still nofun)
  | ok _ =>
    have clear := settle_clears send answer
    simp only [answer] at ended
    apply Pumps.behind _ sent kept
    cases pulling : pull (staged.settle (Accepting.write send) world).after.inner source
        (staged.settle (Accepting.write send) world).world with
    | unfinished => simp only [pulling, reduceCtorEq] at ended
    | finished outcome others inner after =>
      simp only [pulling] at ended
      cases ended
      obtain ⟨bytes, gave, grown⟩ := faithful _ _ _ _ _ _ _ pulling
      exact ⟨bytes, .pulled (.nothing _) pulling gave grown, log_through clear grown,
        fun _ _ => clear⟩
    | unsupported =>
      simp only [pulling] at ended
      split at ended
      · -- The storage of the old buffer goes back first; the new buffer has nothing in it either.
        have swapped : Moves send pull _ [] _ := .letGo (.nothing ⟨source,
          (staged.settle (Accepting.write send) world).after.inner,
          (staged.settle (Accepting.write send) world).world⟩)
          (staged.settle (Accepting.write send) world).after.buffer
        refine .behind ⟨_, .zeroed standardSize⟩ swapped ?_
          (moveLoop_pumps send pull retries rfl ended)
        rw [log, log, clear, List.append_nil]
        rfl
      · exact moveLoop_pumps send pull retries clear ended

end

/-- An operation of a write buffer. -/
inductive Op (ρ : Type) where
  | write (bytes : Bytes)
  | writeWhole (bytes : Bytes)
  | writeByte (byte : UInt8)
  | flush
  | free
  | readFrom (source : Source ρ)

/-- A write buffer after an operation. -/
structure Performed (ρ τ : Type) where
  /-- How many bytes it says were moved: none by a flush or a free. -/
  answer : Except IoFault Nat
  staged : Staged (Accepting τ)
  /-- What is left of the source that was read from. -/
  source : Option (Source ρ)
  world : World

/-- The calls of which a sink consists, and how patient operations are with both ends. -/
structure Setting (ρ τ : Type) where
  send : Writing τ
  flush : τ → World → Called τ Unit
  pull : Accepting τ → Source ρ → World → Pull ρ (Accepting τ)
  retries : Nat
  rounds : Nat

namespace Op

variable (setting : Setting ρ τ)

/-- Performs an operation. There is no result when the patience was used up. -/
def perform (staged : Staged (Accepting τ)) (world : World) : Op ρ → Option (Performed ρ τ)
  | .write bytes =>
    let wrote := staged.write (Accepting.write setting.send) bytes world
    some ⟨wrote.answer, wrote.after, none, wrote.world⟩
  | .writeWhole bytes =>
    (staged.writeWhole (Accepting.write setting.send) setting.retries bytes world).map
      fun wrote => ⟨wrote.answer, wrote.after, none, wrote.world⟩
  | .writeByte byte =>
    (staged.writeByte (Accepting.write setting.send) setting.retries byte world).map
      fun wrote => ⟨wrote.answer.map fun () => 1, wrote.after, none, wrote.world⟩
  | .flush =>
    let flushed := staged.flush (Accepting.write setting.send) (Accepting.flush setting.flush) world
    some ⟨flushed.answer.map fun () => 0, flushed.after, none, flushed.world⟩
  | .free =>
    let freed := staged.free (Accepting.write setting.send) world
    some ⟨freed.answer.map fun () => 0, freed.after, none, freed.world⟩
  | .readFrom source =>
    match staged.readFrom (Accepting.write setting.send) setting.retries setting.rounds
      setting.pull source world with
    | .finished result rest last later => some ⟨result, last, some rest, later⟩
    | _ => none

/-- What an operation has to add to the log. -/
def Adds (staged : Staged (Accepting τ)) (world : World) (done : Performed ρ τ) (added : Bytes) :
    Op ρ → Prop
  /- Exactly the first bytes, as many as it says, and none when it fails. -/
  | .write bytes => added = Sink.accepted bytes done.answer
  | .writeWhole bytes => added <+: bytes ∧ ∀ count, done.answer = .ok count → added = bytes
  | .writeByte byte =>
    match done.answer with
    | .ok _ => added = [byte]
    | .error _ => added = []
  | .flush | .free => added = []
  /- Exactly the bytes that came out of the source. -/
  | .readFrom source => ∃ rest, done.source = some rest ∧
    Moves setting.send setting.pull ⟨source, staged.inner, world⟩ added
      ⟨rest, done.staged.inner, done.world⟩

/-- Nothing waits in the buffer after an operation of this kind that succeeds. -/
def Clears : Op ρ → Prop
  | .flush | .free | .readFrom _ => True
  | _ => False

/-- An operation adds to the log what it has to. -/
def Keeps (staged : Staged (Accepting τ)) (world : World) (op : Op ρ) (done : Performed ρ τ) :
    Prop :=
  ∃ added, done.staged.log = staged.log ++ added ∧ op.Adds setting staged world done added ∧
    (op.Clears → ∀ count, done.answer = .ok count → done.staged.buffer.unread = [])

theorem perform_keeps (faithful : Faithful setting.pull) {staged : Staged (Accepting τ)}
    {world : World} {op : Op ρ} {done : Performed ρ τ}
    (performed : op.perform setting staged world = some done) :
    op.Keeps setting staged world done := by
  have succeeded : ∀ {answer : Except IoFault Unit} {count moved : Nat},
      (answer.map fun () => moved) = .ok count → answer = .ok () := by
    intro answer count moved ok
    cases answer with
    | error fault => cases ok
    | ok _ => rfl
  cases op with
  | write bytes =>
    cases performed
    exact ⟨_, log_write setting.send staged bytes world, rfl, nofun⟩
  | writeWhole bytes =>
    obtain ⟨wrote, ended, rfl⟩ := Option.map_eq_some_iff.mp performed
    obtain ⟨sent, front, added, all⟩ := log_writeWhole setting.send ended
    exact ⟨sent, added, ⟨front, all⟩, nofun⟩
  | writeByte byte =>
    obtain ⟨wrote, ended, rfl⟩ := Option.map_eq_some_iff.mp performed
    have added := log_writeByte setting.send ended
    refine ⟨_, added, ?_, nofun⟩
    rw [Adds]
    cases wrote.answer <;> rfl
  | flush =>
    cases performed
    obtain ⟨same, clear⟩ := log_flush setting.send setting.flush staged world
    refine ⟨[], same.trans (List.append_nil _).symm, rfl, fun _ count ok => ?_⟩
    exact clear (succeeded ok)
  | free =>
    cases performed
    obtain ⟨same, clear⟩ := log_free setting.send staged world
    refine ⟨[], same.trans (List.append_nil _).symm, rfl, fun _ count ok => ?_⟩
    exact clear (succeeded ok)
  | readFrom source =>
    rw [perform] at performed
    split at performed
    · rename_i result rest last later ended
      cases performed
      obtain ⟨bytes, moves, added, clear⟩ := readFrom_pumps setting.send setting.pull faithful ended
      exact ⟨bytes, added, ⟨rest, rfl, moves⟩, fun _ => clear⟩
    · cases performed

end Op

/-- A write buffer after a number of operations, each of which came to an end. -/
inductive Run (setting : Setting ρ τ) (first : Staged (Accepting τ)) (start : World) :
    List (Op ρ) → Staged (Accepting τ) → World → Prop where
  | nothing : Run setting first start [] first start
  | op {ops : List (Op ρ)} {staged : Staged (Accepting τ)} {world : World} {done : Performed ρ τ}
    (run : Run setting first start ops staged world) (op : Op ρ)
    (performed : op.perform setting staged world = some done) :
    Run setting first start (ops ++ [op]) done.staged done.world

/-- However a write buffer was used before, over whatever sink, its log has only grown at its end,
and the next operation adds to the log exactly what it says it took. -/
theorem log_grows {setting : Setting ρ τ} (faithful : Faithful setting.pull)
    {first staged : Staged (Accepting τ)} {start world : World} {ops : List (Op ρ)}
    (run : Run setting first start ops staged world) :
    first.log <+: staged.log ∧ ∀ (op : Op ρ) (done : Performed ρ τ),
      op.perform setting staged world = some done → op.Keeps setting staged world done := by
  refine ⟨?_, fun op done performed => Op.perform_keeps setting faithful performed⟩
  induction run with
  | nothing => exact List.prefix_refl _
  | op _ op performed ih =>
    obtain ⟨added, grown, _⟩ := Op.perform_keeps setting faithful performed
    rw [grown]
    exact ih.trans (List.prefix_append _ added)

/-- A sink that takes two bytes at a time, and pulls by two reads of its own. -/
def gulping : Setting RehearsedReader Unit where
  send := fun _ bytes world => ⟨.ok (min 2 bytes.length), (), world⟩
  flush := fun _ world => ⟨.ok (), (), world⟩
  pull := fun sink source world =>
    let first := source.read 2 world
    let second := first.after.read 2 first.world
    let bytes := ReadPeer.brought first.answer ++ ReadPeer.brought second.answer
    .finished (second.answer.map fun _ => bytes.length) second.after
      ⟨(), sink.accepted ++ bytes⟩ second.world
  retries := 0
  rounds := 5

theorem faithful_gulping : Faithful gulping.pull := by
  rintro sink source world _ _ _ _ ⟨⟩
  exact ⟨_, ((Source.Gave.nothing source).read 2 world).read 2 _, rfl⟩

/-- Of four bytes the sink takes two at once, a third one waits in the buffer, and the sink pulls
three more behind it. -/
theorem log_grows_sample :
    ∃ staged world, Run gulping ⟨⟨(), []⟩, .zeroed 2⟩ World.initial
        [.write [1, 2, 3, 4], .writeByte 3] staged world ∧
      Faithful gulping.pull ∧ [] <+: staged.log ∧
      ∃ done, (Op.readFrom (.peer ⟨0, [.deliver [4, 5, 6]], .ended⟩)).perform gulping staged world =
          some done ∧
        done.staged.log = [1, 2, 3, 4, 5, 6] ∧
        (Op.readFrom (.peer ⟨0, [.deliver [4, 5, 6]], .ended⟩)).Keeps gulping staged world
          done := by
  have wrote : (Op.write [1, 2, 3, 4]).perform gulping ⟨⟨(), []⟩, .zeroed 2⟩ World.initial =
      some ⟨.ok 2, ⟨⟨(), [1, 2]⟩, .zeroed 2⟩, none, World.initial⟩ := rfl
  have gathered : (Op.writeByte 3).perform gulping ⟨⟨(), [1, 2]⟩, .zeroed 2⟩ World.initial =
      some ⟨.ok 1, ⟨⟨(), [1, 2]⟩, ⟨[], [3], [0], 2, none⟩⟩, none, World.initial⟩ := rfl
  have run := (Run.nothing.op _ wrote).op _ gathered
  have grows := log_grows faithful_gulping run
  have moved : ((Op.readFrom (.peer ⟨0, [.deliver [4, 5, 6]], .ended⟩)).perform gulping
      ⟨⟨(), [1, 2]⟩, ⟨[], [3], [0], 2, none⟩⟩ World.initial).map (fun done => done.staged.log) =
        some [1, 2, 3, 4, 5, 6] := by cbv
  obtain ⟨done, performed, log⟩ := Option.map_eq_some_iff.mp moved
  exact ⟨_, _, run, faithful_gulping, grows.1, done, performed, log, grows.2 _ done performed⟩

end Staged

end Conduit
