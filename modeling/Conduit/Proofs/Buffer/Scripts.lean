import Conduit.Proofs.Buffer.Queue
import Conduit.Proofs.Buffer.Twins
import Conduit.Rehearsal

set_option autoImplicit false

namespace Conduit

namespace Buffer

variable {ρ τ : Type}

/-- What an operation shows: its result, what is seen of the buffer, and the far end. -/
structure Shown (ρ τ : Type) where
  result : Except BufferFault Answer
  outline : Outline
  endpoint : Endpoint ρ τ

/-- What an operation that came to an end shows. -/
def Performed.shown (done : Performed ρ τ) : Shown ρ τ :=
  ⟨done.result, done.buffer.outline, done.endpoint⟩

/-- The same operation on two buffers came to the same end. -/
structure Performed.Twins (past others : List Event) (known : Set Nat)
    (done mirror : Performed ρ τ) : Prop where
  result : done.result = mirror.result
  buffer : Buffer.Twins known done.buffer mirror.buffer
  endpoint : done.endpoint = mirror.endpoint
  world : World.Alike past others done.world mirror.world

namespace Op

def learned (known : Set Nat) (buffer : Buffer) : Op ρ τ → Set Nat
  | .stash bytes =>
    known ∪ Set.Ico buffer.writeAt (buffer.writeAt + min buffer.freeLen bytes.length)
  | _ => known

/-- A commit of bytes that there are covers known positions only. -/
def Covered (known : Set Nat) (buffer : Buffer) : Op ρ τ → Prop
  | .commit count =>
    count ≤ buffer.freeLen → Set.Ico buffer.writeAt (buffer.writeAt + count) ⊆ known
  | _ => True

/-- How many bytes an operation stored at the start of the free region. -/
def stored : Op ρ τ → Nat
  | .stash bytes => bytes.length
  | _ => 0

def Within (ready : Nat) : Op ρ τ → Prop
  | .commit count => count ≤ ready
  | _ => True

end Op

variable {past others : List Event} {known : Set Nat} {one other : Buffer} {world later : World}

theorem performed_filled (twins : Twins known one other) {filled mirror : Filled ρ}
    (same : Filled.Matches (World.Alike past others) one other filled mirror) :
    Performed.Twins (τ := τ) past others known
      ⟨filled.result.map .count, filled.buffer, .source filled.source, filled.world⟩
      ⟨mirror.result.map .count, mirror.buffer, .source mirror.source, mirror.world⟩ := by
  obtain ⟨bytes, left, right⟩ := same.buffer
  refine ⟨congrArg (Except.map Answer.count) same.result, ?_, congrArg Endpoint.source same.source,
    same.world⟩
  rw [left, right]
  exact twins.append bytes

/-- Twins that lost as many bytes are twins. -/
theorem performed_drained (twins : Twins known one other) {drained mirror : Drained τ}
    (same : Drained.Matches (World.Alike past others) one other drained mirror) :
    Performed.Twins (ρ := ρ) past others known
      ⟨drained.result.map .count, drained.buffer, .sink drained.sink, drained.world⟩
      ⟨mirror.result.map .count, mirror.buffer, .sink mirror.sink, mirror.world⟩ := by
  obtain ⟨count, left, right⟩ := same.buffer
  refine ⟨congrArg (Except.map Answer.count) same.result, ?_, congrArg Endpoint.sink same.sink,
    same.world⟩
  rw [left, right]
  exact twins.consume count

section

variable [ReadPeer ρ] {send : Writing τ}

/-- An operation comes to the same end on twins. -/
theorem Op.perform_twins (sends : Writing.Matches (World.Alike past others) send)
    (twins : Twins known one other) (alike : World.Alike past others world later) (retries : Nat)
    (op : Op ρ τ) (covered : op.Covered known one) :
    Option.Rel (Performed.Twins past others (op.learned known one))
      (op.perform retries send one world) (op.perform retries send other later) := by
  have likeness := World.Alike.likeness past others
  cases op with
  | write bytes =>
    obtain ⟨answer, after⟩ := twins.write bytes
    exact .some ⟨congrArg (fun answer => (Except.mapError IoFault.toBuffer answer).map Answer.count)
      answer, after, rfl, alike⟩
  | writeByte byte =>
    obtain ⟨answer, after⟩ := twins.writeByte byte
    exact .some ⟨congrArg (Except.map fun _ => Answer.done) answer, after, rfl, alike⟩
  | writeAll bytes =>
    obtain ⟨answer, after⟩ := twins.writeAll bytes
    exact .some ⟨congrArg (Except.map Answer.count) answer, after, rfl, alike⟩
  | stash bytes => exact .some ⟨rfl, twins.stash bytes, rfl, alike⟩
  | commit count =>
    by_cases fits : count ≤ one.freeLen
    · obtain ⟨after, mirror, left, right, twins⟩ := twins.commit fits (covered fits)
      simp only [perform, left, right]
      exact .some ⟨rfl, twins, rfl, alike⟩
    · have left : one.commit count = .error .overflow := if_pos (Nat.lt_of_not_le fits)
      have right : other.commit count = .error .overflow :=
        if_pos (twins.freeLen ▸ Nat.lt_of_not_le fits)
      simp only [perform, left, right]
      exact .some ⟨rfl, twins, rfl, alike⟩
  | read wanted =>
    have bytes : one.unread.take wanted = other.unread.take wanted := by rw [twins.unread]
    exact .some ⟨congrArg (fun bytes => Except.ok (Answer.bytes bytes)) bytes,
      twins.consume wanted, rfl, alike⟩
  | readByte =>
    obtain ⟨answer, after⟩ := twins.readByte
    exact .some ⟨congrArg (Except.map fun byte => Answer.bytes [byte]) answer, after, rfl, alike⟩
  | peek count =>
    exact .some ⟨congrArg (Except.map Answer.bytes) (twins.peek count), twins, rfl, alike⟩
  | discard count =>
    obtain ⟨answer, after⟩ := twins.discard count
    exact .some ⟨congrArg (Except.map Answer.count) answer, after, rfl, alike⟩
  | truncate count => exact .some ⟨rfl, twins.truncate count, rfl, alike⟩
  | resize size =>
    by_cases fits : size ≤ one.capacity
    · obtain ⟨after, mirror, left, right, twins⟩ := twins.resize fits
      simp only [perform, left, right]
      exact .some ⟨rfl, twins, rfl, alike⟩
    · have left : one.resize size = .error .overflow := if_pos (Nat.lt_of_not_le fits)
      have right : other.resize size = .error .overflow :=
        if_pos (twins.capacity ▸ Nat.lt_of_not_le fits)
      simp only [perform, left, right]
      exact .some ⟨rfl, twins, rfl, alike⟩
  | reset => exact .some ⟨rfl, twins.reset, rfl, alike⟩
  | free =>
    obtain ⟨freed, after⟩ := twins.free alike
    exact .some ⟨rfl, freed, rfl, after⟩
  | fill source =>
    exact .some (performed_filled twins (fill_matches likeness twins.freeLen source alike))
  | fillOnce counters source =>
    exact (fillOnce_matches likeness twins.freeLen retries counters source alike).map
      fun _ _ same => performed_filled twins same
  | fillExactly wanted source =>
    exact (fillExactly_matches likeness twins.freeLen retries source alike wanted).map
      fun _ _ same => performed_filled twins same
  | drain counters sink =>
    exact .some (performed_drained twins
      (drain_matches likeness sends twins.unread counters sink alike))
  | drainOnce sink =>
    exact (drainOnce_matches sends twins.unread retries sink alike).map
      fun _ _ same => performed_drained twins same

end

/-- Operations on one buffer, each of them chosen by what the earlier ones showed. -/
inductive Script (ρ τ : Type) where
  | stop
  | act (op : Op ρ τ) (next : Shown ρ τ → Script ρ τ)

/-- A script that was run. -/
structure Ran (ρ τ : Type) where
  /-- What was shown, in order. -/
  shown : List (Shown ρ τ)
  /-- The script came to its end, and was not held up by an endpoint for ever. -/
  ended : Bool
  buffer : Buffer
  world : World

namespace Script

variable [ReadPeer ρ] (retries : Nat) (send : Writing τ)

def run : Script ρ τ → Buffer → World → Ran ρ τ
  | .stop, buffer, world => ⟨[], true, buffer, world⟩
  | .act op next, buffer, world =>
    match op.perform retries send buffer world with
    | none => ⟨[], false, buffer, world⟩
    | some done =>
      let rest := (next done.shown).run done.buffer done.world
      { rest with shown := done.shown :: rest.shown }

/-- No byte is committed that was not unread or stored before. -/
def Careful : Script ρ τ → Set Nat → Buffer → World → Prop
  | .stop, _, _, _ => True
  | .act op next, known, buffer, world => op.Covered known buffer ∧
    ∀ done, op.perform retries send buffer world = some done →
      (next done.shown).Careful (op.learned known buffer ∪ done.buffer.span) done.buffer done.world

/-- Each commit comes right after as many bytes, at least, were stored at the start of the free
region, and the first one has so many stored already. -/
def Prepared : Script ρ τ → Nat → Prop
  | .stop, _ => True
  | .act op next, ready => op.Within ready ∧ ∀ shown, (next shown).Prepared op.stored

end Script

/-- Two runs showed the same, and left the same but for what storages hold. -/
structure Ran.Twins (past others : List Event) (ran mirror : Ran ρ τ) : Prop where
  shown : ran.shown = mirror.shown
  ended : ran.ended = mirror.ended
  outline : ran.buffer.outline = mirror.buffer.outline
  world : World.Alike past others ran.world mirror.world

namespace Script

variable [ReadPeer ρ] {retries : Nat} {send : Writing τ}

/-- A script that stores bytes right before it commits them is careful. -/
theorem Prepared.careful {script : Script ρ τ} {ready : Nat} (prepared : script.Prepared ready)
    {buffer : Buffer} (world : World)
    (stored : Set.Ico buffer.writeAt (buffer.writeAt + min buffer.freeLen ready) ⊆ known) :
    script.Careful retries send known buffer world := by
  induction script generalizing ready known buffer world with
  | stop => trivial
  | act op next ih =>
    obtain ⟨within, prepared⟩ := prepared
    refine ⟨?_, fun done ended => ih _ (prepared done.shown) done.world ?_⟩
    · cases op with
      | commit count =>
        intro fits
        have fewer : count ≤ min buffer.freeLen ready := Nat.le_min.mpr ⟨fits, within⟩
        exact (Set.Ico_subset_Ico_right (Nat.add_le_add_left fewer _)).trans stored
      | _ => trivial
    · cases op with
      | stash bytes =>
        cases ended
        exact Set.subset_union_right.trans Set.subset_union_left
      | _ => simp [Op.stored]

/-- A careful script shows the same on twins. -/
theorem run_twins (sends : Writing.Matches (World.Alike past others) send) (script : Script ρ τ)
    (twins : Twins known one other) (alike : World.Alike past others world later)
    (careful : script.Careful retries send known one world) :
    Ran.Twins past others (script.run retries send one world)
      (script.run retries send other later) := by
  induction script generalizing known one other world later with
  | stop => exact ⟨rfl, rfl, twins.outline, alike⟩
  | act op next ih =>
    obtain ⟨covered, careful⟩ := careful
    have same := op.perform_twins sends twins alike retries covered
    -- Both runs go on in the same way, since what comes next is chosen by what was shown; what is
    -- unread by then is known from then on.
    rw [run, run]
    generalize op.perform retries send one world = done at same careful ⊢
    generalize op.perform retries send other later = mirror at same ⊢
    cases same with
    | none => exact ⟨rfl, rfl, twins.outline, alike⟩
    | @some done mirror same =>
      have shown : done.shown = mirror.shown := by
        rw [Performed.shown, same.result, same.buffer.outline, same.endpoint]
        rfl
      have rest := ih done.shown same.buffer.widen same.world (careful done rfl)
      dsimp only
      rw [shown] at rest ⊢
      exact ⟨congrArg (_ :: ·) rest.shown, rest.ended, rest.outline, rest.world⟩

/-- What storages held before is not disclosed. A careful script shows the same on buffers of one
outline, and calls the endpoints alike; nor does it matter what the idle storages of pools hold.
Buffers of one pool are of one outline, whether their storages are new or were put back by someone
else. -/
theorem run_forgets {σ : Type} [WritePeer σ] (retries : Nat)
    (alike : World.Alike past others world later) :
    (∀ (script : Script ρ (AnySink σ)) (one other : Buffer), one.outline = other.outline →
      script.Careful retries AnySink.write one.span one world →
      Ran.Twins world.journal.events later.journal.events
        (script.run retries AnySink.write one world)
        (script.run retries AnySink.write other later)) ∧
      ∀ (pool : PoolId) (size : Nat), (world.pools.get pool).Used → (later.pools.get pool).Used →
        (world.takeBuffer pool size).1.outline = (later.takeBuffer pool size).1.outline ∧
          World.Alike (world.takeBuffer pool size).2.journal.events
            (later.takeBuffer pool size).2.journal.events (world.takeBuffer pool size).2
            (later.takeBuffer pool size).2 := by
  refine ⟨fun script one other outline careful => ?_, fun pool size used another => ?_⟩
  · have sends := AnySink.write_matches (σ := σ)
      (World.Alike.likeness world.journal.events later.journal.events)
    have bare : Twins ∅ one other := ⟨outline, fun _ inside => inside.elim⟩
    have twins := bare.widen
    rw [Set.empty_union] at twins
    exact script.run_twins sends twins alike.anew careful
  · exact alike.takeBuffer used.stocked another.stocked size

/-- A buffer over a storage that was put back with someone else's bytes shows what one over a new
storage shows, when bytes are committed, cut off, filled up and drained. -/
theorem run_forgets_recycled :
    let fresh := World.initial.addPool 8 1
    let used := fresh.recycle 0 [1, 2, 3, 4, 5, 6, 7, 8]
    let recycled := used.takeBuffer 0 6
    let new := fresh.takeBuffer 0 6
    let script : Script RehearsedReader (AnySink RehearsedWriter) :=
      .act (.stash [9, 9, 9]) fun _ => .act (.commit 3) fun _ => .act (.resize 1) fun _ =>
      .act (.resize 8) fun _ => .act (.fill (.buffer (.ofBytes [5, 5]))) fun _ =>
      .act (.drain [] ⟨0, .peer (.eager 7)⟩) fun _ => .act .free fun _ => .stop
    recycled.1.storage ≠ new.1.storage ∧
      Ran.Twins recycled.2.journal.events new.2.journal.events
        (script.run 0 AnySink.write recycled.1 recycled.2)
        (script.run 0 AnySink.write new.1 new.2) := by
  intro fresh used recycled new script
  have alike := World.alike_recycle fresh 0 [1, 2, 3, 4, 5, 6, 7, 8]
  have begun : (fresh.pools.get 0).Used := .new 8 1
  have put : (used.pools.get 0).Used := begun.recycled [1, 2, 3, 4, 5, 6, 7, 8]
  obtain ⟨outline, taken⟩ :=
    (run_forgets (ρ := RehearsedReader) (σ := RehearsedWriter) 0 alike).2 0 6 put begun
  have prepared : script.Prepared 0 := by
    simp [script, Prepared, Op.Within, Op.stored]
  refine ⟨by decide, (run_forgets 0 taken).1 script recycled.1 new.1 outline ?_⟩
  exact prepared.careful recycled.2 (by simp)

end Script

end Buffer

end Conduit
