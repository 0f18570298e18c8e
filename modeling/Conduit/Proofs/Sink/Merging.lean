import Conduit.Proofs.Engine.Transparency
import Conduit.Proofs.Source.Merging
import Conduit.Sink.Pull

set_option autoImplicit false

namespace Conduit

structure Writings (σ : Type) where
  answers : List (Except IoFault Nat)
  after : AnySink σ
  world : World

namespace WritePeer

/-- How many bytes went, by the answer to a write. -/
def went : Except IoFault Nat → Nat
  | .ok taken => taken
  | .error _ => 0

end WritePeer

namespace AnySink

variable {σ : Type} [WritePeer σ]

def writeEach : AnySink σ → List Bytes → World → Writings σ
  | sink, [], world => ⟨[], sink, world⟩
  | sink, bytes :: rest, world =>
    let writing := sink.write bytes world
    let others := writeEach writing.after rest writing.world
    ⟨writing.answer :: others.answers, others.after, others.world⟩

end AnySink

namespace Sink

variable {σ : Type} {depth : Nat}

theorem uncounted_layered (sink : AnySink σ) (counters : List Counter) :
    (layered sink counters).2.uncounted =
      (sink.2.uncounted.1, sink.2.uncounted.2 ++ counters) := rfl

/-- Taking counting layers off one by one, the outermost one first, finds these counters in turn. -/
inductive Peels : AnySink σ → List (List Counter) → AnySink σ → Prop where
  | bare {sink : AnySink σ} (none : sink.2.peel = (sink, none)) : Peels sink [] sink
  | layer {sink inner bare : AnySink σ} {counters : List Counter} {found : List (List Counter)}
    (some : sink.2.peel = (inner, some counters)) (peels : Peels inner found bare) :
    Peels sink (counters :: found) bare

/-- The layers come off outermost first, and their counters are lined up innermost first. -/
theorem Peels.uncounted {sink bare : AnySink σ} {found : List (List Counter)}
    (peels : Peels sink found bare) : sink.2.uncounted = (bare, found.reverse.flatten) := by
  induction peels with
  | @bare sink none =>
    obtain ⟨depth, sink⟩ := sink
    cases sink with
    | counted => cases none
    | peer | descriptor | shared | plain | staged => rfl
  | @layer sink _ _ counters found some _ ih =>
    obtain ⟨depth, sink⟩ := sink
    cases sink with
    | counted =>
      cases some
      rw [Sink.uncounted, ih]
      simp
    | peer | descriptor | shared | plain | staged => cases some

/-- Sooner or later the last layer is off. -/
theorem peels_uncounted (sink : Sink σ depth) :
    ∃ found, Peels ⟨depth, sink⟩ found sink.uncounted.1 := by
  induction sink with
  | peer | descriptor | shared | plain | staged => exact ⟨[], .bare rfl⟩
  | counted counters _ _ ih =>
    obtain ⟨found, peels⟩ := ih
    exact ⟨counters :: found, .layer rfl peels⟩

theorem peel_uncounted (sink : Sink σ depth) :
    sink.uncounted.1.2.peel = (sink.uncounted.1, none) := by
  induction sink with
  | peer | descriptor | shared | plain | staged => rfl
  | counted _ _ _ ih => exact ih

/-- A sink without a counting layer is left as it is. -/
theorem uncounted_of_peel {sink : Sink σ depth} (bare : sink.peel.2 = none) :
    sink.uncounted = (⟨depth, sink⟩, []) := by
  cases sink with
  | counted => cases bare
  | peer | descriptor | shared | plain | staged => rfl

theorem uncounted_twice (sink : Sink σ depth) :
    sink.uncounted.1.2.uncounted = (sink.uncounted.1, []) :=
  uncounted_of_peel (congrArg Prod.snd sink.peel_uncounted)

theorem uncounted_under (sink : AnySink σ) (layers : List (List Counter)) :
    (under sink layers).2.uncounted =
      (sink.2.uncounted.1, sink.2.uncounted.2 ++ layers.flatten) := by
  induction layers generalizing sink with
  | nil => simp [under]
  | cons counters rest ih =>
    rw [under, List.foldl_cons, ← under, ih]
    simp [layered, uncounted]

theorem count_eq (sink : Sink σ depth) (counters : List Counter) : sink.count counters =
    if counters = [] then ⟨depth, sink⟩
    else layered sink.uncounted.1 (sink.uncounted.2 ++ counters) := by
  simp only [count, List.isEmpty_iff, layered]

theorem uncounted_count (sink : Sink σ depth) (counters : List Counter) :
    (sink.count counters).2.uncounted = (sink.uncounted.1, sink.uncounted.2 ++ counters) := by
  rw [count_eq]
  by_cases none : counters = []
  · rw [if_pos none, none, List.append_nil]
  · rw [if_neg none, uncounted_layered, sink.uncounted_twice, List.nil_append]

/-- However often a sink without counting layers is counted, it has one layer at most. -/
theorem foldl_count {sink : AnySink σ} (bare : sink.2.peel.2 = none)
    (rows : List (List Counter)) :
    rows.foldl (fun inner counters => inner.2.count counters) sink =
      if rows.flatten = [] then sink else layered sink rows.flatten := by
  induction rows using List.reverseRecOn with
  | nil => rfl
  | append_singleton rows counters ih =>
    have alone : sink.2.uncounted = (sink, []) := uncounted_of_peel bare
    have front : (if rows.flatten = [] then sink else layered sink rows.flatten).2.uncounted =
        (sink, rows.flatten) := by
      by_cases none : rows.flatten = []
      · rw [if_pos none, none, alone]
      · rw [if_neg none, uncounted_layered, alone, List.nil_append]
    rw [List.foldl_append, ih, List.foldl_cons, List.foldl_nil, count_eq, front,
      List.flatten_append, List.flatten_singleton]
    by_cases none : counters = []
    · rw [if_pos none, none, List.append_nil]
    · rw [if_neg none, if_neg (List.append_ne_nil_of_right_ne_nil _ none)]

variable [WritePeer σ]

theorem peel_write {sink : Sink σ depth} (bare : sink.peel.2 = none) (bytes : Bytes)
    (world : World) : (sink.write depth bytes world).after.peel.2 = none := by
  cases sink with
  | counted => cases bare
  | peer | descriptor | shared | plain | staged => rfl

/-- A write through counting layers is a write to what lies beneath, and then the counters of all
layers are called with what went, those of the innermost layer first. -/
theorem write_uncounted (sink : Sink σ depth) (bytes : Bytes) (world : World) :
    let beneath := sink.uncounted.1.write bytes world
    let writing := sink.write depth bytes world
    writing.answer = beneath.answer ∧
      writing.world = beneath.world.count sink.uncounted.2 (WritePeer.went beneath.answer) ∧
      writing.after.uncounted = (beneath.after, sink.uncounted.2) := by
  induction sink with
  | peer | descriptor | shared | plain | staged =>
    exact ⟨rfl, (World.count_nil _ _).symm, uncounted_of_peel (peel_write rfl bytes world)⟩
  | counted counters total inner ih =>
    obtain ⟨answer, after, bare⟩ := ih
    simp only [uncounted, write]
    rw [answer] at *
    cases outcome : (inner.uncounted.1.write bytes world).answer with
    | ok taken =>
      refine ⟨rfl, ?_, ?_⟩
      · simp only [after, outcome, WritePeer.went, World.count_append]
      · simp only [uncounted, bare]
    | error fault =>
      refine ⟨rfl, ?_, ?_⟩
      · simp only [after, outcome, WritePeer.went, World.count_zero]
      · simp only [uncounted, bare]

/-- Sinks alike beneath their counting layers, with the same counters in the same order, take
writes alike. -/
theorem writeEach_alike {sink other : AnySink σ} (alike : sink.2.uncounted = other.2.uncounted)
    (pieces : List Bytes) (world : World) :
    (sink.writeEach pieces world).answers = (other.writeEach pieces world).answers ∧
      (sink.writeEach pieces world).world = (other.writeEach pieces world).world ∧
      (sink.writeEach pieces world).after.2.uncounted =
        (other.writeEach pieces world).after.2.uncounted := by
  induction pieces generalizing sink other world with
  | nil => exact ⟨rfl, rfl, alike⟩
  | cons bytes rest ih =>
    obtain ⟨answer, after, left⟩ := sink.2.write_uncounted bytes world
    obtain ⟨otherAnswer, otherAfter, otherLeft⟩ := other.2.write_uncounted bytes world
    rw [← alike] at otherAnswer otherAfter otherLeft
    have same : (sink.write bytes world).world = (other.write bytes world).world :=
      after.trans otherAfter.symm
    have answers : (sink.write bytes world).answer = (other.write bytes world).answer :=
      answer.trans otherAnswer.symm
    have beneath : (sink.write bytes world).after.2.uncounted =
        (other.write bytes world).after.2.uncounted := left.trans otherLeft.symm
    obtain ⟨others, last, ends⟩ := ih beneath (other.write bytes world).world
    rw [AnySink.writeEach, AnySink.writeEach, same]
    exact ⟨congrArg₂ List.cons answers others, last, ends⟩

/-- Merging the counting layers on a sink changes nothing that writes show. -/
structure Merges (sink : AnySink σ) (layers : List (List Counter)) (bare : AnySink σ)
    (counters : List Counter) : Prop where
  /-- Taking the layers off finds every counter once, those of inner layers first. -/
  uncounted : (under sink layers).2.uncounted = (bare, counters)
  /-- The layers come off outermost first; each is put in front of what came off before it. -/
  peels : ∃ found, Peels (under sink layers) found bare ∧ counters = found.reverse.flatten
  /-- Taking layers off a second time finds nothing. -/
  again : bare.2.uncounted = (bare, [])
  /-- More counters go behind those that are there. -/
  behind : ∀ more, ((under sink layers).2.count more).2.uncounted = (bare, counters ++ more)
  /-- However often counters are put on, there is one layer at most. -/
  single : ∀ rows : List (List Counter),
    rows.foldl (fun inner counters => inner.2.count counters) bare =
      if rows.flatten = [] then bare else layered bare rows.flatten
  /-- Writes through the stack and through the one layer come to the same. -/
  alike : ∀ pieces world,
    let nested := (under sink layers).writeEach pieces world
    let merged := (bare.2.count counters).writeEach pieces world
    nested.answers = merged.answers ∧ nested.world = merged.world ∧
      nested.after.2.uncounted = merged.after.2.uncounted
  /-- A write is one of what lies beneath, and then the counters are called with what went. -/
  calls : ∀ bytes world,
    let beneath := bare.write bytes world
    let writing := (under sink layers).write bytes world
    let went := WritePeer.went beneath.answer
    writing.answer = beneath.answer ∧ writing.after.2.uncounted = (beneath.after, counters) ∧
      writing.world = beneath.world.count counters went ∧
      writing.world.journal.events = beneath.world.journal.events ++
        if went = 0 then [] else counters.map fun c => .counted c went

theorem merges (sink : AnySink σ) (layers : List (List Counter)) :
    Merges sink layers sink.2.uncounted.1 (sink.2.uncounted.2 ++ layers.flatten) := by
  have found := uncounted_under sink layers
  have again : sink.2.uncounted.1.2.uncounted = (sink.2.uncounted.1, []) :=
    sink.2.uncounted_twice
  refine ⟨found, ?_, again, ?_, ?_, ?_, ?_⟩
  · obtain ⟨off, peels⟩ := (under sink layers).2.peels_uncounted
    have same := peels.uncounted
    rw [found] at peels same
    exact ⟨off, peels, congrArg Prod.snd same⟩
  · intro more
    rw [uncounted_count, found]
  · exact foldl_count (congrArg Prod.snd sink.2.peel_uncounted)
  · refine writeEach_alike ?_
    rw [found, uncounted_count, again, List.nil_append]
  · intro bytes world beneath writing went
    obtain ⟨answer, after, left⟩ := (under sink layers).2.write_uncounted bytes world
    rw [found] at answer after left
    refine ⟨answer, left, after, ?_⟩
    exact (congrArg (·.journal.events) after).trans (World.events_count _ _ _)

end Sink

/-- Merging counting layers changes nothing that reads or writes show. Layers on any endpoint, read
or written through one by one, come to the same answers, the same world with the same journal, and
the same endpoint beneath as the one layer that holds the counters which taking the layers off
brings to light. Each call is a call of the bare endpoint, after which these counters are called,
those of the innermost layer first, with what passed, and not at all where nothing passed or the
call failed. -/
theorem counting_merges {ρ σ : Type} [ReadPeer ρ] [WritePeer σ] (source : Source ρ)
    (sink : AnySink σ) (layers : List (List Counter)) :
    source.Merges layers source.uncounted.1 (source.uncounted.2 ++ layers.flatten) ∧
      Sink.Merges sink layers sink.2.uncounted.1 (sink.2.uncounted.2 ++ layers.flatten) :=
  ⟨source.merges layers, Sink.merges sink layers⟩

end Conduit
