import Conduit.Proofs.Source.Stacks
import Mathlib.Data.List.Induction

set_option autoImplicit false

namespace Conduit

namespace Journal

/-- Calling counters in two rows is calling them in one. -/
theorem count_append (journal : Journal) (first second : List Counter) (bytes : Nat) :
    journal.count (first ++ second) bytes = (journal.count first bytes).count second bytes := by
  unfold count
  split
  · rfl
  · rw [List.foldl_append]

end Journal

namespace World

theorem count_append (world : World) (first second : List Counter) (bytes : Nat) :
    world.count (first ++ second) bytes = (world.count first bytes).count second bytes :=
  congrArg (fun journal => { world with journal }) (world.journal.count_append first second bytes)

@[simp] theorem count_zero (world : World) (counters : List Counter) :
    world.count counters 0 = world := rfl

/-- The records that a call of counters adds: one for each, in order, and none for no bytes. -/
theorem events_count (world : World) (counters : List Counter) (bytes : Nat) :
    (world.count counters bytes).journal.events =
      world.journal.events ++ if bytes = 0 then [] else counters.map fun c => .counted c bytes :=
  world.journal.events_count counters bytes

end World

namespace Source

variable {ρ : Type}

theorem uncounted_counted (counters : List Counter) (total : Nat) (inner : Source ρ) :
    (counted counters total inner).uncounted =
      (inner.uncounted.1, inner.uncounted.2 ++ counters) := rfl

def under (source : Source ρ) (layers : List (List Counter)) : Source ρ :=
  layers.foldl (fun inner counters => .counted counters 0 inner) source

/-- Taking counting layers off one by one, the outermost one first, finds these counters in turn. -/
inductive Peels : Source ρ → List (List Counter) → Source ρ → Prop where
  | bare {source : Source ρ} (none : source.peel = (source, none)) : Peels source [] source
  | layer {source inner bare : Source ρ} {counters : List Counter} {found : List (List Counter)}
    (some : source.peel = (inner, some counters)) (peels : Peels inner found bare) :
    Peels source (counters :: found) bare

/-- The layers come off outermost first, and their counters are lined up innermost first. -/
theorem Peels.uncounted {source bare : Source ρ} {found : List (List Counter)}
    (peels : source.Peels found bare) : source.uncounted = (bare, found.reverse.flatten) := by
  induction peels with
  | @bare source none =>
    cases source with
    | counted => cases none
    | peer | descriptor | buffer | cached | plain => rfl
  | @layer source _ _ counters found some _ ih =>
    cases source with
    | counted =>
      cases some
      rw [Source.uncounted, ih]
      simp
    | peer | descriptor | buffer | cached | plain => cases some

/-- Sooner or later the last layer is off. -/
theorem peels_uncounted (source : Source ρ) : ∃ found, source.Peels found source.uncounted.1 := by
  induction source with
  | peer | descriptor | buffer | cached | plain => exact ⟨[], .bare rfl⟩
  | counted counters _ _ ih =>
    obtain ⟨found, peels⟩ := ih
    exact ⟨counters :: found, .layer rfl peels⟩

theorem peel_uncounted (source : Source ρ) :
    source.uncounted.1.peel = (source.uncounted.1, none) := by
  induction source with
  | peer | descriptor | buffer | cached | plain => rfl
  | counted _ _ _ ih => exact ih

/-- A source without a counting layer is left as it is. -/
theorem uncounted_of_peel {source : Source ρ} (bare : source.peel.2 = none) :
    source.uncounted = (source, []) := by
  cases source with
  | counted => cases bare
  | peer | descriptor | buffer | cached | plain => rfl

theorem uncounted_twice (source : Source ρ) :
    source.uncounted.1.uncounted = (source.uncounted.1, []) :=
  uncounted_of_peel (congrArg Prod.snd source.peel_uncounted)

theorem uncounted_under (source : Source ρ) (layers : List (List Counter)) :
    (source.under layers).uncounted =
      (source.uncounted.1, source.uncounted.2 ++ layers.flatten) := by
  induction layers generalizing source with
  | nil => simp [under]
  | cons counters rest ih =>
    rw [under, List.foldl_cons, ← under, ih]
    simp [uncounted]

theorem count_eq (source : Source ρ) (counters : List Counter) : source.count counters =
    if counters = [] then source
    else .counted (source.uncounted.2 ++ counters) 0 source.uncounted.1 := by
  simp only [count, List.isEmpty_iff]

theorem uncounted_count (source : Source ρ) (counters : List Counter) :
    (source.count counters).uncounted =
      (source.uncounted.1, source.uncounted.2 ++ counters) := by
  rw [count_eq]
  by_cases none : counters = []
  · rw [if_pos none, none, List.append_nil]
  · rw [if_neg none, uncounted_counted, source.uncounted_twice, List.nil_append]

/-- However often a source without counting layers is counted, it has one layer at most. -/
theorem foldl_count {source : Source ρ} (bare : source.peel.2 = none)
    (rows : List (List Counter)) : rows.foldl count source =
      if rows.flatten = [] then source else .counted rows.flatten 0 source := by
  induction rows using List.reverseRecOn with
  | nil => rfl
  | append_singleton rows counters ih =>
    have alone := uncounted_of_peel bare
    have front : (if rows.flatten = [] then source
        else .counted rows.flatten 0 source).uncounted = (source, rows.flatten) := by
      by_cases none : rows.flatten = []
      · rw [if_pos none, none, alone]
      · rw [if_neg none, uncounted_counted, alone, List.nil_append]
    rw [List.foldl_append, ih, List.foldl_cons, List.foldl_nil, count_eq, front,
      List.flatten_append, List.flatten_singleton]
    by_cases none : counters = []
    · rw [if_pos none, none, List.append_nil]
    · rw [if_neg none, if_neg (List.append_ne_nil_of_right_ne_nil _ none)]

section

variable [ReadPeer ρ]

theorem peel_read {source : Source ρ} (bare : source.peel.2 = none) (wanted : Nat)
    (world : World) : (source.read wanted world).after.peel.2 = none := by
  have reads := source.reads_read wanted world
  generalize source.read wanted world = reading at reads
  cases reads with
  | counted | uncounted => cases bare
  | peer | descriptor | buffer | deferred | nothing | through | part | whole | joined | kept
  | failed | plain => rfl

/-- A read through counting layers is a read of what lies beneath, and then the counters of all
layers are called with what it brought, those of the innermost layer first. -/
theorem read_uncounted (source : Source ρ) (wanted : Nat) (world : World) :
    let beneath := source.uncounted.1.read wanted world
    let reading := source.read wanted world
    reading.answer = beneath.answer ∧
      reading.world = beneath.world.count source.uncounted.2
        (ReadPeer.brought beneath.answer).length ∧
      reading.after.uncounted = (beneath.after, source.uncounted.2) := by
  induction source with
  | peer | descriptor | buffer | cached | plain =>
    refine ⟨rfl, (World.count_nil _ _).symm, uncounted_of_peel (peel_read rfl wanted world)⟩
  | counted counters total inner ih =>
    obtain ⟨answer, after, bare⟩ := ih
    simp only [uncounted, read]
    rw [answer] at *
    cases outcome : (inner.uncounted.1.read wanted world).answer with
    | ok bytes =>
      refine ⟨rfl, ?_, ?_⟩
      · simp only [after, outcome, ReadPeer.brought, World.count_append]
      · simp only [uncounted, bare]
    | error fault =>
      refine ⟨rfl, ?_, ?_⟩
      · simp only [after, outcome, ReadPeer.brought, List.length_nil, World.count_zero]
      · simp only [uncounted, bare]

/-- Sources alike beneath their counting layers, with the same counters in the same order, read
alike. -/
theorem readEach_alike {source other : Source ρ} (alike : source.uncounted = other.uncounted)
    (sizes : List Nat) (world : World) :
    (source.readEach sizes world).answers = (other.readEach sizes world).answers ∧
      (source.readEach sizes world).world = (other.readEach sizes world).world ∧
      (source.readEach sizes world).after.uncounted =
        (other.readEach sizes world).after.uncounted := by
  induction sizes generalizing source other world with
  | nil => exact ⟨rfl, rfl, alike⟩
  | cons wanted rest ih =>
    obtain ⟨answer, after, left⟩ := source.read_uncounted wanted world
    obtain ⟨otherAnswer, otherAfter, otherLeft⟩ := other.read_uncounted wanted world
    rw [← alike] at otherAnswer otherAfter otherLeft
    obtain ⟨answers, last, ends⟩ :=
      ih (left.trans otherLeft.symm) (source.read wanted world).world
    rw [after, ← otherAfter] at answers last ends
    simp only [readEach, answer, otherAnswer, after, ← otherAfter]
    exact ⟨congrArg _ answers, last, ends⟩

/-- Merging the counting layers on a source changes nothing that reads show. -/
structure Merges (source : Source ρ) (layers : List (List Counter)) (bare : Source ρ)
    (counters : List Counter) : Prop where
  /-- Taking the layers off finds every counter once, those of inner layers first. -/
  uncounted : (source.under layers).uncounted = (bare, counters)
  /-- The layers come off outermost first; each is put in front of what came off before it. -/
  peels : ∃ found, (source.under layers).Peels found bare ∧ counters = found.reverse.flatten
  /-- Taking layers off a second time finds nothing. -/
  again : bare.uncounted = (bare, [])
  /-- More counters go behind those that are there. -/
  behind : ∀ more, ((source.under layers).count more).uncounted = (bare, counters ++ more)
  /-- However often counters are put on, there is one layer at most. -/
  single : ∀ rows : List (List Counter), rows.foldl count bare =
    if rows.flatten = [] then bare else .counted rows.flatten 0 bare
  /-- Reads through the stack and through the one layer come to the same. -/
  alike : ∀ sizes world,
    let nested := (source.under layers).readEach sizes world
    let merged := (bare.count counters).readEach sizes world
    nested.answers = merged.answers ∧ nested.world = merged.world ∧
      nested.after.uncounted = merged.after.uncounted
  /-- A read is one of what lies beneath, and then the counters are called with what it brought. -/
  calls : ∀ wanted world,
    let beneath := bare.read wanted world
    let reading := (source.under layers).read wanted world
    let passed := (ReadPeer.brought beneath.answer).length
    reading.answer = beneath.answer ∧ reading.after.uncounted = (beneath.after, counters) ∧
      reading.world = beneath.world.count counters passed ∧
      reading.world.journal.events = beneath.world.journal.events ++
        if passed = 0 then [] else counters.map fun c => .counted c passed

theorem merges (source : Source ρ) (layers : List (List Counter)) :
    source.Merges layers source.uncounted.1 (source.uncounted.2 ++ layers.flatten) := by
  have found := source.uncounted_under layers
  have again := source.uncounted_twice
  refine ⟨found, ?_, again, ?_, ?_, ?_, ?_⟩
  · obtain ⟨off, peels⟩ := (source.under layers).peels_uncounted
    have same := peels.uncounted
    rw [found] at peels same
    exact ⟨off, peels, congrArg Prod.snd same⟩
  · intro more
    rw [uncounted_count, found]
  · exact foldl_count (congrArg Prod.snd source.peel_uncounted)
  · refine readEach_alike ?_
    rw [found, uncounted_count, again, List.nil_append]
  · intro wanted world beneath reading passed
    obtain ⟨answer, after, left⟩ := (source.under layers).read_uncounted wanted world
    rw [found] at answer after left
    refine ⟨answer, left, after, ?_⟩
    exact (congrArg (·.journal.events) after).trans (World.events_count _ _ _)

end

end Source

end Conduit
