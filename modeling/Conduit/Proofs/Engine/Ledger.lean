import Conduit.Engine.Early
import Conduit.Proofs.Sink.Giving
import Conduit.Proofs.Source.Layers

set_option autoImplicit false

namespace Conduit

structure Stand (ρ σ : Type) (depth : Nat) where
  source : Source ρ
  /-- Bytes taken out of the source that no one was given yet. -/
  transit : Bytes
  course : Course σ depth

namespace Stand

variable {ρ σ : Type} {depth : Nat}

/-- The bytes that are under way or lie in stock, in the order in which the destination gets
them. -/
def ready (stand : Stand ρ σ depth) : Bytes :=
  stand.transit ++ stand.source.stock stand.course.world.stores

/-- The destination claims no more than it is offered, and what it writes to is no part of the
source. -/
structure Sound [WritePeer σ] (stand : Stand ρ σ depth) : Prop where
  modest : stand.course.sink.sink.Modest
  /-- Shared buffers in the destination exist, and the source has none of them. -/
  apart : ∀ handle ∈ stand.course.sink.sink.handles,
    handle ∉ stand.source.handles ∧ handle < stand.course.world.cells.next

theorem Sound.aside [WritePeer σ] {stand : Stand ρ σ depth} (sound : stand.Sound) :
    ∀ handle ∈ stand.source.handles, handle ∉ stand.course.sink.sink.handles :=
  fun handle member inside => (sound.apart handle inside).1 member

/-- Counting layers make no difference to it. -/
theorem Sound.uncounted [WritePeer σ] {source : Source ρ} {transit : Bytes}
    {course : Course σ depth} (sound : Sound ⟨source, transit, course⟩) :
    Sound ⟨source.uncounted.1, transit, course⟩ where
  modest := sound.modest
  apart := by
    rw [Source.handles_uncounted]
    exact sound.apart

variable [ReadPeer ρ] [WritePeer σ]

/-- No fault of either end passes for the end of a stream, and the end of the source lasts. -/
structure Orderly (stand : Stand ρ σ depth) : Prop where
  source : stand.source.Orderly
  sink : stand.course.sink.sink.Orderly

theorem Orderly.uncounted {source : Source ρ} {transit : Bytes} {course : Course σ depth}
    (orderly : Orderly ⟨source, transit, course⟩) :
    Orderly ⟨source.uncounted.1, transit, course⟩ :=
  ⟨(Source.orderly_uncounted source).mpr orderly.source, orderly.sink⟩

/-- What happens between two moments of a copy: the destination was given some bytes, and the live
reader gave others. -/
structure Moves (counters : CounterSet) (first : Stand ρ σ depth) (given gained : Bytes)
    (last : Stand ρ σ depth) : Prop where
  sound : last.Sound
  orderly : first.Orderly → last.Orderly
  heard : last.course.world.obtained = first.course.world.obtained ++ gained
  calls : ∃ more, last.course.sink.calls = first.course.sink.calls ++ more ∧
    more.flatMap SinkCall.taken = given
  /-- Nothing is lost, repeated or reordered. -/
  flow : first.ready ++ gained = given ++ last.ready
  copied : last.course.copied = first.course.copied + given.length
  live : ∀ reader, first.source.live? = some reader →
    ∃ later, last.source.live? = some later ∧ ReadPeer.Run reader gained later
  /-- A live reader with a stream to give has the rest of it left. -/
  supply : ∀ tail patience, first.source.Gives tail patience →
    ∃ rest fewer, tail = gained ++ rest ∧ fewer ≤ patience ∧ last.source.Gives rest fewer
  /-- The layers of the source call their counters for what passes them, and the copy calls the read
  counters for what was taken out of the source and the write counters for what was given. -/
  books : ∀ counter, counter ∉ first.course.sink.sink.counters → ∃ own,
    own + last.source.due counter last.course.world.stores =
        first.source.due counter first.course.world.stores +
          first.source.registered counter * gained.length ∧
      last.course.world.tally counter + counters.read.count counter * first.transit.length =
        first.course.world.tally counter + own +
          counters.read.count counter * (given.length + last.transit.length) +
          counters.write.count counter * given.length
  registered : ∀ counter, last.source.registered counter = first.source.registered counter
  quiet : last.course.world.emptyCalls = first.course.world.emptyCalls
  far : last.source.far? = first.source.far?
  descriptor : last.course.sink.sink.descriptor? = first.course.sink.sink.descriptor?
  counters : last.course.sink.sink.counters = first.course.sink.sink.counters

namespace Moves

variable {counters : CounterSet}

theorem refl {stand : Stand ρ σ depth} (sound : stand.Sound) :
    Moves counters stand [] [] stand where
  sound := sound
  orderly := id
  heard := (List.append_nil _).symm
  calls := ⟨[], (List.append_nil _).symm, rfl⟩
  flow := List.append_nil _
  copied := rfl
  live := fun reader found => ⟨reader, found, .still reader⟩
  supply := fun tail patience gives => ⟨tail, patience, rfl, Nat.le_refl _, gives⟩
  books := fun counter _ => ⟨0, by simp, by simp⟩
  registered := fun _ => rfl
  quiet := rfl
  far := rfl
  descriptor := rfl
  counters := rfl

variable {first middle last : Stand ρ σ depth} {early late earlier further : Bytes}

theorem trans (front : Moves counters first early earlier middle)
    (back : Moves counters middle late further last) :
    Moves counters first (early ++ late) (earlier ++ further) last where
  sound := back.sound
  orderly := back.orderly ∘ front.orderly
  heard := by rw [back.heard, front.heard, List.append_assoc]
  calls := by
    obtain ⟨more, grown, took⟩ := front.calls
    obtain ⟨others, regrown, retook⟩ := back.calls
    refine ⟨more ++ others, by rw [regrown, grown, List.append_assoc], ?_⟩
    rw [List.flatMap_append, took, retook]
  flow := by
    rw [← List.append_assoc, front.flow, List.append_assoc, back.flow, List.append_assoc]
  copied := by
    rw [back.copied, front.copied, List.length_append]
    omega
  live := by
    intro reader found
    obtain ⟨mid, kept, run⟩ := front.live reader found
    obtain ⟨later, rekept, rerun⟩ := back.live mid kept
    exact ⟨later, rekept, run.trans rerun⟩
  supply := by
    intro tail patience gives
    obtain ⟨between, fewer, split, fits, on⟩ := front.supply tail patience gives
    obtain ⟨rest, fewest, resplit, refits, again⟩ := back.supply between fewer on
    exact ⟨rest, fewest, by rw [split, resplit, List.append_assoc], Nat.le_trans refits fits, again⟩
  books := by
    intro counter outside
    obtain ⟨own, settled, called⟩ := front.books counter outside
    obtain ⟨more, resettled, recalled⟩ := back.books counter (by rwa [front.counters])
    refine ⟨own + more, ?_, ?_⟩
    · rw [front.registered counter] at resettled
      rw [List.length_append, Nat.mul_add]
      omega
    · simp only [List.length_append, Nat.mul_add] at called recalled ⊢
      omega
  registered := fun counter => (back.registered counter).trans (front.registered counter)
  quiet := back.quiet.trans front.quiet
  far := back.far.trans front.far
  descriptor := back.descriptor.trans front.descriptor
  counters := back.counters.trans front.counters

variable {source later : Source ρ} {course : Course σ depth} {sink : Watched σ depth}
  {between after : World} {transit left given bytes gained : Bytes}

/-- The one way in which a copy moves: the destination is given some bytes, bytes are drawn from the
source, and counters are called for both. -/
theorem step (counters : CounterSet) (sound : Sound ⟨source, transit, course⟩)
    (gives : Watched.Gives course.sink course.world given sink between)
    (draws : Source.Draws source between bytes gained later after)
    (order : transit ++ bytes = given ++ left) :
    Moves counters ⟨source, transit, course⟩ given gained
      ⟨later, left, sink, course.copied + given.length,
        (after.count counters.read bytes.length).count counters.write given.length⟩ := by
  -- The destination is called first, and has no buffer that the source reads from.
  have untouched : source.stock between.stores = source.stock course.world.stores := by
    refine Source.stock_congr source _ _ ?_ gives.becomes.incoming
    exact fun handle inside => gives.becomes.held handle fun shared =>
      (sound.apart handle shared).1 inside
  have undue (counter : Counter) : source.due counter between.stores =
      source.due counter course.world.stores := by
    refine Source.due_congr counter source _ _ ?_ gives.becomes.incoming
    exact fun handle inside => gives.becomes.held handle fun shared =>
      (sound.apart handle shared).1 inside
  have lengths := congrArg List.length order
  simp only [List.length_append] at lengths
  refine ⟨⟨gives.becomes.modest sound.modest, ?_⟩,
    fun ends => ⟨draws.orderly ends.source, gives.becomes.orderly ends.sink⟩, ?_, gives.calls, ?_,
    rfl, draws.live, draws.supply, ?_, draws.registered, ?_, draws.far, gives.becomes.descriptor,
    gives.becomes.counters⟩
  · intro handle inside
    have before := sound.apart handle (gives.becomes.handles ▸ inside)
    have old : handle < between.cells.next := Nat.lt_of_lt_of_le before.2 gives.becomes.made
    refine ⟨?_, Nat.lt_of_lt_of_le old draws.made⟩
    intro shared
    rcases draws.handles handle shared with kept | new
    · exact before.1 kept
    · exact Nat.not_lt_of_le new old
  · have silent : between.obtained = course.world.obtained := by
      refine gives.becomes.logs.obtained_eq fun event ofSink => ?_
      cases event <;> first | rfl | exact absurd ofSink id
    simp only [World.obtained_count, draws.heard, silent]
  · show transit ++ source.stock course.world.stores ++ gained =
      given ++ (left ++ later.stock after.stores)
    rw [← untouched, List.append_assoc, draws.flow, ← List.append_assoc, order, List.append_assoc]
  · intro counter outside
    obtain ⟨own, called, settled⟩ := draws.books counter
    rw [undue counter] at settled
    refine ⟨own, settled, ?_⟩
    have silent : between.tally counter = course.world.tally counter := by
      refine gives.becomes.logs.tally_eq fun event ofSink => ?_
      cases event with
      | counted other amount =>
        have apart : other ≠ counter := fun same => outside (same ▸ ofSink.1)
        simp [Event.tally, apart]
      | _ => rfl
    simp only [World.tally_count, called, silent]
    have read := congrArg (counters.read.count counter * ·) lengths
    simp only [Nat.mul_add] at read ⊢
    omega
  · have silent : between.emptyCalls = course.world.emptyCalls := by
      refine gives.becomes.logs.emptyCalls_eq fun event ofSink => ?_
      cases event with
      | counted other amount => simp [Event.isEmptyCall, ofSink.2]
      | _ => rfl
    simp only [World.emptyCalls_count, draws.quiet, silent]

/-- Layers are rearranged, or bytes move within the source. -/
theorem within (counters : CounterSet) (sound : Sound ⟨source, transit, course⟩)
    (draws : Source.Draws source course.world [] gained later after) :
    Moves counters ⟨source, transit, course⟩ [] gained
      ⟨later, transit, course.inWorld after⟩ :=
  step counters sound (Watched.Gives.refl course.sink course.world) draws
    (List.append_nil transit)

theorem out (counters : CounterSet) (sound : Sound ⟨source, transit, course⟩)
    (draws : Source.Draws source course.world bytes gained later after) :
    Moves counters ⟨source, transit, course⟩ [] gained
      ⟨later, transit ++ bytes, course.inWorld (after.count counters.read bytes.length)⟩ :=
  step counters sound (Watched.Gives.refl course.sink course.world) draws rfl

/-- Bytes in transit are given to the destination, and the write counters called. -/
theorem sent (counters : CounterSet) (sound : Sound ⟨source, transit, course⟩)
    (gives : Watched.Gives course.sink course.world given sink between)
    (order : transit = given ++ left) :
    Moves counters ⟨source, transit, course⟩ given []
      ⟨source, left, sink, course.copied + given.length,
        between.count counters.write given.length⟩ :=
  step counters sound gives (Source.Draws.still source (World.Unmoved.refl between))
    ((List.append_nil transit).trans order)

end Moves

end Stand

end Conduit
