import Conduit.Proofs.Sink.Timing
import Conduit.Proofs.Transfer.Agreement
import Conduit.Proofs.Transfer.Likeness
import Conduit.Sink.Watched

set_option autoImplicit false

namespace Conduit

namespace Sink

variable {σ : Type} {world other : World}

/-- One sink lies beneath the counting layers of the other. -/
inductive Wraps {depth : Nat} (bare : Sink σ depth) : {outer : Nat} → Sink σ outer → Prop where
  | bare : Wraps bare bare
  | layer {outer : Nat} {inner : Sink σ outer} (counters : List Counter) (total : Nat)
    (wraps : Wraps bare inner) : Wraps bare (.counted counters total inner)

theorem drop_agrees {depth : Nat} (sink : Sink σ depth) (agrees : world.Agrees other) :
    (sink.drop world).Agrees (sink.drop other) := by
  induction sink with
  | peer | descriptor => exact agrees
  | shared handle => exact agrees.release handle
  | counted _ _ _ ih | plain _ ih => exact ih
  | staged buffer _ ih => exact ih.dropBuffer buffer

theorem Wraps.drop {depth outer : Nat} {bare : Sink σ depth} {sink : Sink σ outer}
    (wraps : bare.Wraps sink) (agrees : world.Agrees other) :
    (sink.drop world).Agrees (bare.drop other) := by
  induction wraps with
  | bare => exact bare.drop_agrees agrees
  | layer _ _ _ ih => exact ih

variable [WritePeer σ]

theorem write_agrees {depth : Nat} (sink : Sink σ depth) (bytes : Bytes)
    (agrees : world.Agrees other) :
    Called.Agrees Eq (sink.write depth bytes world) (sink.write depth bytes other) :=
  (write_matches World.Agrees.likeness depth sink bytes agrees).agrees

theorem greet_agrees {depth : Nat} (sink : Sink σ depth) (agrees : world.Agrees other) :
    Called.Agrees Eq (sink.greet world) (sink.greet other) := by
  cases sink with
  | peer writer => exact ⟨rfl, rfl, agrees.record _⟩
  | _ => exact ⟨rfl, rfl, agrees⟩

theorem feed_agrees {depth : Nat} (sink : Sink σ depth) (bytes : Bytes)
    (agrees : world.Agrees other) :
    Called.Agrees Eq (sink.feed bytes world) (sink.feed bytes other) := by
  cases sink with
  | peer writer => exact ⟨rfl, rfl, agrees.record _⟩
  | _ => exact ⟨rfl, rfl, agrees⟩

theorem descriptor_write {depth : Nat} (sink : Sink σ depth) (bytes : Bytes) (world : World) :
    (sink.write depth bytes world).after.descriptor? = sink.descriptor? := by
  cases sink with
  | peer | descriptor | shared | plain | staged => rfl
  | counted =>
    simp only [write]
    split <;> rfl

/-- What is written to counting layers is written to what lies beneath them. -/
theorem Wraps.write {depth outer : Nat} {bare : Sink σ depth} {sink : Sink σ outer}
    (wraps : bare.Wraps sink) (bytes : Bytes) (agrees : world.Agrees other) :
    Called.Agrees (fun sink bare => Wraps bare sink) (sink.write outer bytes world)
      (bare.write depth bytes other) := by
  induction wraps with
  | bare =>
    have same := bare.write_agrees bytes agrees
    exact ⟨same.answer, same.after ▸ .bare, same.world⟩
  | layer counters total _ ih =>
    simp only [Sink.write, ih.answer]
    split
    · rename_i taken answer
      have counted := ih.world.count counters [] taken taken
      rw [World.count_nil] at counted
      exact ⟨answer.symm, .layer _ _ ih.after, counted⟩
    · rename_i fault answer
      exact ⟨answer.symm, .layer _ _ ih.after, ih.world⟩

end Sink

namespace Watched

variable {σ : Type} [WritePeer σ] {depth other : Nat}

/-- Whatever a copy calls of destinations that are alike, they answer the same and stay alike. -/
structure Mirrors (Like : Watched σ depth → Watched σ other → Prop) : Prop where
  handshake : ∀ {watched mirror}, Like watched mirror → watched.handshake? = mirror.handshake?
  write : Writing.Agrees Like Watched.write Watched.write
  greet : ∀ {watched mirror world later}, Like watched mirror → World.Agrees world later →
    watched.handshake? = some .plain → Called.Agrees Like (watched.greet world) (mirror.greet later)
  feed : ∀ {watched mirror world later} bytes, Like watched mirror → World.Agrees world later →
    watched.handshake? = some .buffered →
      Called.Agrees Like (watched.feed bytes world) (mirror.feed bytes later)
  calls : ∀ {watched mirror}, Like watched mirror → watched.calls = mirror.calls
  drop : ∀ {watched mirror world later}, Like watched mirror → World.Agrees world later →
    (watched.sink.drop world).Agrees (mirror.sink.drop later)

theorem mirrors_itself : Mirrors (@Eq (Watched σ depth)) where
  handshake := congrArg handshake?
  write := by
    rintro watched _ world later bytes rfl agrees
    have wrote := watched.sink.write_agrees bytes agrees
    refine ⟨wrote.answer, ?_, wrote.world⟩
    simp only [Watched.write, Called.through, wrote.answer, wrote.after]
  greet := by
    rintro watched _ world later rfl agrees -
    have greeted := watched.sink.greet_agrees agrees
    refine ⟨greeted.answer, ?_, greeted.world⟩
    simp only [Watched.greet, Called.through, greeted.answer, greeted.after]
  feed := by
    rintro watched _ world later bytes rfl agrees -
    have fed := watched.sink.feed_agrees bytes agrees
    refine ⟨fed.answer, ?_, fed.world⟩
    simp only [Watched.feed, Called.through, fed.answer, fed.after]
  calls := congrArg Watched.calls
  drop := by
    rintro watched _ world later rfl agrees
    exact watched.sink.drop_agrees agrees

/-- A destination, with this descriptor or none, lies beneath the counting layers of the other. No
handshake is pending, and none ever was when data was offered. -/
structure Beneath (fd? : Option Fd) (watched : Watched σ depth) (bare : Watched σ other) :
    Prop where
  wraps : bare.sink.Wraps watched.sink
  calls : watched.latestFirst = bare.latestFirst
  settled : bare.Settled
  descriptor : bare.sink.descriptor? = fd?

variable {fd? : Option Fd}

/-- Counting layers hide a handshake, and pass on that there is none. -/
theorem Beneath.handshake {watched : Watched σ depth} {bare : Watched σ other}
    (beneath : Beneath fd? watched bare) : watched.handshake? = none := by
  obtain ⟨sink, calls⟩ := watched
  obtain ⟨wraps, -, settled, -⟩ := beneath
  cases wraps with
  | bare => exact settled.finished
  | layer => rfl

theorem Beneath.bare {watched : Watched σ depth} {bare : Watched σ other}
    (beneath : Beneath none watched bare) :
    watched.sink.descriptor? = bare.sink.descriptor? := by
  obtain ⟨sink, calls⟩ := watched
  obtain ⟨wraps, -, -, descriptor⟩ := beneath
  cases wraps with
  | bare => rfl
  | layer => exact descriptor.symm

/-- Destinations without a handshake are mirrored by counting layers around them. -/
theorem mirrors_beneath : Mirrors (@Beneath σ _ depth other fd?) where
  handshake := fun beneath => beneath.handshake.trans beneath.settled.finished.symm
  write := by
    intro watched bare world later bytes beneath agrees
    have wrote := beneath.wraps.write bytes agrees
    have settled := beneath.settled.write bytes later
    refine ⟨wrote.answer, ⟨wrote.after, ?_, settled, ?_⟩, wrote.world⟩
    · simp only [Watched.write, Called.through, answered, wrote.answer, beneath.calls,
        beneath.handshake, beneath.settled.finished]
    · exact (bare.sink.descriptor_write bytes later).trans beneath.descriptor
  greet := by
    intro _ _ _ _ beneath _ pending
    rw [beneath.handshake] at pending
    cases pending
  feed := by
    intro _ _ _ _ _ beneath _ pending
    rw [beneath.handshake] at pending
    cases pending
  calls := fun beneath => congrArg List.reverse beneath.calls
  drop := fun beneath agrees => beneath.wraps.drop agrees

end Watched

end Conduit
