import Conduit.Proofs.Engine.Delivery
import Conduit.Proofs.Engine.Keeping
import Conduit.Proofs.Sink.Landing

set_option autoImplicit false

namespace Conduit

theorem SinkCall.taken_write (pending : Option Handshake) (offered : Bytes)
    (answer : Except IoFault Nat) :
    (SinkCall.write pending offered answer).taken = Sink.accepted offered answer := by
  cases answer <;> rfl

namespace Watched

variable {σ : Type} [WritePeer σ] {depth : Nat}

/-- A write buffer took what its calls say, and all of it was received or still waits. -/
structure Stages (sink : Sink σ (depth + 1)) (start : World) (watched : Watched σ (depth + 1))
    (world : World) : Prop where
  staged : ∃ buffer inner, watched.sink = .staged buffer inner
  grows : sink.Grows start (watched.calls.flatMap SinkCall.taken) watched.sink world

omit [WritePeer σ] in
theorem Stages.answered {sink later : Sink σ (depth + 1)} {start world after : World}
    {watched : Watched σ (depth + 1)} (stages : Stages sink start watched world) (call : SinkCall)
    (staged : ∃ buffer inner, later = .staged buffer inner)
    (grows : watched.sink.Grows world call.taken later after) :
    Stages sink start (watched.answered later call) after where
  staged := staged
  grows := by
    rw [calls_answered, List.flatMap_append, List.flatMap_singleton]
    exact stages.grows.trans grows

theorem stages_keeps (sink : Sink σ (depth + 1)) (start : World) :
    Keeps (Stages sink start) where
  write := by
    intro watched world bytes stages
    have wrote := Sink.write_grows _ watched.sink stages.grows.fits bytes world
    refine stages.answered _ ?_ ?_
    · obtain ⟨buffer, inner, same⟩ := stages.staged
      rw [same]
      exact ⟨_, _, rfl⟩
    · rw [SinkCall.taken_write]
      exact wrote
  greet := by
    intro watched world stages
    obtain ⟨buffer, inner, same⟩ := stages.staged
    have still : watched.sink.greet world = ⟨.ok (), watched.sink, world⟩ := by
      rw [same]
      rfl
    rw [greet, still]
    exact stages.answered _ stages.staged (.refl stages.grows.fits world)
  feed := by
    intro watched world bytes stages
    obtain ⟨buffer, inner, same⟩ := stages.staged
    have still : watched.sink.feed bytes world = ⟨.ok 0, watched.sink, world⟩ := by
      rw [same]
      rfl
    rw [feed, still]
    exact stages.answered _ stages.staged (.refl stages.grows.fits world)
  spared := fun stages spared => ⟨stages.staged, stages.grows.spared spared⟩

end Watched

namespace Engine

variable {ρ σ : Type} [ReadPeer ρ] [WritePeer σ] {depth : Nat}

/-- Let the live end of a write buffer never claim more than it is offered, and let a shared buffer
at its far end be none that the source reads from. Nothing else is asked of the two ends: their
faults may pass for ends of streams, and the source may go on after its end. When the copy succeeds,
the bytes that it reports are the first of those in stock and those that the live reader gave, and
all of these where the ends are orderly. The far end received them behind what it had received and
what waited in the buffers, but for the last ones, which wait in the buffers when the engine lets go
of them. These are no more than the buffers have room for, and they are lost. -/
theorem copy_stages (engine : Engine) (allowance : Allowance) (buffer : Buffer)
    (inner : Sink σ depth) (source : Source ρ) (world : World) (outcome : CopyOutcome)
    (copied : Nat) (modest : inner.Modest) (fits : (Sink.staged buffer inner).Fits)
    (apart : ∀ handle ∈ inner.handles, handle ∉ source.handles ∧ handle < world.cells.next)
    (ended : engine.copy allowance (.staged buffer inner) source world = some outcome)
    (success : outcome.result = .ok copied) :
    (∃ gained, outcome.world.obtained = world.obtained ++ gained ∧
      outcome.given <+: source.stock world.stores ++ gained ∧
      (source.Orderly → inner.Orderly → outcome.given = source.stock world.stores ++ gained)) ∧
    outcome.given.length = copied ∧
    ∃ (last : Sink σ (depth + 1)) (before : World), outcome.world = last.drop before ∧
      inner.reached before ++ last.waiting =
        inner.reached world ++ inner.waiting ++ buffer.unread ++ outcome.given ∧
      last.waiting.length ≤ (Sink.staged buffer inner).room ∧
      (inner.handles = [] → inner.reached outcome.world = inner.reached before) := by
  obtain ⟨gained, taken, balanced⟩ := engine.copy_balanced allowance (.staged buffer inner) source
    world outcome modest apart (.inr (.inr rfl)) ended
  have length := balanced.copied
  have flow := balanced.flow
  have whole := balanced.whole
  rw [CopyOutcome.copied, success] at length
  rw [Source.stock_uncounted] at flow
  simp only [Source.stock_uncounted, Source.orderly_uncounted] at whole
  refine ⟨⟨gained, balanced.heard, flow, fun reader writer => ?_⟩, length, ?_⟩
  · exact (whole reader writer copied success).1
  -- Up to its drop the destination is a write buffer still, and what it was given is where it lies.
  have kept : Watched.Stages (.staged buffer inner) world (.fresh (.staged buffer inner)) world :=
    ⟨⟨buffer, inner, rfl⟩, .refl fits world⟩
  have buffers : ∀ {watched : Watched σ (depth + 1)} {later : World},
      watched.Stages (.staged buffer inner) world later ∧ watched.sink.handles = inner.handles →
      engine.spliceEnabled = false ∨ watched.sink.descriptor? = none := by
    intro watched later stages
    obtain ⟨_, _, same⟩ := stages.1.staged
    rw [same]
    exact .inr rfl
  have sound : Stand.Sound (⟨source.uncounted.1, [], .fresh (.staged buffer inner), 0, world⟩ :
      Stand ρ σ (depth + 1)) := by
    refine ⟨modest, fun handle inside => ?_⟩
    rw [Source.handles_uncounted]
    exact apart handle inside
  obtain ⟨watched, before, ⟨stages, handles⟩, calls, dropped⟩ := copyCounted_kept
    ((Watched.stages_keeps _ world).and (Watched.keeps_handles _)) buffers allowance _ _ world sound
    ended ⟨kept, rfl⟩
  have far : watched.sink.reached = inner.reached := funext stages.grows.far
  have landed := stages.grows.landed
  rw [← calls, Sink.landed, far] at landed
  refine ⟨watched.sink, before, dropped, landed.trans ?_, ?_, fun unshared => ?_⟩
  · simp only [Sink.landed, Sink.reached, Sink.waiting, List.append_assoc]
    rfl
  · rw [← stages.grows.room]
    exact watched.sink.length_waiting_le stages.grows.fits
  · rw [dropped, ← far]
    exact watched.sink.reached_drop (handles.trans unshared) before

end Engine

namespace Sample

/-- A writer that takes everything, behind a write buffer of so many bytes. -/
def stagedSink (size : Nat) : Sink RehearsedWriter 1 := .staged (.zeroed size) (.peer (.eager 4))

/-- A source that never fails. -/
def shelf (bytes : Bytes) : Source RehearsedReader := .buffer (.ofBytes bytes)

/-- A source that fails after six bytes, as if it had ended. -/
def cutShort : Source RehearsedReader :=
  .peer ⟨1, [.deliver [1, 2, 3, 4], .deliver [5, 6]], .failing (.custom .unexpectedEof
    (.buffer .endOfStream))⟩

/-- Two write buffers over a writer that takes everything; a byte waits in the outer one. -/
def stagedTwice : Sink RehearsedWriter 2 :=
  .staged ((Buffer.zeroed 4).append [9]) (.staged (.zeroed 3) (.peer (.eager 4)))

end Sample

namespace Engine

/-- The source fails, the copy succeeds, and the last bytes of six wait in the two buffers. -/
theorem copy_stages_sample :
    ∃ outcome left,
      Sample.engine.copy Sample.allowance Sample.stagedTwice Sample.cutShort .initial =
        some outcome ∧
      outcome.result = .ok 6 ∧ outcome.world.written ++ left = [9, 1, 2, 3, 4, 5, 6] ∧
      left.length ≤ 7 := by
  have copied : (Sample.engine.copy Sample.allowance Sample.stagedTwice Sample.cutShort
      .initial).map (fun outcome => (outcome.result.toOption, outcome.given)) =
        some (some 6, [1, 2, 3, 4, 5, 6]) := by cbv
  obtain ⟨outcome, ended, pair⟩ := Option.map_eq_some_iff.mp copied
  obtain ⟨six, given⟩ := Prod.mk.inj pair
  have success := Sample.eq_ok_of_toOption six
  have modest : (Sink.staged (.zeroed 3) (.peer (RehearsedWriter.eager 4))).Modest := by
    rintro _ ⟨⟩
    have proper : (RehearsedWriter.eager 4).Proper := ⟨by simp [RehearsedWriter.eager], trivial⟩
    exact proper.orderly.modest
  obtain ⟨_, _, last, before, _, landed, fits, same⟩ := copy_stages Sample.engine Sample.allowance
    ((Buffer.zeroed 4).append [9]) (.staged (.zeroed 3) (.peer (RehearsedWriter.eager 4)))
    Sample.cutShort .initial outcome 6 modest ⟨⟨trivial, by decide⟩, by decide⟩
    (by simp [Sink.handles]) ended success
  rw [← same rfl, given] at landed
  exact ⟨outcome, last.waiting, ended, success, landed, fits⟩

/-- The writer behind the buffer takes all that it is offered, and yet a copy of five bytes that
succeeds leaves it without any. -/
theorem copy_unflushed_sample :
    (∀ bytes : Bytes, (WritePeer.write (RehearsedWriter.eager 4) bytes).1 = .ok bytes.length) ∧
      ∃ outcome, Sample.engine.copy Sample.allowance (Sample.stagedSink 16)
          (Sample.shelf [104, 101, 108, 108, 111]) .initial = some outcome ∧
        outcome.result = .ok 5 ∧ outcome.world.written = [] := by
  have ends : (Sample.engine.copy Sample.allowance (Sample.stagedSink 16)
      (Sample.shelf [104, 101, 108, 108, 111]) .initial).map
        (fun outcome => (outcome.result.toOption, outcome.world.written)) =
          some (some 5, []) := by cbv
  obtain ⟨outcome, ended, pair⟩ := Option.map_eq_some_iff.mp ends
  obtain ⟨five, nothing⟩ := Prod.mk.inj pair
  exact ⟨fun _ => rfl, outcome, ended, Sample.eq_ok_of_toOption five, nothing⟩

end Engine

end Conduit
