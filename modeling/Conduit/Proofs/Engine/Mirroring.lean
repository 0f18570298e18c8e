import Conduit.Proofs.Engine.CopyLedger
import Conduit.Proofs.Sink.Mirroring
import Conduit.Proofs.Splice.Agreement

set_option autoImplicit false

namespace Conduit

open World (Agrees)
open Watched (Mirrors)

/-- Two copies under way stand the same, in worlds that agree, with destinations that are alike. -/
structure Course.Agrees {σ : Type} {depth other : Nat}
    (Like : Watched σ depth → Watched σ other → Prop) (course : Course σ depth)
    (mirror : Course σ other) : Prop where
  sink : Like course.sink mirror.sink
  copied : course.copied = mirror.copied
  world : course.world.Agrees mirror.world

namespace Course.Agrees

variable {σ : Type} {depth other : Nat} {Like : Watched σ depth → Watched σ other → Prop}
  {course : Course σ depth} {mirror : Course σ other} (alike : Course.Agrees Like course mirror)

include alike

theorem inWorld {world later : World} (agrees : world.Agrees later) :
    Course.Agrees Like (course.inWorld world) (mirror.inWorld later) :=
  ⟨alike.sink, alike.copied, agrees⟩

theorem progressed (counters others : CounterSet) (bytes : Nat) :
    Course.Agrees Like (course.progressed counters bytes) (mirror.progressed others bytes) where
  sink := alike.sink
  copied := congrArg (· + bytes) alike.copied
  world := alike.world.countBoth _ _ _ _

end Course.Agrees

/-- Two steps of copies end the same. -/
structure CopyStep.Agrees {σ α : Type} {depth other : Nat}
    (Like : Watched σ depth → Watched σ other → Prop) (step : CopyStep σ depth α)
    (mirror : CopyStep σ other α) : Prop where
  result : step.result = mirror.result
  after : Course.Agrees Like step.after mirror.after

/-- Two bulks of copies through a buffer end the same. -/
structure Pumped.Agrees {ρ σ : Type} {depth other : Nat}
    (Like : Watched σ depth → Watched σ other → Prop) (pumped : Pumped ρ σ depth)
    (mirror : Pumped ρ σ other) : Prop where
  result : pumped.result = mirror.result
  buffer : pumped.buffer = mirror.buffer
  source : pumped.source = mirror.source
  course : Course.Agrees Like pumped.course mirror.course

/-- Two copies end the same but for calls of counters. -/
structure CopyOutcome.Agrees (outcome mirror : CopyOutcome) : Prop where
  result : outcome.result = mirror.result
  calls : outcome.calls = mirror.calls
  world : outcome.world.Agrees mirror.world

namespace Engine

variable {ρ σ : Type} [ReadPeer ρ] [WritePeer σ] {depth other : Nat}
  {Like : Watched σ depth → Watched σ other → Prop} (engine : Engine)

/-- Two searches for bytes have found the same, in worlds that agree. -/
def FoundAlike {α : Type} (found mirror : Except TransferFault α × Source ρ × World) : Prop :=
  found.1 = mirror.1 ∧ found.2.1 = mirror.2.1 ∧ Agrees found.2.2 mirror.2.2

theorem readGreeting_agrees (retries : Nat) (source : Source ρ) {world later : World}
    (agrees : world.Agrees later) :
    Option.Rel FoundAlike (engine.readGreeting retries source world)
      (engine.readGreeting retries source later) := by
  obtain ⟨buffer, agrees⟩ := agrees.alloc engine.buffers engine.buffers.standardSize
  simp only [readGreeting, Allocator.standard, buffer]
  have fills := Buffer.fillOnce_agrees [] []
    (engine.buffers.alloc engine.buffers.standardSize later).1 source agrees retries
  refine fills.map fun filled mirror same => ?_
  simp only [same.result, same.buffer, same.source]
  split
  · exact ⟨rfl, rfl, same.world.dropBuffer _⟩
  · exact ⟨rfl, rfl, same.world⟩
  · exact ⟨rfl, rfl, same.world.dropBuffer _⟩

def shareRead (found : Except TransferFault Buffer × Source ρ × World) :
    Except TransferFault SharedId × Source ρ × World :=
  match found.1 with
  | .error fault => (.error fault, found.2.1, found.2.2)
  | .ok buffer => (.ok (found.2.2.share buffer).1, found.2.1, (found.2.2.share buffer).2)

omit [ReadPeer ρ] in
theorem shareRead_agrees (found mirror : Except TransferFault Buffer × Source ρ × World)
    (alike : FoundAlike found mirror) : FoundAlike (shareRead found) (shareRead mirror) := by
  obtain ⟨result, rest, world⟩ := found
  obtain ⟨_, _, later⟩ := mirror
  obtain ⟨rfl, rfl, agrees⟩ := alike
  cases result with
  | error fault => exact ⟨rfl, rfl, agrees⟩
  | ok buffer => exact ⟨congrArg Except.ok (agrees.share_fst buffer), rfl, agrees.share_snd buffer⟩

theorem greetingBytes_agrees (retries : Nat) (source : Source ρ) {world later : World}
    (agrees : world.Agrees later) :
    Option.Rel FoundAlike (engine.greetingBytes retries source world)
      (engine.greetingBytes retries source later) := by
  have fresh {world later : World} (agrees : Agrees world later) :
      Option.Rel FoundAlike ((engine.readGreeting retries source.pick.1 world).map shareRead)
        ((engine.readGreeting retries source.pick.1 later).map shareRead) :=
    (engine.readGreeting_agrees retries source.pick.1 agrees).map shareRead_agrees
  unfold greetingBytes
  dsimp only
  split
  · exact fresh agrees
  · simp only [agrees.shared]
    split
    · exact fresh (agrees.release _)
    · exact .some ⟨rfl, rfl, agrees⟩

section

variable (mirrors : Mirrors Like) {course : Course σ depth} {mirror : Course σ other}
  (alike : Course.Agrees Like course mirror) (counters others : CounterSet)

include mirrors alike

theorem offer_agrees (handle : SharedId)
    (pending : course.sink.handshake? = some .buffered) :
    CopyStep.Agrees Like (offer handle counters course) (offer handle others mirror) := by
  have feeds := mirrors.feed (mirror.world.shared handle).unread alike.sink alike.world pending
  unfold offer
  simp only [alike.world.shared, feeds.answer]
  split
  · exact ⟨rfl, feeds.after, alike.copied, feeds.world⟩
  · rename_i consumed _
    split
    · exact ⟨rfl, feeds.after, alike.copied, feeds.world⟩
    · have noticed := feeds.world.notice
        (.handshake (mirror.world.shared handle).unread.length consumed)
      simp only [noticed.shared]
      refine ⟨rfl, Course.Agrees.progressed ?_ counters others consumed⟩
      exact ⟨feeds.after, alike.copied, noticed.setShared handle _⟩

theorem replay_agrees (handle : SharedId) :
    CopyStep.Agrees Like (replay handle counters course) (replay handle others mirror) := by
  have drains := (mirror.world.shared handle).drain_agrees mirrors.write [] [] alike.sink
    alike.world
  unfold replay
  simp only [alike.world.shared]
  generalize (mirror.world.shared handle).drain Watched.write [] course.sink course.world =
    drained at drains ⊢
  generalize (mirror.world.shared handle).drain Watched.write [] mirror.sink mirror.world =
    twin at drains ⊢
  have written : Course.Agrees Like
      ⟨drained.sink, course.copied, drained.world.setShared handle twin.buffer⟩
      ⟨twin.sink, mirror.copied, twin.world.setShared handle twin.buffer⟩ :=
    ⟨drains.sink, alike.copied, drains.world.setShared handle twin.buffer⟩
  have counted := written.progressed counters others twin.reported
  simp only [drains.result, drains.buffer, drains.reported]
  split
  · exact ⟨rfl, counted⟩
  · exact ⟨rfl, counted.inWorld (counted.world.notice _)⟩

theorem feedRound_agrees (retries : Nat) (source : Source ρ)
    (pending : course.sink.handshake? = some .buffered) :
    Option.Rel (CopyStep.Agrees Like) (engine.feedRound retries source counters course)
      (engine.feedRound retries source others mirror) := by
  refine (engine.greetingBytes_agrees retries source alike.world).map ?_
  rintro ⟨result, rest, after⟩ ⟨_, _, later⟩ ⟨rfl, rfl, agrees⟩
  cases result with
  | error fault => exact ⟨rfl, alike.inWorld (rest.drop_agrees agrees)⟩
  | ok handle =>
    have offers := offer_agrees mirrors (alike.inWorld agrees) counters others handle pending
    dsimp only
    generalize offer handle counters (course.inWorld after) = offered at offers ⊢
    generalize offer handle others (mirror.inWorld later) = twin at offers ⊢
    obtain ⟨result, course⟩ := offered
    obtain ⟨_, mirror⟩ := twin
    obtain ⟨rfl, alike⟩ := offers
    have released := alike.world.release handle
    cases result with
    | error fault => exact ⟨rfl, alike.inWorld (rest.drop_agrees released)⟩
    | ok done =>
      dsimp only
      rw [show course.world.shared handle = _ from alike.world.shared handle]
      split
      · exact ⟨rfl, alike.inWorld released⟩
      · obtain ⟨kept, cached⟩ := rest.cache_agrees handle alike.world
        rw [kept]
        exact ⟨rfl, alike.inWorld cached⟩

theorem handshakeRound_agrees (retries : Nat) (source : Source ρ) :
    Option.Rel (CopyStep.Agrees Like) (engine.handshakeRound retries source counters course)
      (engine.handshakeRound retries source others mirror) := by
  have same := mirrors.handshake alike.sink
  unfold handshakeRound
  rw [← same]
  cases pending : course.sink.handshake? with
  | none => exact .some ⟨rfl, alike⟩
  | some kind =>
    cases kind with
    | plain =>
      have greets := mirrors.greet alike.sink alike.world pending
      simp only [greets.answer]
      split
      · exact .some ⟨rfl, greets.after, alike.copied, greets.world⟩
      · exact .some ⟨rfl, greets.after, alike.copied, source.drop_agrees greets.world⟩
    | buffered => exact engine.feedRound_agrees mirrors alike counters others retries source pending

/-- The early phase goes the same way. -/
theorem copyEarly_agrees (retries rounds : Nat) (source : Source ρ) :
    Option.Rel (CopyStep.Agrees Like) (engine.copyEarly retries counters rounds source course)
      (engine.copyEarly retries others rounds source mirror) := by
  induction rounds generalizing source course mirror with
  | zero => exact .none
  | succ rounds ih =>
    have round := engine.handshakeRound_agrees mirrors alike counters others retries source
    rw [copyEarly, copyEarly]
    generalize engine.handshakeRound retries source counters course = taken at round ⊢
    generalize engine.handshakeRound retries source others mirror = twin at round ⊢
    cases round with
    | none => exact .none
    | @some taken twin same =>
      obtain ⟨result, course⟩ := taken
      obtain ⟨_, mirror⟩ := twin
      obtain ⟨rfl, alike⟩ := same
      cases result with
      | error fault => exact .some ⟨rfl, alike⟩
      | ok found =>
        obtain ⟨source, drained⟩ := found
        have pending : course.sink.handshake? = mirror.sink.handshake? :=
          mirrors.handshake alike.sink
        dsimp only
        rw [pending]
        split
        · exact ih alike source
        · split
          · exact .some ⟨rfl, alike⟩
          · rename_i handle _
            rw [show course.world.shared handle = _ from alike.world.shared handle]
            split
            · exact ih (alike.inWorld (alike.world.release handle)) source.pick.1
            · have replays := replay_agrees mirrors alike counters others handle
              generalize replay handle counters course = replayed at replays ⊢
              generalize replay handle others mirror = twin at replays ⊢
              obtain ⟨result, course⟩ := replayed
              obtain ⟨_, mirror⟩ := twin
              obtain ⟨rfl, alike⟩ := replays
              have released := alike.world.release handle
              cases result with
              | error fault => exact .some ⟨rfl, alike.inWorld (Source.drop_agrees _ released)⟩
              | ok done => exact ih (alike.inWorld released) source.pick.1

theorem pump_agrees (retries rounds : Nat) (buffer : Buffer) (source : Source ρ) :
    Option.Rel (Pumped.Agrees Like) (pump retries counters rounds buffer source course)
      (pump retries others rounds buffer source mirror) := by
  induction rounds generalizing buffer source course mirror with
  | zero => exact .none
  | succ rounds ih =>
    have fills := Buffer.fillOnce_agrees counters.read others.read buffer.reset source alike.world
      retries
    rw [pump, pump]
    generalize buffer.reset.fillOnce retries counters.read source course.world = filled at fills ⊢
    generalize buffer.reset.fillOnce retries others.read source mirror.world = twin at fills ⊢
    cases fills with
    | none => exact .none
    | @some filled twin same =>
      obtain ⟨result, buffer, source, world⟩ := filled
      obtain ⟨_, _, _, later⟩ := twin
      obtain ⟨rfl, rfl, rfl, agrees⟩ := same
      cases result with
      | error fault => exact .some ⟨rfl, rfl, rfl, alike.inWorld agrees⟩
      | ok count =>
        cases count with
        | zero => exact .some ⟨rfl, rfl, rfl, alike.inWorld agrees⟩
        | succ less =>
          have drains := buffer.drain_agrees mirrors.write counters.write others.write alike.sink
            agrees
          dsimp only [Course.inWorld]
          generalize buffer.drain Watched.write counters.write course.sink world = drained
            at drains ⊢
          generalize buffer.drain Watched.write others.write mirror.sink later = twin at drains ⊢
          obtain ⟨result, reported, buffer, sink, world⟩ := drained
          obtain ⟨_, _, _, opposite, later⟩ := twin
          obtain ⟨rfl, rfl, rfl, like, agrees⟩ := drains
          have written : Course.Agrees Like ⟨sink, course.copied + reported, world⟩
              ⟨opposite, mirror.copied + reported, later⟩ :=
            ⟨like, congrArg (· + reported) alike.copied, agrees⟩
          cases result with
          | error fault => exact .some ⟨rfl, rfl, rfl, written⟩
          | ok total => exact ih written buffer source

/-- The bulk of a copy through a buffer goes the same way. -/
theorem copyBuffered_agrees (allowance : Allowance) (source : Source ρ) :
    Option.Rel (CopyStep.Agrees Like) (engine.copyBuffered allowance counters source course)
      (engine.copyBuffered allowance others source mirror) := by
  obtain ⟨buffer, agrees⟩ := alike.world.alloc engine.buffers engine.buffers.hugeSize
  simp only [copyBuffered, Allocator.huge, buffer]
  refine (pump_agrees mirrors (alike.inWorld agrees) counters others _ _ _ source).map ?_
  intro pumped twin same
  have dropped := same.course.world.dropBuffer pumped.buffer
  rw [← same.buffer, ← same.source]
  exact ⟨same.result, same.course.inWorld (pumped.source.drop_agrees dropped)⟩

/-- The bulk of a copy goes the same way, when both copies splice or neither does. -/
theorem copyPure_agrees (allowance : Allowance) (source : Source ρ)
    (splices : engine.spliceEnabled = false ∨ source.far? = none ∨
      course.sink.sink.descriptor? = mirror.sink.sink.descriptor?) :
    Option.Rel (CopyStep.Agrees Like) (engine.copyPure allowance counters source course)
      (engine.copyPure allowance others source mirror) := by
  have buffered := engine.copyBuffered_agrees mirrors alike counters others allowance source
  by_cases off : engine.spliceEnabled = false ∨ source.far? = none
  · rw [copyPure_eq_copyBuffered allowance counters source course (off.imp_right .inl),
      copyPure_eq_copyBuffered allowance others source mirror (off.imp_right .inl)]
    exact buffered
  · have same := (splices.resolve_left fun disabled => off (.inl disabled)).resolve_left
      fun bare => off (.inr bare)
    unfold copyPure
    rw [← same, ← alike.copied]
    split
    · rename_i input output _ _ _
      have splices := spliceCopy_agrees allowance.rounds engine.pipes input output counters others
        engine.maxChunk course.copied alike.world
      generalize spliceCopy allowance.rounds engine.pipes input output counters engine.maxChunk
        course.copied course.world = spliced at splices ⊢
      generalize spliceCopy allowance.rounds engine.pipes input output others engine.maxChunk
        course.copied mirror.world = twin at splices ⊢
      cases splices with
      | none => exact .none
      | @some spliced twin ended =>
        obtain ⟨result, copied, world⟩ := spliced
        obtain ⟨_, _, later⟩ := twin
        obtain ⟨rfl, rfl, agrees⟩ := ended
        have moved : Course.Agrees Like ⟨course.sink, copied, world⟩ ⟨mirror.sink, copied, later⟩ :=
          ⟨alike.sink, rfl, agrees⟩
        match result with
        | .error fault => exact .some ⟨rfl, moved.inWorld (source.drop_agrees agrees)⟩
        | .ok .done => exact .some ⟨rfl, moved.inWorld (source.drop_agrees agrees)⟩
        | .ok .notHandled =>
          exact engine.copyBuffered_agrees mirrors moved counters others allowance source
    · exact buffered

end

variable {engine} {retries : Nat} {counters : CounterSet}

/-- No step of the early phase puts another live end under the source. -/
theorem EarlyStep.far {state next : EarlyState ρ σ depth}
    (step : EarlyStep engine retries counters state next) {source later : Source ρ}
    (here : state.point.source? = some source) (there : next.point.source? = some later) :
    later.far? = source.far? := by
  have pick {source rest : Source ρ} {cached : Option SharedId}
      (picked : source.pick = (rest, cached)) : rest.far? = source.far? := by
    rw [← source.far_pick, picked]
  cases step with
  | idle | greeted | took | sated | left | replayed =>
    cases here
    cases there
    rfl
  | ungreeted | unfetched | refused | unwritten => cases there
  | bare _ picked | stale _ picked | layer _ picked | uncached picked | skipped picked
  | cached picked =>
    cases here
    cases there
    have same := pick picked
    exact same
  | fetched fetch =>
    cases here
    cases there
    obtain ⟨_, _, _, draws⟩ := readGreeting_ok fetch
    exact draws.far

/-- The early phase leaves a source with the same live end. -/
theorem copyEarly_far {rounds : Nat} {source middle : Source ρ} {course after : Course σ depth}
    (ended : engine.copyEarly retries counters rounds source course = some ⟨.ok middle, after⟩) :
    middle.far? = source.far? := by
  have path := copyEarly_path engine retries counters rounds source course _ ended
  have invariant (state next : EarlyState ρ σ depth)
      (far : ∀ later, state.point.source? = some later → later.far? = source.far?)
      (step : EarlyStep engine retries counters state next) (later : Source ρ)
      (there : next.point.source? = some later) : later.far? = source.far? := by
    obtain ⟨before, here⟩ := step.source
    exact (step.far here there).trans (far before here)
  exact path.keeps invariant (by rintro _ ⟨⟩; rfl) middle rfl

/-- Copies that fail for one cause end the same. -/
theorem failed_agrees (mirrors : Mirrors Like) {course : Course σ depth} {mirror : Course σ other}
    (alike : Course.Agrees Like course mirror) (cause : TransferFault) :
    CopyOutcome.Agrees (failed course cause) (failed mirror cause) := by
  unfold failed
  rw [← alike.copied]
  exact ⟨rfl, mirrors.calls alike.sink, mirrors.drop alike.sink (alike.world.notice _)⟩

/-- Copies to destinations that mirror each other end the same. -/
theorem copyCounted_agrees (mirrors : Mirrors Like) (allowance : Allowance) {sink : Sink σ depth}
    {opposite : Sink σ other} (source : Source ρ) {world later : World}
    (like : Like (.fresh sink) (.fresh opposite)) (agrees : world.Agrees later)
    (counters others : CounterSet)
    (splices : engine.spliceEnabled = false ∨ source.far? = none ∨
      ∀ {watched mirror}, Like watched mirror →
        watched.sink.descriptor? = mirror.sink.descriptor?) :
    Option.Rel CopyOutcome.Agrees (engine.copyCounted allowance sink source counters world)
      (engine.copyCounted allowance opposite source others later) := by
  have start : Course.Agrees Like ⟨.fresh sink, 0, world⟩ ⟨.fresh opposite, 0, later⟩ :=
    ⟨like, rfl, agrees⟩
  have early := engine.copyEarly_agrees mirrors start counters others allowance.retries
    allowance.rounds source
  unfold copyCounted
  generalize ended : engine.copyEarly allowance.retries counters allowance.rounds source
    ⟨.fresh sink, 0, world⟩ = step at early ⊢
  generalize engine.copyEarly allowance.retries others allowance.rounds source
    ⟨.fresh opposite, 0, later⟩ = twin at early ⊢
  cases early with
  | none => exact .none
  | @some step twin same =>
    obtain ⟨result, course⟩ := step
    obtain ⟨_, mirror⟩ := twin
    obtain ⟨rfl, alike⟩ := same
    cases result with
    | error fault => exact .some (failed_agrees mirrors alike _)
    | ok middle =>
      have noticed := alike.inWorld (alike.world.notice (.phase Stage.copyEarly course.copied))
      have bulk := engine.copyPure_agrees mirrors noticed
        ⟨middle.uncounted.2 ++ counters.read, counters.write⟩
        ⟨middle.uncounted.2 ++ others.read, others.write⟩ allowance middle.uncounted.1 ?_
      · dsimp only
        rw [← show course.copied = mirror.copied from alike.copied]
        generalize engine.copyPure allowance ⟨middle.uncounted.2 ++ counters.read, counters.write⟩
          middle.uncounted.1 (course.inWorld _) = moved at bulk ⊢
        generalize engine.copyPure allowance ⟨middle.uncounted.2 ++ others.read, others.write⟩
          middle.uncounted.1 (mirror.inWorld _) = fellow at bulk ⊢
        cases bulk with
        | none => exact .none
        | @some moved fellow same =>
          obtain ⟨result, last⟩ := moved
          obtain ⟨_, final⟩ := fellow
          obtain ⟨rfl, alike⟩ := same
          dsimp only
          split
          · exact .some (failed_agrees mirrors alike _)
          · rw [← show last.copied = final.copied from alike.copied]
            exact .some
              ⟨rfl, mirrors.calls alike.sink, mirrors.drop alike.sink (alike.world.notice _)⟩
      · -- The far end of the source is what it was, so whether the copy splices was settled before.
        rw [Source.far_uncounted, copyEarly_far ended]
        exact splices.imp_right (·.imp_right fun same => same noticed.sink)

end Engine

end Conduit
