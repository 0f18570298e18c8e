import Conduit.Proofs.Engine.Calls
import Conduit.Proofs.Engine.EarlyPath
import Conduit.Proofs.Engine.Ending

set_option autoImplicit false

namespace Conduit

variable {ρ σ : Type} [ReadPeer ρ] [WritePeer σ] {depth : Nat}

namespace Engine

/-- A phase reports the failure that its calls end in, seen from the stages of its place within the
phase. -/
def Fails (engine : Engine) (phase : Phase) (log : List EndCall) (cause : TransferFault) : Prop :=
  ∃ place failure, engine.Blames phase log place failure ∧
    (failure.Plain → cause.within phase.tag = place.around failure.toTransfer)

theorem Blames.fails {engine : Engine} {phase : Phase} {log : List EndCall} {place : Place}
    {failure fault : BufferFault} {cause : TransferFault}
    (blames : engine.Blames phase log place failure) (same : failure.Plain → fault = failure)
    (around : cause.within phase.tag = place.around fault.toTransfer) :
    engine.Fails phase log cause :=
  ⟨place, failure, blames, fun plain => by rw [around, same plain]⟩

/-- How a part of a phase turned out follows from its calls: it fails with the last of them, or none
of them fails it. -/
def Explains {α : Type} (engine : Engine) (phase : Phase) (log : List EndCall)
    (result : Except TransferFault α) : Prop :=
  match result with
  | .ok _ => phase.Clear log
  | .error cause => engine.Fails phase log cause

/-- The calls of the early phase between two steps: none of them fails it, unless it failed with
the last of them. -/
inductive EarlyCalls (engine : Engine) (first : CopyEnds ρ σ depth) :
    EarlyState ρ σ depth → Prop where
  | going {point : EarlyPoint ρ} {source : Source ρ} {course : Course σ depth}
    {log : List EndCall} (here : point.source? = some source)
    (calls : first.Calls log ⟨source, course.sink, course.world⟩) (clear : Phase.early.Clear log) :
    EarlyCalls engine first ⟨point, course⟩
  | failed {cause : TransferFault} {source : Source ρ} {course : Course σ depth}
    {log : List EndCall} (calls : first.Calls log ⟨source, course.sink, course.world⟩)
    (fails : engine.Fails .early log cause) : EarlyCalls engine first ⟨.failed cause, course⟩

section

variable {engine : Engine} {retries : Nat} {counters : CounterSet} {first : CopyEnds ρ σ depth}
  {log : List EndCall} {source : Source ρ} {course : Course σ depth}

/-- The read that feeds a handshake fails the phase, or brings some bytes. -/
theorem readGreeting_calls {sink : Watched σ depth} {world after : World} {rest : Source ρ}
    {result : Except TransferFault Buffer}
    (calls : first.Calls log ⟨source, sink, world⟩) (clear : Phase.early.Clear log)
    (fetch : engine.readGreeting retries source world = some (result, rest, after)) :
    ∃ more, first.Calls more ⟨rest, sink, after⟩ ∧
      engine.Explains .early more result := by
  obtain ⟨_, _, free, _⟩ := engine.buffers.alloc_blank engine.buffers.standardSize world
  have hushed := world.hushed_alloc engine.buffers engine.buffers.standardSize
  simp only [readGreeting, Allocator.standard, Option.map_eq_some_iff] at fetch
  obtain ⟨filled, ended, shape⟩ := fetch
  obtain ⟨more, calls, ends⟩ := (calls.hushed hushed).fillOnce engine clear free ended
  cases came : filled.result with
  | ok count =>
    rw [came] at shape ends
    obtain ⟨before, wanted, bytes, rfl, clear, length⟩ := ends
    cases count with
    | zero =>
      cases shape
      have none := List.eq_nil_of_length_eq_zero length
      exact ⟨_, calls.hushed (World.hushed_dropBuffer _ _), .handshakeRead, .endOfStream,
        .call clear (if_pos ⟨rfl, none⟩), fun _ => rfl⟩
    | succ less =>
      cases shape
      have some : bytes ≠ [] := List.ne_nil_of_length_eq_add_one length
      exact ⟨_, calls, clear.concat (if_neg fun none => some none.2)⟩
  | error fault =>
    rw [came] at shape ends
    cases shape
    obtain ⟨failure, blames, same⟩ := ends
    exact ⟨more, calls.hushed (World.hushed_dropBuffer _ _), blames.fails same rfl⟩

/-- Bytes offered to a handshake fail the phase, or are taken as far as they may be. -/
theorem offer_calls (engine : Engine) (counters : CounterSet) (handle : SharedId)
    (calls : first.Calls log ⟨source, course.sink, course.world⟩) (clear : Phase.early.Clear log) :
    let step := offer handle counters course
    ∃ more, first.Calls more ⟨source, step.after.sink, step.after.world⟩ ∧
      engine.Explains .early more step.result := by
  have next := calls.feed (course.world.shared handle).unread
  unfold offer
  cases answer : (course.sink.feed (course.world.shared handle).unread course.world).answer with
  | error fault =>
    rw [answer] at next
    simp only [answer]
    exact ⟨_, next, .handshake, .io fault, .call clear rfl,
      fun plain => congrArg Place.handshake.around (IoFault.Plain.toTransfer_eq plain)⟩
  | ok taken =>
    rw [answer] at next
    by_cases excess : (course.world.shared handle).unread.length < taken
    · simp only [answer, excess, if_true]
      exact ⟨_, next, .handshake, .overflow, .call clear (if_pos excess), fun _ => rfl⟩
    · simp only [answer, excess, if_false]
      refine ⟨_, next.hushed ?_, clear.concat (if_neg excess)⟩
      exact ((World.hushed_notice _ _).trans (World.hushed_setShared _ handle _)).trans
        (World.hushed_countBoth _ counters taken)

/-- Writing a cached buffer out fails the phase, or goes well. -/
theorem replay_calls (engine : Engine) (counters : CounterSet) (handle : SharedId)
    (filled : (course.world.shared handle).isEmpty = false)
    (calls : first.Calls log ⟨source, course.sink, course.world⟩) (clear : Phase.early.Clear log) :
    let step := replay handle counters course
    ∃ more, first.Calls more ⟨source, step.after.sink, step.after.world⟩ ∧
      engine.Explains .early more step.result := by
  have some : (course.world.shared handle).unread ≠ [] := List.isEmpty_eq_false_iff.mp filled
  obtain ⟨more, calls, ends⟩ := calls.drain engine [] clear some
  have hushed (drained : Drained (Watched σ depth)) : drained.world.Hushed
      ((drained.world.setShared handle drained.buffer).countBoth counters drained.reported) :=
    (World.hushed_setShared _ handle drained.buffer).trans (World.hushed_countBoth _ counters _)
  unfold replay
  cases done : ((course.world.shared handle).drain Watched.write [] course.sink
      course.world).result with
  | ok total =>
    rw [done] at ends
    simp only [done]
    exact ⟨more, calls.hushed ((hushed _).trans (World.hushed_notice _ _)), ends⟩
  | error fault =>
    rw [done] at ends
    simp only [done]
    obtain ⟨failure, blames, same⟩ := ends
    exact ⟨more, calls.hushed (hushed _), blames.fails same rfl⟩

theorem EarlyStep.calls {state next : EarlyState ρ σ depth}
    (step : EarlyStep engine retries counters state next) (before : engine.EarlyCalls first state) :
    engine.EarlyCalls first next := by
  cases before with
  | failed =>
    -- No step leads on from a failure.
    obtain ⟨_, here⟩ := step.source
    cases here
  | @going point source course log here calls clear =>
    have picked {rest : Source ρ} {cached : Option SharedId} (same : source.pick = (rest, cached)) :
        first.Calls log ⟨rest, course.sink, course.world⟩ := by
      have calls := calls.pick
      rw [same] at calls
      exact calls
    cases step with
    | idle => exact .going here calls clear
    | greeted pending success =>
      cases here
      have greeted := calls.greet
      rw [success] at greeted
      exact .going rfl greeted (clear.concat rfl)
    | @ungreeted _ _ fault pending failed =>
      cases here
      have greeted := calls.greet
      rw [failed] at greeted
      exact .failed (greeted.hushed (source.hushed_drop _)) ⟨.handshake, .io fault, .call clear rfl,
        fun plain => congrArg Place.handshake.around (IoFault.Plain.toTransfer_eq plain)⟩
    | bare pending same | uncached same =>
      cases here
      exact .going rfl (picked same) clear
    | stale pending same empty | skipped same empty =>
      cases here
      exact .going rfl ((picked same).hushed (World.hushed_release _ _)) clear
    | layer pending same filled | cached same filled =>
      cases here
      exact .going rfl ((picked same).put _) clear
    | fetched fetch =>
      cases here
      obtain ⟨more, calls, clear⟩ := readGreeting_calls calls clear fetch
      exact .going rfl ((calls.hushed (World.hushed_share _ _)).put _) clear
    | unfetched fetch =>
      cases here
      obtain ⟨more, calls, fails⟩ := readGreeting_calls calls clear fetch
      exact .failed (calls.hushed (Source.hushed_drop _ _)) fails
    | @refused handle rest _ _ filled failed =>
      cases here
      obtain ⟨more, calls, fails⟩ := offer_calls engine counters handle calls clear
      rw [failed] at fails
      exact .failed (calls.hushed (rest.hushed_release_drop handle _)) fails
    | @took handle rest _ filled success | @sated handle rest _ filled success =>
      cases here
      obtain ⟨more, calls, clear⟩ := offer_calls engine counters handle calls clear
      rw [success] at clear
      exact .going rfl (calls.pick.hushed (World.hushed_release _ handle)) clear
    | @left handle rest _ filled success =>
      cases here
      obtain ⟨more, calls, clear⟩ := offer_calls engine counters handle calls clear
      rw [success] at clear
      exact .going rfl calls clear
    | @replayed handle rest _ filled success =>
      cases here
      obtain ⟨more, calls, clear⟩ := replay_calls engine counters handle filled calls clear
      rw [success] at clear
      exact .going rfl (calls.pick.hushed (World.hushed_release _ handle)) clear
    | @unwritten handle rest _ _ filled failed =>
      cases here
      obtain ⟨more, calls, fails⟩ := replay_calls engine counters handle filled calls clear
      rw [failed] at fails
      exact .failed (calls.hushed (rest.hushed_release_drop handle _)) fails

/-- Every run of the early phase is a run of calls that explains how it turned out. -/
theorem copyEarly_calls {rounds : Nat} {step : CopyStep σ depth (Source ρ)}
    (calls : first.Calls log ⟨source, course.sink, course.world⟩) (clear : Phase.early.Clear log)
    (ended : engine.copyEarly retries counters rounds source course = some step) :
    ∃ more rest, first.Calls more ⟨rest, step.after.sink, step.after.world⟩ ∧
      engine.Explains .early more step.result ∧
      ∀ source, step.result = .ok source → rest = source := by
  have after : engine.EarlyCalls first step.ended :=
    (copyEarly_path _ _ _ _ _ _ _ ended).keeps (fun _ _ before step => step.calls before)
      (.going rfl calls clear)
  obtain ⟨result, course⟩ := step
  cases result with
  | ok source =>
    obtain ⟨here, calls, clear⟩ := after
    cases here
    exact ⟨_, _, calls, clear, fun _ same => Except.ok.inj same⟩
  | error cause =>
    cases after with
    | going here => cases here
    | failed calls fails => exact ⟨_, _, calls, fails, nofun⟩

/-- A run of the pump is a run of calls that explains how it turned out. -/
theorem pump_calls {rounds : Nat} {buffer : Buffer} {pumped : Pumped ρ σ depth}
    (size : buffer.size = engine.buffers.hugeSize)
    (calls : first.Calls log ⟨source, course.sink, course.world⟩) (clear : Phase.bulk.Clear log)
    (pumping : pump retries counters rounds buffer source course = some pumped) :
    ∃ more, first.Calls more ⟨pumped.source, pumped.course.sink, pumped.course.world⟩ ∧
      engine.Explains .bulk more pumped.result := by
  induction rounds generalizing buffer source course log with
  | zero => cases pumping
  | succ rounds ih =>
    rw [pump] at pumping
    split at pumping
    · cases pumping
    · rename_i filled fill
      obtain ⟨_, _, _, fetches⟩ := Buffer.fillOnce_fetches rfl fill
      have room : buffer.reset.freeLen = Phase.bulk.room engine := size
      obtain ⟨more, calls, ends⟩ := calls.fillOnce engine clear room fill
      -- No byte at the end of the source is no failure of the bulk.
      have well (wanted : Nat) (bytes : Bytes) :
          (EndCall.read wanted (.ok bytes)).failure? .bulk = none := by
        simp only [EndCall.failure?, reduceCtorEq, false_and, if_false]
      dsimp only at pumping
      split at pumping
      · rename_i fault failed
        cases pumping
        rw [failed] at ends
        obtain ⟨failure, blames, same⟩ := ends
        exact ⟨more, calls, blames.fails same rfl⟩
      · rename_i none
        cases pumping
        rw [none] at ends
        obtain ⟨before, wanted, bytes, rfl, clear, _⟩ := ends
        exact ⟨_, calls, clear.concat (well wanted bytes)⟩
      · rename_i less came
        rw [came] at ends
        obtain ⟨before, wanted, bytes, rfl, clear, _⟩ := ends
        have some : filled.buffer.unread ≠ [] := by
          rw [fetches.unread]
          exact List.ne_nil_of_length_eq_add_one (fetches.ok _ came).symm
        obtain ⟨more, calls, ends⟩ := CopyEnds.Calls.drain engine counters.write
          (show first.Calls _ ⟨filled.source, (course.inWorld filled.world).sink,
            (course.inWorld filled.world).world⟩ from calls) (clear.concat (well wanted bytes)) some
        split at pumping
        · rename_i fault failed
          cases pumping
          rw [failed] at ends
          obtain ⟨failure, blames, same⟩ := ends
          exact ⟨more, calls, blames.fails same rfl⟩
        · rename_i total success
          rw [success] at ends
          refine ih ?_ calls ends pumping
          rw [Buffer.drain_size, fetches.size]
          exact size

/-- A bulk that goes through a buffer is a run of calls that explains how it turned out. -/
theorem copyBuffered_calls {allowance : Allowance} {step : CopyStep σ depth Unit}
    (ended : engine.copyBuffered allowance counters source course = some step) :
    let start := course.inWorld (engine.buffers.huge course.world).2
    ∃ log last, CopyEnds.Calls ⟨source, start.sink, start.world⟩ log
        ⟨last, step.after.sink, step.after.world⟩ ∧
      engine.Explains .bulk log step.result := by
  obtain ⟨_, size, _, _⟩ := engine.buffers.alloc_blank engine.buffers.hugeSize course.world
  simp only [copyBuffered, Option.map_eq_some_iff] at ended
  obtain ⟨pumped, pumping, rfl⟩ := ended
  obtain ⟨log, calls, explains⟩ := pump_calls size .nothing (Phase.clear_nil .bulk) pumping
  exact ⟨log, pumped.source, calls.hushed ((World.hushed_dropBuffer _ _).trans
    (Source.hushed_drop _ _)), explains⟩

end

/-- A copy failed in a phase that it began with its ends in this state. The calls of the phase end
in the failure, and the fault tells what it was. -/
structure FailsIn (engine : Engine) (phase : Phase) (first : CopyEnds ρ σ depth)
    (log : List EndCall) (place : Place) (failure : BufferFault) (fault : CopyFault)
    (outcome : CopyOutcome) : Prop where
  blames : engine.Blames phase log place failure
  /-- Up to the end of the copy neither end is called after that. -/
  calls : ∃ source sink, first.Calls log ⟨source, sink, outcome.world⟩
  transcript : outcome.calls = first.sink.calls ++ log.filterMap EndCall.sink?
  names : failure.Plain → place.Names failure fault

section

variable {engine : Engine} {allowance : Allowance} {counters : CounterSet}
  {first : CopyEnds ρ σ depth} {log : List EndCall} {source : Source ρ} {course : Course σ depth}
  {sink : Sink σ depth} {world : World} {outcome : CopyOutcome} {fault : CopyFault}

theorem Fails.failsIn {phase : Phase} {cause : TransferFault} (fails : engine.Fails phase log cause)
    (calls : first.Calls log ⟨source, course.sink, course.world⟩)
    (same : outcome = failed course (cause.within phase.tag))
    (result : outcome.result = .error fault) :
    ∃ place failure, engine.FailsIn phase first log place failure fault outcome := by
  obtain ⟨place, failure, blames, around⟩ := fails
  rw [same] at result
  cases result
  refine ⟨place, failure, blames, ⟨source, course.sink, ?_⟩, ?_, fun plain => ?_⟩
  · rw [same]
    exact calls.hushed ((World.hushed_notice _ _).trans (Sink.hushed_drop _ _))
  · rw [same]
    exact calls.transcript
  · exact Place.names_around (around plain)

/-- A copy through buffers that fails names the place and the kind of its failure.

Up to then it makes calls that are no failures, and after it none. In the early phase a handshake
that fails or claims too much, the read that feeds one and a cached buffer that is written out each
have a place; so has the bulk. The failure is that of the last call, or that of too many stalls in
a row, or that of a buffer without room. What a splice reports is not looked at here. -/
theorem copy_names_failure
    (ended : engine.copy allowance sink source world = some outcome)
    (failed : outcome.result = .error fault) :
    let first : CopyEnds ρ σ _ := ⟨source.uncounted.1, .fresh sink.uncounted.1.2, world⟩
    let counters : CounterSet := ⟨source.uncounted.2, sink.uncounted.2⟩
    (∃ log place failure, engine.FailsIn .early first log place failure fault outcome) ∨
    ∃ middle between,
      engine.copyEarly allowance.retries counters allowance.rounds first.source
        ⟨first.sink, 0, world⟩ = some ⟨.ok middle, between⟩ ∧
      (∃ log, first.Calls log ⟨middle, between.sink, between.world⟩ ∧ Phase.early.Clear log) ∧
      let counters : CounterSet := ⟨middle.uncounted.2 ++ counters.read, counters.write⟩
      let between := between.inWorld
        (between.world.notice (.phase Stage.copyEarly between.copied))
      (engine.Splices allowance counters middle.uncounted.1 between ∨
        ∃ start log failure, engine.BulkStart allowance counters middle.uncounted.1 between start ∧
          engine.FailsIn .bulk ⟨middle.uncounted.1, start.sink, start.world⟩ log .bulk failure
            fault outcome) := by
  intro first counters
  unfold copy at ended
  rcases copyCounted_ends ended with
    ⟨cause, course, early, same⟩ | ⟨middle, between, step, early, pure, stops⟩
  · obtain ⟨log, rest, calls, fails, _⟩ :=
      copyEarly_calls .nothing (Phase.clear_nil .early) early
    exact .inl ⟨log, Fails.failsIn fails calls same failed⟩
  · obtain ⟨log, rest, calls, clear, found⟩ :=
      copyEarly_calls .nothing (Phase.clear_nil .early) early
    cases found middle rfl
    refine .inr ⟨middle, between, early, ⟨log, calls, clear⟩, ?_⟩
    refine (copyPure_start pure).imp_right ?_
    rintro ⟨begun, start, ended⟩
    obtain ⟨log, rest, calls, explains⟩ := copyBuffered_calls ended
    rcases stops with ⟨cause, result, same⟩ | ⟨_, _, success⟩
    · rw [result] at explains
      obtain ⟨place, failure, whole⟩ := Fails.failsIn explains calls same failed
      cases whole.blames.place_bulk
      exact ⟨_, log, failure, start, whole⟩
    · rw [success] at failed
      cases failed

end

end Engine

namespace Sample

/-- A writer whose handshake takes four bytes, and which is gone after that. -/
def leaving : RehearsedWriter :=
  ⟨2, [.fail (.plain .brokenPipe)], .all, none, none, .buffered [.want 4]⟩

/-- The handshake takes the cached buffer and one of the bytes that are read for it. What it leaves
is cached, and fails when it is written out. -/
theorem copy_names_failure_sample : ∃ outcome fault,
    engine.copy allowance (.peer leaving : Sink RehearsedWriter 0) source world = some outcome ∧
    outcome.result = .error fault ∧
    fault.cause.stages = [Stage.copyEarly, Stage.writeCache] ∧ fault.cause.kind = .brokenPipe ∧
    ∃ log place failure, engine.FailsIn .early
      ⟨source, .fresh (.peer leaving : Sink RehearsedWriter 0), world⟩ log place failure fault
        outcome := by
  have copied : (engine.copy allowance (.peer leaving : Sink RehearsedWriter 0) source world).map
      (fun outcome => outcome.result.mapError fun fault => (fault.cause.stages, fault.cause.kind)) =
        some (.error ([Stage.copyEarly, Stage.writeCache], .brokenPipe)) := by cbv
  have stopped : (engine.copyEarly allowance.retries ⟨[], []⟩ allowance.rounds source
      ⟨.fresh (.peer leaving : Sink RehearsedWriter 0), 0, world⟩).map
        (fun step => step.result.toOption.isSome) = some false := by cbv
  obtain ⟨outcome, ended, same⟩ := Option.map_eq_some_iff.mp copied
  cases result : outcome.result with
  | ok total =>
    rw [result] at same
    cases same
  | error fault =>
    rw [result] at same
    obtain ⟨stages, kind⟩ := Prod.mk.inj (Except.error.inj same)
    refine ⟨outcome, fault, ended, result, stages, kind, ?_⟩
    rcases Engine.copy_names_failure ended result with early | ⟨middle, between, passed, _⟩
    · exact early
    · have went : (engine.copyEarly allowance.retries ⟨[], []⟩ allowance.rounds source
          ⟨.fresh (.peer leaving : Sink RehearsedWriter 0), 0, world⟩) =
            some ⟨.ok middle, between⟩ := passed
      rw [went] at stopped
      cases stopped

end Sample

end Conduit
