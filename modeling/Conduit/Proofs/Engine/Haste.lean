import Conduit.Proofs.Engine.CopyLedger
import Conduit.Proofs.Engine.Timing
import Conduit.Proofs.Rehearsal.Sample

set_option autoImplicit false

namespace Conduit

namespace Source

variable {ρ : Type}

/-- A source of cached buffers that hold these pieces, over nothing. -/
def Stacks : Source ρ → Stores → List Bytes → Prop
  | source, _, [] => source = .buffer .hollow
  | source, stores, piece :: rest => ∃ handle inner, source = .cached (some handle) none inner ∧
      stores.held handle = piece ∧ handle ∉ inner.handles ∧ inner.Stacks stores rest

theorem Stacks.congr {source : Source ρ} {stores other : Stores} {pieces : List Bytes}
    (piled : source.Stacks stores pieces)
    (held : ∀ handle ∈ source.handles, other.held handle = stores.held handle) :
    source.Stacks other pieces := by
  induction pieces generalizing source with
  | nil => exact piled
  | cons piece rest ih =>
    obtain ⟨handle, inner, rfl, holds, apart, piled⟩ := piled
    refine ⟨handle, inner, rfl, (held handle List.mem_cons_self).trans holds, apart, ih piled ?_⟩
    exact fun member inside => held member (List.mem_cons_of_mem handle inside)

theorem exists_stacks (pieces : List Bytes) : ∃ (source : Source ρ) (world : World),
    source.Stacks world.stores pieces ∧ ∀ handle ∈ source.handles, handle < world.cells.next := by
  induction pieces with
  | nil => exact ⟨.buffer .hollow, World.initial, rfl, fun _ absurd => nomatch absurd⟩
  | cons piece rest ih =>
    obtain ⟨source, world, piled, made⟩ := ih
    have apart : ∀ handle ∈ source.handles, handle ≠ world.cells.next := fun handle inside =>
      Nat.ne_of_lt (made handle inside)
    refine ⟨.cached (some world.cells.next) none source, (world.share (.ofBytes piece)).2,
      ⟨world.cells.next, source, rfl, ?_, fun inside => apart _ inside rfl, piled.congr ?_⟩, ?_⟩
    · rw [World.stores_share, Stores.held_refilled_same]
      rfl
    · intro handle inside
      rw [World.stores_share, Stores.held_refilled_other _ _ _ _ (apart handle inside)]
    · intro handle inside
      rw [World.next_share]
      rcases List.mem_cons.mp inside with rfl | before
      · exact Nat.lt_succ_self _
      · exact Nat.lt_succ_of_lt (made handle before)

theorem Stacks.uncounted {source : Source ρ} {stores : Stores} {pieces : List Bytes}
    (piled : source.Stacks stores pieces) : source.uncounted = (source, []) := by
  cases pieces with
  | nil =>
    cases piled
    rfl
  | cons piece rest =>
    obtain ⟨handle, inner, rfl, _⟩ := piled
    rfl

end Source

namespace Engine

variable {ρ σ : Type} [ReadPeer ρ] [WritePeer σ] {depth : Nat} {engine : Engine} {retries : Nat}
  {counters : CounterSet}

/-- Once data was offered too early, it was. -/
theorem EarlyStep.hasty {state next : EarlyState ρ σ depth}
    (step : EarlyStep engine retries counters state next) (hasty : state.course.sink.Hasty) :
    next.course.sink.Hasty := by
  have offered (handle : SharedId) (course : Course σ depth) (hasty : course.sink.Hasty) :
      (offer handle counters course).after.sink.Hasty := by
    rw [offer_sink]
    exact hasty.answered _ _
  have replayed (handle : SharedId) (course : Course σ depth) (hasty : course.sink.Hasty) :
      (replay handle counters course).after.sink.Hasty := by
    rw [replay_sink]
    exact Watched.drain_keeps (fun _ hasty => hasty.write) hasty [] _ _
  cases step with
  | idle | bare | stale | layer | fetched | unfetched | uncached | skipped | cached => exact hasty
  | greeted | ungreeted => exact hasty.answered _ _
  | refused | took | sated | left => exact offered _ _ hasty
  | replayed | unwritten => exact replayed _ _ hasty

section

variable (engine retries counters)

/-- A read for a handshake from a source that has nothing fails. -/
theorem readGreeting_hollow (world : World) : ∃ fault rest after,
    engine.readGreeting retries (.buffer .hollow : Source ρ) world =
      some (.error fault, rest, after) := by
  have gives : (.buffer .hollow : Source ρ).Gives [] 0 := rfl
  obtain ⟨⟨result, rest, after⟩, fetch⟩ := Option.isSome_iff_exists.mp
    (readGreeting_isSome engine world gives (Nat.zero_le retries))
  cases result with
  | error fault => exact ⟨fault, rest, after, fetch⟩
  | ok buffer =>
    obtain ⟨some, _, gained, draws⟩ := readGreeting_ok fetch
    obtain ⟨left, _, none, _⟩ := draws.supply [] 0 gives
    have flow := draws.flow
    rw [(List.append_eq_nil_iff.mp none.symm).1] at flow
    exact absurd (List.append_eq_nil_iff.mp flow.symm).1 some

/-- The early phase of a copy from nothing ends in one round. -/
theorem copyEarly_hollow (rounds : Nat) (course : Course σ depth) : ∃ step,
    engine.copyEarly retries counters (rounds + 1) (.buffer .hollow : Source ρ) course = some step ∧
      ∀ middle, step.result = .ok middle → middle = .buffer .hollow := by
  have bare : (.buffer .hollow : Source ρ).pick = (.buffer .hollow, none) := rfl
  rw [copyEarly, handshakeRound]
  cases pending : course.sink.handshake? with
  | none =>
    refine ⟨⟨.ok (.buffer .hollow), course⟩, rfl, ?_⟩
    rintro _ ⟨⟩
    rfl
  | some kind =>
    cases kind with
    | plain =>
      cases answer : (course.sink.greet course.world).answer with
      | ok done =>
        simp only [answer, Bool.false_and, Bool.false_eq_true, if_false, bare]
        refine ⟨_, rfl, ?_⟩
        rintro _ ⟨⟩
        rfl
      | error fault =>
        simp only [answer]
        exact ⟨_, rfl, by rintro _ ⟨⟩⟩
    | buffered =>
      obtain ⟨fault, rest, after, fetch⟩ :=
        readGreeting_hollow (ρ := ρ) engine retries course.world
      simp only [feedRound, greetingBytes, bare, fetch, Option.map_some]
      exact ⟨_, rfl, by rintro _ ⟨⟩⟩

/-- A pump of nothing ends in one round, and calls nothing of the destination. -/
theorem pump_hollow (rounds : Nat) (buffer : Buffer) (course : Course σ depth) :
    ∃ pumped, pump retries counters (rounds + 1) buffer (.buffer .hollow : Source ρ) course =
      some pumped ∧ pumped.course.sink = course.sink := by
  have gives : (.buffer .hollow : Source ρ).Gives [] 0 := rfl
  obtain ⟨filled, fill⟩ := Option.isSome_iff_exists.mp
    (Buffer.fillOnce_isSome counters.read buffer.reset course.world gives (Nat.zero_le retries))
  obtain ⟨bytes, gained, after, fetches⟩ := Buffer.fillOnce_fetches rfl fill
  rw [pump, fill]
  dsimp only
  split
  · exact ⟨_, rfl, rfl⟩
  · exact ⟨_, rfl, rfl⟩
  · rename_i less came
    obtain ⟨left, _, none, _⟩ := fetches.draws.supply [] 0 gives
    have flow := fetches.draws.flow
    rw [(List.append_eq_nil_iff.mp none.symm).1] at flow
    have count := fetches.ok _ came
    rw [(List.append_eq_nil_iff.mp flow.symm).1] at count
    cases count

/-- The bulk of a copy from nothing through a buffer ends in one round, and calls nothing of the
destination. -/
theorem copyBuffered_hollow (rounds : Nat) (course : Course σ depth) :
    ∃ step, engine.copyBuffered ⟨retries, rounds + 1⟩ counters (.buffer .hollow : Source ρ)
      course = some step ∧ step.after.sink = course.sink := by
  obtain ⟨pumped, ended, same⟩ := pump_hollow (ρ := ρ) retries counters rounds
    (engine.buffers.huge course.world).1 (course.inWorld (engine.buffers.huge course.world).2)
  simp only [copyBuffered, ended, Option.map_some]
  exact ⟨_, rfl, same⟩

section

variable {handle : SharedId} {course : Course σ depth} {later : σ}

/-- A round in which a handshake takes a whole layer and is not over. -/
theorem copyEarly_fed (inner : Source ρ) (same : course.sink.sink.writer? = some later)
    (pending : WritePeer.handshake later = some .buffered)
    (some : course.world.stores.held handle ≠ [])
    (all : (WritePeer.feed later (course.world.stores.held handle)).1 =
      .ok (course.world.stores.held handle).length)
    (still : (WritePeer.handshake
      (WritePeer.feed later (course.world.stores.held handle)).2).isSome = true) :
    ∃ next : Course σ depth, next.sink.sink.writer? =
        .some (WritePeer.feed later (course.world.stores.held handle)).2 ∧
      (∀ other, other ≠ handle → next.world.stores.held other = course.world.stores.held other) ∧
      ∀ rounds, engine.copyEarly retries counters (rounds + 1) (.cached (.some handle) none inner)
        course = engine.copyEarly retries counters rounds inner next := by
  obtain ⟨result, kept, _, stores⟩ := offer_takes counters same all (Nat.le_refl _)
  have filled : (course.world.shared handle).isEmpty = false :=
    List.isEmpty_eq_false_iff.mpr some
  have asked : course.sink.handshake? = .some .buffered := by
    rw [Watched.handshake?, Sink.handshake_eq, same]
    exact pending
  have emptied : ((offer handle counters course).after.world.shared handle).isEmpty = true := by
    have left := congrArg (fun stores => stores.held handle) stores
    rw [Stores.held_refilled_same, List.drop_length] at left
    exact List.isEmpty_iff.mpr left
  have again : ((offer handle counters course).after.inWorld ((offer handle counters
      course).after.world.release handle)).sink.handshake?.isSome = true := by
    rw [Course.inWorld, Watched.handshake?, Sink.handshake_eq, kept]
    exact still
  refine ⟨(offer handle counters course).after.inWorld
    ((offer handle counters course).after.world.release handle), kept, ?_, ?_⟩
  · intro other apart
    rw [Course.inWorld, World.held_release_other _ _ _ apart, stores,
      Stores.held_refilled_other _ _ _ _ apart]
  · intro rounds
    have here : course.inWorld course.world = course := rfl
    rw [copyEarly, handshakeRound]
    simp only [asked, feedRound, greetingBytes, Source.pick, filled, Bool.false_eq_true, if_false,
      Option.map_some, here, result, emptied, if_true, again, Bool.and_self]

/-- A cached buffer is written out while a handshake is pending, and nothing comes after it. -/
theorem replay_hasty (rounds : Nat) (pending : course.sink.handshake?.isSome = true)
    (filled : (course.world.shared handle).isEmpty = false) : ∃ step : CopyStep σ depth (Source ρ),
      (let step := replay handle counters course
      let course := step.after.inWorld (step.after.world.release handle)
      match step.result with
      | .error fault =>
        some ⟨.error fault, course.inWorld ((.buffer .hollow : Source ρ).drop course.world)⟩
      | .ok () => engine.copyEarly retries counters (rounds + 1) (.buffer .hollow) course) =
        some step ∧
      step.after.sink.Hasty ∧ ∀ middle, step.result = .ok middle → middle = .buffer .hollow := by
  have hasty : (replay handle counters course).after.sink.Hasty := by
    rw [replay_sink]
    exact Watched.hasty_drain pending [] _ _ (List.isEmpty_eq_false_iff.mp filled)
  cases result : (replay handle counters course).result with
  | error fault =>
    simp only [result]
    exact ⟨_, rfl, hasty, fun _ absurd => nomatch absurd⟩
  | ok done =>
    simp only [result]
    obtain ⟨step, early, finished⟩ := copyEarly_hollow (ρ := ρ) engine retries counters rounds
      ((replay handle counters course).after.inWorld
        ((replay handle counters course).after.world.release handle))
    have path := copyEarly_path engine retries counters _ _ _ step early
    have later := path.keeps (fun state _ hasty taken => EarlyStep.hasty taken hasty) hasty
    rw [CopyStep.course_ended] at later
    exact ⟨step, early, later, finished⟩

theorem greeted_hasty (rounds : Nat) (same : course.sink.sink.writer? = some later)
    (filled : (course.world.shared handle).isEmpty = false)
    (pending : WritePeer.handshake later = some .plain)
    (success : (WritePeer.greet later).1 = .ok ())
    (still : (WritePeer.handshake (WritePeer.greet later).2).isSome = true) :
    ∃ step, engine.copyEarly retries counters (rounds + 2)
        (.cached (some handle) none (.buffer .hollow) : Source ρ) course = some step ∧
      step.after.sink.Hasty ∧ ∀ middle, step.result = .ok middle → middle = .buffer .hollow := by
  obtain ⟨answer, kept, stores⟩ := Sink.greet_writer same course.world
  have asked : course.sink.handshake? = some .plain := by
    rw [Watched.handshake?, Sink.handshake_eq, same]
    exact pending
  have greets : (course.sink.greet course.world).answer = .ok () := answer.trans success
  have again : course.greeted.sink.handshake?.isSome = true := by
    rw [Watched.handshake?, Sink.handshake_eq]
    simp only [Course.greeted, Watched.greet, Called.through, Watched.sink_answered, kept]
    exact still
  have left : (course.greeted.world.shared handle).isEmpty = false := by
    rw [Buffer.isEmpty, List.isEmpty_eq_false_iff] at filled ⊢
    exact fun none => filled ((congrArg (fun stores => stores.held handle) stores).symm.trans none)
  have replays := replay_hasty (ρ := ρ) engine retries counters rounds again left
  simp only [Course.greeted] at left replays
  rw [copyEarly, handshakeRound]
  simp only [asked, greets, Bool.false_and, Bool.false_eq_true, if_false, Source.pick, left]
  exact replays

theorem left_hasty (rounds : Nat) {taken : Nat} (same : course.sink.sink.writer? = some later)
    (pending : WritePeer.handshake later = some .buffered)
    (success : (WritePeer.feed later (course.world.stores.held handle)).1 = .ok taken)
    (fewer : taken < (course.world.stores.held handle).length)
    (still : (WritePeer.handshake
      (WritePeer.feed later (course.world.stores.held handle)).2).isSome = true) :
    ∃ step, engine.copyEarly retries counters (rounds + 2)
        (.cached (some handle) none (.buffer .hollow) : Source ρ) course = some step ∧
      step.after.sink.Hasty ∧ ∀ middle, step.result = .ok middle → middle = .buffer .hollow := by
  obtain ⟨result, kept, _, stores⟩ := offer_takes counters same success (Nat.le_of_lt fewer)
  have filled : (course.world.shared handle).isEmpty = false :=
    List.isEmpty_eq_false_iff.mpr (List.ne_nil_of_length_pos (Nat.zero_lt_of_lt fewer))
  have asked : course.sink.handshake? = some .buffered := by
    rw [Watched.handshake?, Sink.handshake_eq, same]
    exact pending
  have again : (offer handle counters course).after.sink.handshake?.isSome = true := by
    rw [Watched.handshake?, Sink.handshake_eq, kept]
    exact still
  have left : ((offer handle counters course).after.world.shared handle).isEmpty = false := by
    have held := congrArg (fun stores => stores.held handle) stores
    rw [Stores.held_refilled_same] at held
    rw [Buffer.isEmpty, List.isEmpty_eq_false_iff]
    intro none
    exact absurd (List.drop_eq_nil_iff.mp (held.symm.trans none)) (Nat.not_le_of_lt fewer)
  have here : course.inWorld course.world = course := rfl
  have there : (offer handle counters course).after.inWorld
      (offer handle counters course).after.world = (offer handle counters course).after := rfl
  rw [copyEarly, handshakeRound]
  simp only [asked, feedRound, greetingBytes, Source.pick, filled, Bool.false_eq_true, if_false,
    Option.map_some, here, result, left, Source.cache, Bool.false_and, there]
  exact replay_hasty (ρ := ρ) engine retries counters rounds again left

end

/-- A copy gets to any state in which a handshake took all that it was offered. -/
theorem copyEarly_served {writer later : σ} (served : WritePeer.Served writer later)
    (pieces : List Bytes) : ∃ more : List Bytes, ∀ (source : Source ρ) (course : Course σ depth),
      course.sink.sink.writer? = some writer →
      source.Stacks course.world.stores (more ++ pieces) →
      ∃ (rest : Source ρ) (next : Course σ depth), next.sink.sink.writer? = some later ∧
        rest.Stacks next.world.stores pieces ∧
        ∀ rounds, engine.copyEarly retries counters (rounds + more.length) source course =
          engine.copyEarly retries counters rounds rest next := by
  induction served generalizing pieces with
  | start => exact ⟨[], fun source course same piled => ⟨source, course, same, piled, fun _ => rfl⟩⟩
  | @fed later bytes _ pending some all still ih =>
    obtain ⟨more, run⟩ := ih (bytes :: pieces)
    refine ⟨more ++ [bytes], fun source course same piled => ?_⟩
    rw [List.append_assoc, List.singleton_append] at piled
    obtain ⟨_, between, kept, ⟨handle, inner, rfl, rfl, apart, beneath⟩, early⟩ :=
      run source course same piled
    obtain ⟨next, fed, held, again⟩ :=
      copyEarly_fed engine retries counters inner kept pending some all still
    refine ⟨inner, next, fed, beneath.congr ?_, fun rounds => ?_⟩
    · exact fun member inside => held member fun same => apart (same ▸ inside)
    · rw [List.length_append, List.length_singleton, ← again, ← early]
      congr 1
      omega

end

/-- A copy whose early phase offered data too early, and left nothing, comes to an end. -/
theorem copyCounted_hasty (allowance : Allowance) (sink : Sink σ depth) (source : Source ρ)
    (counters : CounterSet) (world : World) {step : CopyStep σ depth (Source ρ)} {rounds : Nat}
    (some : allowance.rounds = rounds + 1)
    (early : engine.copyEarly allowance.retries counters allowance.rounds source
      ⟨.fresh sink, 0, world⟩ = .some step)
    (hasty : step.after.sink.Hasty)
    (finished : ∀ middle, step.result = .ok middle → middle = .buffer .hollow) :
    ∃ outcome, engine.copyCounted allowance sink source counters world = .some outcome ∧
      ∃ call ∈ outcome.calls, ¬ call.Timely := by
  have ends : ∃ outcome,
      engine.copyCounted allowance sink source counters world = .some outcome := by
    obtain ⟨result, course⟩ := step
    unfold copyCounted
    rw [early]
    cases result with
    | error fault => exact ⟨_, rfl⟩
    | ok middle =>
      cases finished middle rfl
      dsimp only
      rw [copyPure_eq_copyBuffered allowance _ _ _ (.inr (.inl rfl))]
      have again : allowance = ⟨allowance.retries, rounds + 1⟩ := by rw [← some]
      obtain ⟨bulk, ended, _⟩ := copyBuffered_hollow (ρ := ρ) engine allowance.retries
        ⟨[] ++ counters.read, counters.write⟩ rounds
        (course.inWorld (course.world.notice (.phase Stage.copyEarly course.copied)))
      rw [← again] at ended
      simp only [Source.uncounted]
      rw [ended]
      dsimp only
      split <;> exact ⟨_, rfl⟩
  obtain ⟨outcome, ended⟩ := ends
  refine ⟨outcome, ended, ?_⟩
  rcases copyCounted_calls (fun _ hasty => hasty.write) allowance sink source world early
    (fun _ _ => hasty) outcome ended with ⟨_, same⟩ | ⟨watched, hasty, same⟩
  · rw [same]
    exact hasty
  · rw [same]
    exact hasty

/-- A destination whose handshake can be led to a state in which a last layer leaves it pending is
offered data too early. -/
theorem copy_hasty (engine : Engine) (sink : Sink σ depth) {writer later : σ}
    (same : sink.uncounted.1.2.writer? = some writer) (served : WritePeer.Served writer later)
    (piece : Bytes)
    (lingers : ∀ (handle : SharedId) (course : Course σ sink.uncounted.1.1),
      course.sink.sink.writer? = some later → course.world.stores.held handle = piece →
      ∃ step, engine.copyEarly 0 ⟨[], sink.uncounted.2⟩ 2
          (.cached (some handle) none (.buffer .hollow) : Source ρ) course = some step ∧
        step.after.sink.Hasty ∧ ∀ middle, step.result = .ok middle → middle = .buffer .hollow) :
    ∃ (allowance : Allowance) (source : Source ρ) (world : World) (outcome : CopyOutcome),
      engine.copy allowance sink source world = some outcome ∧
        ∃ call ∈ outcome.calls, ¬ call.Timely := by
  obtain ⟨more, run⟩ := @copyEarly_served ρ σ _ _ sink.uncounted.1.1 engine 0
    ⟨[], sink.uncounted.2⟩ _ _ served [piece]
  obtain ⟨source, world, piled, _⟩ := Source.exists_stacks (ρ := ρ) (more ++ [piece])
  obtain ⟨_, next, kept, ⟨handle, _, rfl, holds, _, rfl⟩, early⟩ :=
    run source ⟨.fresh sink.uncounted.1.2, 0, world⟩ same piled
  obtain ⟨step, ended, hasty, finished⟩ := lingers handle next kept holds
  rw [← early 2] at ended
  have rounds : 2 + more.length = more.length + 1 + 1 := Nat.add_comm 2 _
  obtain ⟨outcome, copied, call⟩ := copyCounted_hasty ⟨0, 2 + more.length⟩ sink.uncounted.1.2 source
    ⟨[], sink.uncounted.2⟩ world rounds ended hasty finished
  refine ⟨⟨0, 2 + more.length⟩, source, world, outcome, ?_, call⟩
  rw [copy, piled.uncounted]
  exact copied

/-- No copy offers data while a handshake is pending just when the destination, without the counting
layers that copies take off, is prompt if it is a writer: a handshake without input has to be over
after one call, and one that takes bytes as soon as it leaves some of them. Writes are taken not to
bring a handshake back that is over. -/
theorem copy_timely_iff (ρ : Type) [ReadPeer ρ] (engine : Engine) (sink : Sink σ depth)
    (concludes : ∀ writer, sink.uncounted.1.2.writer? = some writer →
      WritePeer.Concludes writer) :
    (∀ (allowance : Allowance) (source : Source ρ) (world : World) (outcome : CopyOutcome),
        engine.copy allowance sink source world = some outcome →
          ∀ call ∈ outcome.calls, call.Timely) ↔
      ∀ writer, sink.uncounted.1.2.writer? = some writer → WritePeer.Prompt writer := by
  constructor
  · intro timely writer same
    have never {later : σ} (served : WritePeer.Served writer later) (piece : Bytes) :=
      fun lingers =>
      let ⟨allowance, source, world, outcome, ended, call, inside, early⟩ :=
        copy_hasty (ρ := ρ) engine sink same served piece lingers
      early (timely allowance source world outcome ended call inside)
    refine ⟨?_, ?_⟩
    · intro later served pending success
      by_contra still
      refine never served [0] fun handle course kept holds => ?_
      refine greeted_hasty engine 0 _ 0 kept ?_ pending success
        (Option.isSome_iff_ne_none.mpr still)
      rw [Buffer.isEmpty, List.isEmpty_eq_false_iff]
      exact fun none => List.cons_ne_nil _ _ (holds.symm.trans none)
    · intro later bytes taken served pending success fewer
      by_contra still
      refine never served bytes fun handle course kept holds => ?_
      cases holds
      exact left_hasty engine 0 _ 0 kept pending success fewer (Option.isSome_iff_ne_none.mpr still)
  · intro prompt allowance source world outcome ended
    exact copyCounted_timely allowance _ _ _ world concludes prompt outcome ended

/-- The reluctant writer of the sample is not prompt. -/
theorem copy_timely_iff_sample : ¬ ∀ (allowance : Allowance) (source : Source RehearsedReader)
    (world : World) (outcome : CopyOutcome),
    Sample.engine.copy allowance (.peer Sample.reluctant) source world = some outcome →
      ∀ call ∈ outcome.calls, call.Timely := by
  intro timely
  have prompt := (copy_timely_iff RehearsedReader Sample.engine (.peer Sample.reluctant)
    fun writer _ => writer.concludes).mp timely Sample.reluctant rfl
  have finished := prompt.fed Sample.reluctant [1, 2, 3] 2 .start rfl rfl (by decide)
  cases finished

/-- The reluctant writer is written to when its handshake took two of three cached bytes. -/
theorem copy_hasty_sample :
    ∃ outcome, Sample.engine.copy Sample.allowance (.peer Sample.reluctant) Sample.source
        Sample.world = some outcome ∧
      ∃ call ∈ outcome.calls, ¬ call.Timely := by
  have early : (Sample.engine.copy Sample.allowance (.peer Sample.reluctant) Sample.source
      Sample.world).map (fun outcome => decide (∀ call ∈ outcome.calls, call.Timely)) =
        some false := by cbv
  obtain ⟨outcome, ended, hasty⟩ := Option.map_eq_some_iff.mp early
  refine ⟨outcome, ended, ?_⟩
  simpa using hasty

end Engine

end Conduit
