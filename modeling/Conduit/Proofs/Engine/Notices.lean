import Conduit.Proofs.Engine.EarlyPath
import Conduit.Proofs.Engine.Ending
import Conduit.Proofs.Sink.Muttering
import Conduit.Proofs.Splice.Sparing

set_option autoImplicit false

namespace Conduit

namespace Notice

/-- The bytes that a notice of the early phase says went to the destination. -/
def passed : Notice → Nat
  | .replay bytes => bytes
  | .handshake _ consumed => consumed
  | _ => 0

/-- A handshake was offered something and took no more than that. -/
def Measured : Notice → Prop
  | .handshake offered consumed => consumed ≤ offered ∧ 0 < offered
  | _ => True

theorem Minor.measured {notice : Notice} (minor : notice.Minor) : notice.Measured := by
  cases notice with
  | handshake => rcases minor with splice | pool <;> contradiction
  | phase | failed | replay | spliced | fallback | pipe | poolMiss => trivial

theorem Minor.passed {notice : Notice} (minor : notice.Minor) : notice.passed = 0 := by
  cases notice with
  | handshake | replay => rcases minor with splice | pool <;> contradiction
  | phase | failed | spliced | fallback | pipe | poolMiss => rfl

theorem Minor.not_copy {notice : Notice} (minor : notice.Minor) : notice.subsystem ≠ .copy := by
  rcases minor with splice | pool
  · rw [splice]
    decide
  · rw [pool]
    decide

end Notice

namespace World

/-- The notices given since an earlier world come to so many bytes, and say of no phase that it
ended or failed. -/
def Accounts (start : World) (moved : Nat) (world : World) : Prop :=
  ∃ told, start.Reports told world ∧ (told.map Notice.passed).sum = moved ∧
    ∀ notice ∈ told, notice.subsystem ≠ .copy ∧ notice.Measured

namespace Accounts

variable {start world later : World} {moved : Nat}

theorem refl (start : World) : Accounts start 0 start := ⟨[], .refl start, rfl, nofun⟩

theorem notice (accounts : start.Accounts moved world) (notice : Notice)
    (early : notice.subsystem ≠ .copy ∧ notice.Measured) :
    start.Accounts (moved + notice.passed) (world.notice notice) := by
  obtain ⟨told, reports, sum, fit⟩ := accounts
  refine ⟨told ++ [notice], reports.notice notice, ?_, ?_⟩
  · rw [List.map_append, List.sum_append, sum, List.map_singleton, List.sum_singleton]
  · exact List.forall_mem_append.mpr ⟨fit, List.forall_mem_singleton.mpr early⟩

theorem mutters (accounts : start.Accounts moved world) (mutters : world.Mutters later) :
    start.Accounts moved later := by
  obtain ⟨told, reports, sum, fit⟩ := accounts
  obtain ⟨more, murmured, minor⟩ := mutters.reports
  refine ⟨told ++ more, reports.trans murmured, ?_, ?_⟩
  · have none : (more.map Notice.passed).sum = 0 := by
      refine List.sum_eq_zero_iff_forall_eq_nat.mpr fun _ inside => ?_
      obtain ⟨notice, said, rfl⟩ := List.mem_map.mp inside
      exact (minor notice said).passed
    rw [List.map_append, List.sum_append, sum, none, Nat.add_zero]
  · exact List.forall_mem_append.mpr
      ⟨fit, fun notice said => ⟨(minor notice said).not_copy, (minor notice said).measured⟩⟩

theorem still (accounts : start.Accounts moved world) (same : later.journal = world.journal) :
    start.Accounts moved later :=
  accounts.mutters (.of_journal_eq same)

end Accounts

end World

namespace Engine

variable {ρ σ : Type} [ReadPeer ρ] [WritePeer σ] {depth : Nat} {engine : Engine} {retries : Nat}
  {counters : CounterSet} {start : World}

theorem readGreeting_mutters {source rest : Source ρ} {world later : World}
    {result : Except TransferFault Buffer}
    (fetch : engine.readGreeting retries source world = some (result, rest, later)) :
    world.Mutters later := by
  have taken := world.mutters_alloc engine.buffers engine.buffers.standardSize
  simp only [readGreeting, Allocator.standard, Option.map_eq_some_iff] at fetch
  obtain ⟨filled, ended, shape⟩ := fetch
  have filling := taken.trans (Buffer.mutters_fillOnce ended)
  split at shape <;> cases shape
  · exact filling.trans (.of_journal_eq (World.journal_dropBuffer _ _))
  · exact filling
  · exact filling.trans (.of_journal_eq (World.journal_dropBuffer _ _))

theorem offer_accounts {handle : SharedId} {course : Course σ depth}
    (filled : (course.world.shared handle).isEmpty = false)
    (accounts : start.Accounts course.copied course.world) :
    let step := offer handle counters course
    ∃ moved, start.Accounts moved step.after.world ∧
      (step.result = .ok () → moved = step.after.copied) := by
  have fed := accounts.mutters
    (course.sink.sink.mutters_feed (course.world.shared handle).unread course.world)
  have some : 0 < (course.world.shared handle).unread.length :=
    List.length_pos_iff.mpr (List.isEmpty_eq_false_iff.mp filled)
  unfold offer
  dsimp only
  split
  · exact ⟨_, fed, nofun⟩
  · split
    · -- A handshake that claims too much is not told of.
      exact ⟨_, fed, nofun⟩
    · rename_i consumed _ within
      have noted := fed.notice (.handshake _ consumed) ⟨nofun, Nat.le_of_not_lt within, some⟩
      exact ⟨_, noted.mutters (World.mutters_countBoth _ counters consumed), fun _ => rfl⟩

/-- What is written of a cached buffer is what its notice says. -/
theorem replay_accounts {handle : SharedId} {course : Course σ depth}
    (accounts : start.Accounts course.copied course.world) :
    let step := replay handle counters course
    ∃ moved, start.Accounts moved step.after.world ∧
      (step.result = .ok () → moved = step.after.copied) := by
  have drained := accounts.mutters
    (Watched.mutters_drain [] (course.world.shared handle) course.sink course.world)
  have counted (reported : Nat) := drained.mutters (World.mutters_countBoth _ counters reported)
  unfold replay
  dsimp only
  split
  · -- Bytes that went before a write failed are counted, but no notice tells of them.
    exact ⟨_, counted _, nofun⟩
  · exact ⟨_, (counted _).notice (.replay _) ⟨nofun, trivial⟩, fun _ => rfl⟩

/-- As long as the early phase did not fail, its notices account for all that was copied. -/
def Accounted (start : World) (state : EarlyState ρ σ depth) : Prop :=
  ∃ moved, start.Accounts moved state.course.world ∧
    (state.point.source?.isSome = true → moved = state.course.copied)

theorem EarlyStep.accounted {state next : EarlyState ρ σ depth}
    (step : EarlyStep engine retries counters state next) (before : Accounted start state) :
    Accounted start next := by
  obtain ⟨moved, accounts, all⟩ := before
  -- No step leads on from a failure, so the notices so far account for all that was copied.
  obtain ⟨_, here⟩ := step.source
  cases all (by rw [here]; rfl)
  cases step with
  | idle | bare | layer | uncached | cached => exact ⟨_, accounts, fun _ => rfl⟩
  | @greeted _ course =>
    exact ⟨_, accounts.mutters (course.sink.sink.mutters_greet course.world), fun _ => rfl⟩
  | @ungreeted source course =>
    have greeted := accounts.mutters (course.sink.sink.mutters_greet course.world)
    exact ⟨_, greeted.still (source.journal_drop _), nofun⟩
  | stale | skipped => exact ⟨_, accounts.still (World.journal_release _ _), fun _ => rfl⟩
  | fetched fetch =>
    have fed := accounts.mutters (readGreeting_mutters fetch)
    exact ⟨_, fed.still (World.journal_share _ _), fun _ => rfl⟩
  | unfetched fetch =>
    have fed := accounts.mutters (readGreeting_mutters fetch)
    exact ⟨_, fed.still (Source.journal_drop _ _), nofun⟩
  | @refused handle rest _ _ filled failed =>
    obtain ⟨moved, offered, _⟩ := offer_accounts filled accounts
    exact ⟨_, offered.still ((rest.journal_drop _).trans (World.journal_release _ handle)), nofun⟩
  | took filled success | sated filled success =>
    obtain ⟨moved, offered, same⟩ := offer_accounts filled accounts
    exact ⟨_, offered.still (World.journal_release _ _), fun _ => same success⟩
  | left filled success =>
    obtain ⟨moved, offered, same⟩ := offer_accounts filled accounts
    exact ⟨_, offered, fun _ => same success⟩
  | replayed filled success =>
    obtain ⟨moved, replayed, same⟩ := replay_accounts accounts
    exact ⟨_, replayed.still (World.journal_release _ _), fun _ => same success⟩
  | @unwritten handle rest _ _ filled failed =>
    obtain ⟨moved, replayed, _⟩ := replay_accounts accounts
    exact ⟨_, replayed.still ((rest.journal_drop _).trans (World.journal_release _ handle)), nofun⟩

/-- However the early phase of a fresh copy ends. -/
theorem copyEarly_accounts {rounds : Nat} {source : Source ρ} {sink : Watched σ depth}
    {step : CopyStep σ depth (Source ρ)}
    (ended : engine.copyEarly retries counters rounds source ⟨sink, 0, start⟩ = some step) :
    ∃ moved, start.Accounts moved step.after.world ∧
      ∀ source, step.result = .ok source → moved = step.after.copied := by
  obtain ⟨moved, accounts, all⟩ : Accounted start step.ended :=
    (copyEarly_path _ _ _ _ _ _ _ ended).keeps (fun _ _ before step => step.accounted before)
      ⟨0, .refl start, fun _ => rfl⟩
  rw [CopyStep.course_ended] at accounts all
  refine ⟨moved, accounts, fun source success => all ?_⟩
  rw [CopyStep.ended, success]
  rfl

/-- A course goes on with nothing but minor notices, and takes no byte back. -/
structure Proceeds (course later : Course σ depth) : Prop where
  mutters : course.world.Mutters later.world
  copied : course.copied ≤ later.copied

omit [WritePeer σ] in
theorem Proceeds.trans {course middle later : Course σ depth} (first : Proceeds course middle)
    (second : Proceeds middle later) : Proceeds course later :=
  ⟨first.mutters.trans second.mutters, Nat.le_trans first.copied second.copied⟩

theorem pump_proceeds {rounds : Nat} {buffer : Buffer} {source : Source ρ}
    {course : Course σ depth} {pumped : Pumped ρ σ depth}
    (pumping : pump retries counters rounds buffer source course = some pumped) :
    Proceeds course pumped.course := by
  induction rounds generalizing buffer source course with
  | zero => cases pumping
  | succ rounds ih =>
    rw [pump] at pumping
    split at pumping
    · cases pumping
    · rename_i filled fill
      have filling : Proceeds course (course.inWorld filled.world) :=
        ⟨Buffer.mutters_fillOnce fill, Nat.le_refl _⟩
      dsimp only at pumping
      split at pumping
      · cases pumping
        exact filling
      · cases pumping
        exact filling
      · have draining (drained : Drained (Watched σ depth))
            (said : filled.world.Mutters drained.world) :
            Proceeds course ⟨drained.sink, course.copied + drained.reported, drained.world⟩ :=
          filling.trans ⟨said, Nat.le_add_right _ _⟩
        have drained := draining _
          (Watched.mutters_drain counters.write filled.buffer course.sink filled.world)
        split at pumping
        · cases pumping
          exact drained
        · exact drained.trans (ih pumping)

theorem copyBuffered_proceeds {allowance : Allowance} {source : Source ρ}
    {course : Course σ depth} {step : CopyStep σ depth Unit}
    (ended : engine.copyBuffered allowance counters source course = some step) :
    Proceeds course step.after := by
  simp only [copyBuffered, Option.map_eq_some_iff] at ended
  obtain ⟨pumped, pumping, rfl⟩ := ended
  have taken := course.world.mutters_alloc engine.buffers engine.buffers.hugeSize
  have moved := pump_proceeds pumping
  have freed := (pumped.source.journal_drop _).trans
    (World.journal_dropBuffer pumped.course.world pumped.buffer)
  exact ⟨(taken.trans moved.mutters).trans (.of_journal_eq freed), moved.copied⟩

theorem copyPure_proceeds {allowance : Allowance} {source : Source ρ} {course : Course σ depth}
    {step : CopyStep σ depth Unit}
    (ended : engine.copyPure allowance counters source course = some step) :
    Proceeds course step.after := by
  unfold copyPure at ended
  split at ended
  · split at ended
    · cases ended
    · rename_i spliced splicing
      obtain ⟨spares, grown⟩ := spliceCopy_advances splicing
      have moved : Proceeds course ⟨course.sink, spliced.copied, spliced.world⟩ :=
        ⟨spares.mutters, grown⟩
      dsimp only at ended
      split at ended
      · cases ended
        exact moved.trans ⟨.of_journal_eq (source.journal_drop _), Nat.le_refl _⟩
      · cases ended
        exact moved.trans ⟨.of_journal_eq (source.journal_drop _), Nat.le_refl _⟩
      · exact moved.trans (copyBuffered_proceeds ended)
  · exact copyBuffered_proceeds ended

/-- The notices of a copy between its phases: the early one ended, after a notice of what the
notices before add up to, and the bulk gave minor ones since. -/
def BetweenPhases (told : List Notice) (early : Nat) : Prop :=
  ∃ front back, told = front ++ .phase Stage.copyEarly early :: back ∧
    (∀ notice ∈ front, notice.subsystem ≠ .copy) ∧ (∀ notice ∈ back, notice.Minor) ∧
    (front.map Notice.passed).sum = early

/-- What the notices of a copy say of its result. A copy that succeeds gave one notice of each phase
in turn, and their bytes add up to its total. One that fails gave one notice of that failure, at the
end, and one of its early phase just if the bulk failed. -/
def Tells (told : List Notice) : Except CopyFault Nat → Prop
  | .ok total => ∃ before early late, told = before ++ [.phase Stage.copyPure late] ∧
      BetweenPhases before early ∧ early + late = total
  | .error fault => ∃ before, told = before ++ [.failed fault] ∧
      if fault.cause.stage? = some Stage.copyPure then ∃ early, BetweenPhases before early
      else ∀ notice ∈ before, notice.subsystem ≠ .copy

variable {allowance : Allowance} {sink : Sink σ depth} {source : Source ρ} {outcome : CopyOutcome}

theorem copyCounted_tells
    (ended : engine.copyCounted allowance sink source counters start = some outcome) :
    ∃ told, start.Reports told outcome.world ∧ Tells told outcome.result ∧
      ∀ notice ∈ told, notice.Measured := by
  rcases copyCounted_ends ended with
    ⟨cause, course, began, rfl⟩ | ⟨middle, course, step, began, pure, stops⟩
  · obtain ⟨moved, ⟨told, reports, _, fit⟩, _⟩ := copyEarly_accounts began
    have noted := reports.notice (.failed ⟨course.copied, cause.within Stage.copyEarly⟩)
    refine ⟨_, noted.still (course.sink.sink.journal_drop _), ⟨told, rfl, ?_⟩, ?_⟩
    · have apart : (cause.within Stage.copyEarly).stage? ≠ some Stage.copyPure :=
        show some Stage.copyEarly ≠ some Stage.copyPure by decide
      rw [if_neg apart]
      exact fun notice said => (fit notice said).1
    · exact List.forall_mem_append.mpr
        ⟨fun notice said => (fit notice said).2, List.forall_mem_singleton.mpr trivial⟩
  · obtain ⟨moved, ⟨front, reports, sum, fit⟩, all⟩ := copyEarly_accounts began
    cases all middle rfl
    have proceeds := copyPure_proceeds pure
    -- Everything since the notice of the early phase is minor, up to the last notice of all.
    obtain ⟨back, murmured, minor⟩ := proceeds.mutters.reports
    have noted := (reports.notice (.phase Stage.copyEarly course.copied)).trans murmured
    rw [List.append_assoc, List.singleton_append] at noted
    have between : BetweenPhases (front ++ .phase Stage.copyEarly course.copied :: back)
        course.copied :=
      ⟨front, back, rfl, fun notice said => (fit notice said).1, minor, sum⟩
    have measured (last : Notice) (fits : last.Measured) :
        ∀ notice ∈ front ++ .phase Stage.copyEarly course.copied :: back ++ [last],
          notice.Measured := by
      simp only [List.forall_mem_append, List.forall_mem_cons]
      exact ⟨⟨fun notice said => (fit notice said).2, trivial,
        fun notice said => (minor notice said).measured⟩, fits, nofun⟩
    rcases stops with ⟨cause, _, rfl⟩ | ⟨_, ⟨_, later⟩, success⟩
    · have last := noted.notice (.failed ⟨step.after.copied, cause.within Stage.copyPure⟩)
      refine ⟨_, last.still (step.after.sink.sink.journal_drop _), ⟨_, rfl, ?_⟩,
        measured _ trivial⟩
      have same : (cause.within Stage.copyPure).stage? = some Stage.copyPure := rfl
      rw [if_pos same]
      exact ⟨_, between⟩
    · have last := noted.notice (.phase Stage.copyPure (step.after.copied - course.copied))
      refine ⟨_, last.still ?_, ?_, measured _ trivial⟩
      · rw [later]
        exact step.after.sink.sink.journal_drop _
      · rw [success]
        exact ⟨_, _, _, rfl, between, Nat.add_sub_cancel' proceeds.copied⟩

/-- At a verbosity that shows every notice, what is shown of a copy adds up to its result.

The notice of the early phase comes to the bytes in the notices of handshakes and of cached buffers
before it, and with that of the bulk to the total. A failure is told last, with the bytes copied up
to it, and after a notice of the early phase just if the bulk failed. No handshake is told of which
took more than it was offered, or was offered nothing. -/
theorem copy_reports {verbosity : Verbosity}
    (loud : ∀ notice : Notice, notice.shownAt verbosity = true)
    (ended : engine.copy allowance sink source start = some outcome ∨
      ∃ counters, engine.copyCounted allowance sink source counters start = some outcome) :
    let told := (outcome.world.journal.since start.journal.size).filterMap Event.notice?
    let shown := told.filter fun notice => notice.shownAt verbosity
    Tells shown outcome.result ∧
      ∀ offered consumed, .handshake offered consumed ∈ shown →
        consumed ≤ offered ∧ 0 < offered := by
  intro told shown
  have tells : ∃ told, start.Reports told outcome.world ∧ Tells told outcome.result ∧
      ∀ notice ∈ told, notice.Measured := by
    rcases ended with plain | ⟨counters, counted⟩
    · exact copyCounted_tells plain
    · exact copyCounted_tells counted
  obtain ⟨all, reports, result, measured⟩ := tells
  have whole : shown = all :=
    (List.filter_eq_self.mpr fun notice _ => loud notice).trans reports.since
  rw [whole]
  exact ⟨result, fun offered consumed said => measured _ said⟩

end Engine

namespace Sample

/-- The handshake takes four bytes of two offers. What it leaves is cached and written out in the
early phase, so that nothing is left for the bulk. -/
theorem copy_reports_sample : (∀ notice : Notice, notice.shownAt (.ofLevel 3) = true) ∧
    ∃ outcome, engine.copy allowance sink source world = some outcome ∧ outcome.result = .ok 6 ∧
      let told := (outcome.world.journal.since world.journal.size).filterMap Event.notice?
      let shown := told.filter fun notice => notice.shownAt (.ofLevel 3)
      shown.map Notice.fields =
        [[("offered", "3"), ("consumed", "3")], [("offered", "3"), ("consumed", "1")],
          [("bytes", "2")], [("phase", Notice.quoted "copyEarly"), ("bytes", "6")],
          [("phase", Notice.quoted "copyPure"), ("bytes", "0")]] ∧
      Engine.Tells shown (.ok 6) := by
  have loud : ∀ notice : Notice, notice.shownAt (.ofLevel 3) = true := by
    intro notice
    cases notice <;> rfl
  have copied : (engine.copy allowance sink source world).map (fun outcome =>
      (((outcome.world.journal.since world.journal.size).filterMap Event.notice?).filter
        fun notice => notice.shownAt (.ofLevel 3)).map Notice.fields) =
      some [[("offered", "3"), ("consumed", "3")], [("offered", "3"), ("consumed", "1")],
        [("bytes", "2")], [("phase", Notice.quoted "copyEarly"), ("bytes", "6")],
        [("phase", Notice.quoted "copyPure"), ("bytes", "0")]] := by cbv
  obtain ⟨outcome, ended, six⟩ := copy_ok
  rw [ended, Option.map_some] at copied
  have tells := (Engine.copy_reports loud (.inl ended)).1
  rw [six] at tells
  exact ⟨loud, outcome, ended, six, Option.some.inj copied, tells⟩

end Sample

end Conduit
