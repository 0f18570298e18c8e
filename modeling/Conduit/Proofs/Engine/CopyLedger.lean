import Conduit.Engine.Copy
import Conduit.Proofs.Engine.BulkLedger

set_option autoImplicit false

namespace Conduit

namespace CopyOutcome

/-- The bytes that the calls of the destination took. -/
def given (outcome : CopyOutcome) : Bytes := outcome.calls.flatMap SinkCall.taken

/-- The bytes that the copy reports, whether it failed or not. -/
def copied (outcome : CopyOutcome) : Nat :=
  match outcome.result with
  | .ok copied => copied
  | .error fault => fault.copied

end CopyOutcome

namespace Engine

variable {ρ σ : Type} {depth : Nat}

/-- A copy between these ends goes through a buffer: splicing is disabled, or one end, without the
counting layers that the copy takes off, has no descriptor. -/
def Buffers (engine : Engine) (source : Source ρ) (sink : Sink σ depth) : Prop :=
  engine.spliceEnabled = false ∨ source.far? = none ∨ sink.uncounted.1.2.descriptor? = none

variable [ReadPeer ρ] [WritePeer σ] {engine : Engine}

open Stand (Moves Sound)

theorem copyPure_eq_copyBuffered (allowance : Allowance) (counters : CounterSet)
    (source : Source ρ) (course : Course σ depth)
    (buffers : engine.spliceEnabled = false ∨ source.far? = none ∨
      course.sink.sink.descriptor? = none) :
    engine.copyPure allowance counters source course =
      engine.copyBuffered allowance counters source course := by
  unfold copyPure
  rcases buffers with disabled | bare | bare
  · rw [disabled]
  · rw [source.descriptor_eq_none bare]
    cases engine.spliceEnabled <;> rfl
  · rw [bare]
    cases engine.spliceEnabled <;> cases source.descriptor? <;> rfl

/-- How the ledger stands when a copy ended. The live reader gave some bytes; `taken` of the bytes
that were ready were taken out of the source, and at most `room` of these did not reach the
destination. When a copy between orderly ends succeeds, nothing is left. -/
structure CopyBalanced (counters : CounterSet) (room : Nat) (source : Source ρ)
    (sink : Sink σ depth) (world : World) (outcome : CopyOutcome) (gained : Bytes) (taken : Nat) :
    Prop where
  heard : outcome.world.obtained = world.obtained ++ gained
  live : ∀ reader, source.live? = some reader → ∃ later, ReadPeer.Run reader gained later ∧
    (source.Orderly → sink.Orderly →
      ∀ copied, outcome.result = .ok copied → ReadPeer.Spent later)
  flow : outcome.given <+: source.stock world.stores ++ gained
  whole : source.Orderly → sink.Orderly → ∀ copied, outcome.result = .ok copied →
    outcome.given = source.stock world.stores ++ gained ∧ taken = copied
  copied : outcome.given.length = outcome.copied
  least : outcome.copied ≤ taken
  /-- No more was taken out of the source than the buffer holds. -/
  most : taken ≤ outcome.copied + room
  books : ∀ counter, counter ∉ sink.counters → ∃ own,
    outcome.world.tally counter = world.tally counter + own +
      counters.read.count counter * taken + counters.write.count counter * outcome.copied ∧
    (source.registered counter = 0 → own = 0) ∧
    (source.Orderly → sink.Orderly → ∀ copied, outcome.result = .ok copied →
      own = source.due counter world.stores + source.registered counter * gained.length)
  quiet : outcome.world.emptyCalls = world.emptyCalls

/-- An outcome tells of a copy that stood like this at its end. -/
structure Reports (course : Course σ depth) (outcome : CopyOutcome) : Prop where
  calls : outcome.calls = course.sink.calls
  copied : outcome.copied = course.copied
  obtained : outcome.world.obtained = course.world.obtained
  tally : ∀ counter, outcome.world.tally counter = course.world.tally counter
  emptyCalls : outcome.world.emptyCalls = course.world.emptyCalls

omit [WritePeer σ] in
/-- A notice is given and the destination let go. -/
theorem reports_notice {course later : Course σ depth} {outcome : CopyOutcome} {notice : Notice}
    (follows : Follows course later) (calls : outcome.calls = later.sink.calls)
    (copied : outcome.copied = later.copied)
    (world : outcome.world = later.sink.sink.drop (later.world.notice notice)) :
    Reports course outcome := by
  have same : outcome.world.journal = (later.world.notice notice).journal := by
    rw [world, Sink.journal_drop]
  have noticed := World.unmoved_notice later.world notice
  refine ⟨calls.trans (congrArg Watched.calls follows.sink), copied.trans follows.copied, ?_, ?_,
    ?_⟩
  · rw [World.obtained_of_journal_eq same, noticed.obtained,
      World.obtained_of_journal_eq follows.journal]
  · intro counter
    rw [World.tally_of_journal_eq same, noticed.tally, World.tally_of_journal_eq follows.journal]
  · rw [World.emptyCalls_of_journal_eq same, noticed.emptyCalls,
      World.emptyCalls_of_journal_eq follows.journal]

section

variable {counters : CounterSet} {room : Nat} {source last : Source ρ} {sink : Sink σ depth}
  {world : World} {course : Course σ depth} {outcome : CopyOutcome} {given gained : Bytes}

theorem early_balanced
    (moves : Moves counters ⟨source, [], .fresh sink, 0, world⟩ given gained ⟨last, [], course⟩)
    (reports : Reports course outcome)
    (failed : ∀ copied, outcome.result ≠ .ok copied) :
    CopyBalanced counters room source sink world outcome gained outcome.copied := by
  obtain ⟨more, grown, took⟩ := moves.calls
  have calls : outcome.given = given := by
    rw [CopyOutcome.given, reports.calls, grown, Watched.calls_fresh, List.nil_append, took]
  have copied : outcome.copied = given.length := by
    rw [reports.copied, moves.copied, Nat.zero_add]
  refine ⟨reports.obtained.trans moves.heard, ?_, ?_, ?_, ?_, Nat.le_refl _, Nat.le_add_right _ _,
    ?_, reports.emptyCalls.trans moves.quiet⟩
  · intro reader found
    obtain ⟨later, _, run⟩ := moves.live reader found
    exact ⟨later, run, fun _ _ copied success => absurd success (failed copied)⟩
  · rw [calls]
    exact ⟨_, moves.flow.symm⟩
  · exact fun _ _ copied success => absurd success (failed copied)
  · rw [calls, copied]
  · intro counter outside
    obtain ⟨own, settled, called⟩ := moves.books counter outside
    refine ⟨own, ?_, ?_, fun _ _ copied success => absurd success (failed copied)⟩
    · rw [reports.tally, copied]
      simpa using called
    · intro absent
      rw [absent, Source.due_eq_zero counter source _ absent] at settled
      omega

theorem late_balanced {middle : Source ρ} {between : Course σ depth}
    {early late earlier further transit : Bytes}
    (front : Moves counters ⟨source, [], .fresh sink, 0, world⟩ early earlier
      ⟨middle, [], between⟩)
    (back : Moves ⟨middle.uncounted.2 ++ counters.read, counters.write⟩
      ⟨middle.uncounted.1, [], between⟩ late further ⟨last, transit, course⟩)
    (fits : transit.length ≤ room) (reports : Reports course outcome)
    (success : source.Orderly → sink.Orderly → ∀ copied, outcome.result = .ok copied →
      transit = [] ∧ last.Ended course.world.stores) :
    CopyBalanced counters room source sink world outcome (earlier ++ further)
      (outcome.copied + transit.length) := by
  obtain ⟨more, grown, took⟩ := front.calls
  obtain ⟨others, regrown, retook⟩ := back.calls
  have calls : outcome.given = early ++ late := by
    rw [CopyOutcome.given, reports.calls, regrown, grown, Watched.calls_fresh, List.nil_append,
      List.flatMap_append, took, retook]
  have copied : outcome.copied = early.length + late.length := by
    rw [reports.copied, back.copied, front.copied, Nat.zero_add]
  have flow : source.stock world.stores ++ (earlier ++ further) =
      outcome.given ++ (transit ++ last.stock course.world.stores) := by
    have early_flow := front.flow
    have late_flow := back.flow
    simp only [Stand.ready, List.nil_append, Source.stock_uncounted] at early_flow late_flow
    rw [← List.append_assoc, early_flow, List.append_assoc, late_flow, calls, List.append_assoc]
  refine ⟨?_, ?_, ⟨_, flow.symm⟩, ?_, ?_, Nat.le_add_right _ _, Nat.add_le_add_left fits _, ?_, ?_⟩
  · rw [reports.obtained, back.heard, front.heard, List.append_assoc]
  · intro reader found
    obtain ⟨mid, kept, run⟩ := front.live reader found
    obtain ⟨later, rekept, rerun⟩ := back.live mid ((middle.live_uncounted).trans kept)
    refine ⟨later, run.trans rerun, fun reader writer copied finished => ?_⟩
    exact (success reader writer copied finished).2.2 later rekept
  · intro reader writer total finished
    obtain ⟨none, ended, _⟩ := success reader writer total finished
    have reported : outcome.copied = total := by rw [CopyOutcome.copied, finished]
    rw [none, ended, List.append_nil, List.append_nil] at flow
    exact ⟨flow.symm, by rw [none, reported]; rfl⟩
  · rw [calls, copied, List.length_append]
  · intro counter outside
    obtain ⟨own, settled, called⟩ := front.books counter outside
    obtain ⟨more, resettled, recalled⟩ := back.books counter (front.counters ▸ outside)
    have due := middle.due_uncounted counter between.world.stores
    have registered := middle.registered_uncounted counter
    have kept := front.registered counter
    dsimp only at settled called resettled recalled kept
    -- What the exposed layers were still due for the stock, the copy pays as it goes.
    refine ⟨own + more + middle.uncounted.2.count counter * (late.length + transit.length),
      ?_, ?_, ?_⟩
    · rw [reports.tally, copied]
      simp only [List.length_nil, Nat.mul_zero, Nat.add_zero, List.count_append, Nat.add_mul,
        Nat.mul_add] at called recalled ⊢
      omega
    · intro absent
      have nothing := Source.due_eq_zero counter source world.stores absent
      have unexposed : middle.uncounted.2.count counter = 0 := by omega
      have unlayered : middle.uncounted.1.registered counter = 0 := by omega
      rw [unexposed, Nat.zero_mul] at due ⊢
      rw [absent, nothing, Nat.zero_mul] at settled
      rw [unlayered, Nat.zero_mul] at resettled
      omega
    · intro reader writer total finished
      obtain ⟨none, ended, _⟩ := success reader writer total finished
      have lengths := congrArg List.length back.flow
      simp only [Stand.ready, none, ended, List.nil_append, List.append_nil, List.length_append,
        Source.stock_uncounted] at lengths
      rw [Source.due_of_stock_eq_nil counter last _ ended] at resettled
      rw [← lengths, none, List.length_append, ← kept, registered]
      rw [← kept, registered, due] at settled
      simp only [List.length_nil, Nat.add_mul, Nat.mul_add, Nat.mul_zero] at settled resettled ⊢
      omega
  · rw [reports.emptyCalls, back.quiet, front.quiet]

end

/-- The ledger between the phases of a copy, the second of which goes through a buffer if the copy
does. -/
theorem early_moves (allowance : Allowance) (sink : Sink σ depth) (source : Source ρ)
    (counters : CounterSet) (world : World)
    (sound : Sound (⟨source, [], .fresh sink, 0, world⟩ : Stand ρ σ depth))
    (buffers : engine.spliceEnabled = false ∨ source.far? = none ∨ sink.descriptor? = none)
    {middle : Source ρ} {course : Course σ depth}
    (early : engine.copyEarly allowance.retries counters allowance.rounds source
      ⟨.fresh sink, 0, world⟩ = some ⟨.ok middle, course⟩) :
    let noticed := course.inWorld (course.world.notice (.phase Stage.copyEarly course.copied))
    (∃ given gained, Moves counters ⟨source, [], .fresh sink, 0, world⟩ given gained
      ⟨middle, [], noticed⟩) ∧
      ∀ counters, engine.copyPure allowance counters middle.uncounted.1 noticed =
        engine.copyBuffered allowance counters middle.uncounted.1 noticed := by
  obtain ⟨given, gained, moves⟩ := copyEarly_balanced _ source _ sound _ early
  have front := moves.trans (Moves.within counters moves.sound (.still middle
    (World.unmoved_notice course.world (.phase Stage.copyEarly course.copied))))
  refine ⟨⟨_, _, front⟩, fun counters => copyPure_eq_copyBuffered _ _ _ _ ?_⟩
  exact buffers.imp_right
    (Or.imp (middle.far_uncounted.trans front.far).trans front.descriptor.trans)

/-- The ledger of a copy that goes through a buffer. -/
theorem copyCounted_balanced (allowance : Allowance) (sink : Sink σ depth) (source : Source ρ)
    (counters : CounterSet) (world : World) (outcome : CopyOutcome)
    (sound : Sound (⟨source, [], .fresh sink, 0, world⟩ : Stand ρ σ depth))
    (buffers : engine.spliceEnabled = false ∨ source.far? = none ∨ sink.descriptor? = none)
    (ended : engine.copyCounted allowance sink source counters world = some outcome) :
    ∃ gained taken, CopyBalanced counters engine.buffers.hugeSize source sink world outcome gained
      taken := by
  unfold copyCounted at ended
  split at ended
  · cases ended
  · rename_i fault course early
    cases ended
    obtain ⟨last, before, given, gained, moves, follows⟩ :=
      copyEarly_balanced _ source _ sound _ early
    exact ⟨gained, _, early_balanced moves (reports_notice follows rfl rfl rfl) (by simp [failed])⟩
  · rename_i middle course early
    obtain ⟨⟨given, gained, front⟩, pure⟩ :=
      early_moves allowance sink source counters world sound buffers early
    dsimp only at ended
    rw [pure] at ended
    split at ended
    · cases ended
    · rename_i result bulk pumped
      obtain ⟨last, transit, _, _, later, balanced, follows⟩ :=
        copyBuffered_balanced _ _ _ _ front.sound.uncounted _ pumped
      have ends (reader : source.Orderly) (writer : sink.Orderly) :=
        (front.orderly ⟨reader, writer⟩).uncounted
      cases result with
      | ok done =>
        cases ended
        refine ⟨_, _, late_balanced front balanced.moves balanced.fits
          (reports_notice follows rfl rfl rfl) fun reader writer _ _ => ?_⟩
        exact (balanced.ok rfl).imp_right (· (ends reader writer))
      | error fault =>
        cases passes : fault.isEndOfStream with
        | true =>
          simp only [passes, if_true] at ended
          cases ended
          refine ⟨_, _, late_balanced front balanced.moves balanced.fits
            (reports_notice follows rfl rfl rfl) fun reader writer _ _ => ?_⟩
          rw [balanced.error (ends reader writer) fault rfl] at passes
          cases passes
        | false =>
          simp only [passes, Bool.false_eq_true, if_false] at ended
          cases ended
          exact ⟨_, _, late_balanced front balanced.moves balanced.fits
            (reports_notice follows rfl rfl rfl) (by simp [failed])⟩

end Engine

end Conduit
