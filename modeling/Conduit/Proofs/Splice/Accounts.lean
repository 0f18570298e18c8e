import Conduit.Proofs.Splice.Pipes
import Conduit.Proofs.Splice.Steps

set_option autoImplicit false

namespace Conduit

/-- A call of a counter or a notice: no record of either end. -/
def Event.isAside : Event → Prop
  | .counted _ _ | .noticed _ => True
  | _ => False

namespace World

/-- A world came out of another by moving `drawn` out of one descriptor and `given` into another,
and by calling counters for what was given. -/
structure Splices (source destination : Fd) (counters : CounterSet) (drawn given : Bytes)
    (world later : World) : Prop where
  kernel : world.kernel.Moves source destination drawn given later.kernel
  pools : later.pools = world.pools
  cells : later.cells = world.cells
  logs : Logs Event.isAside world later
  quiet : later.emptyCalls = world.emptyCalls
  tally : ∀ counter, later.tally counter = world.tally counter +
    (counters.read.count counter + counters.write.count counter) * given.length

section Splices

variable {source destination : Fd} {counters : CounterSet} {world middle later : World}

theorem Splices.trans {drawn given further more : Bytes}
    (front : Splices source destination counters drawn given world middle)
    (back : Splices source destination counters further more middle later) :
    Splices source destination counters (drawn ++ further) (given ++ more) world later where
  kernel := front.kernel.trans back.kernel
  pools := back.pools.trans front.pools
  cells := back.cells.trans front.cells
  logs := front.logs.trans back.logs
  quiet := back.quiet.trans front.quiet
  tally := by
    intro counter
    rw [back.tally, front.tally, List.length_append, Nat.mul_add]
    omega

theorem Splices.of_pipes (kernel : world.kernel.Moves source destination [] [] later.kernel)
    (pools : later.pools = world.pools) (cells : later.cells = world.cells)
    (journal : later.journal = world.journal) :
    Splices source destination counters [] [] world later where
  kernel := kernel
  pools := pools
  cells := cells
  logs := .of_journal_eq journal
  quiet := emptyCalls_of_journal_eq journal
  tally := fun counter => tally_of_journal_eq journal counter

theorem Splices.notice (world : World) (notice : Notice) :
    Splices source destination counters [] [] world (world.notice notice) where
  kernel := .of_eq rfl rfl (Nat.le_refl _)
  pools := rfl
  cells := rfl
  logs := .record trivial world
  quiet := (unmoved_notice world notice).emptyCalls
  tally := fun counter => tally_notice world notice counter

theorem openPipe_splices {pool : PipePoolId} {pipe : Pipe}
    (opened : world.openPipe pool = (.ok pipe, later)) :
    Splices source destination counters [] [] world later := by
  unfold openPipe Kernel.openPipe at opened
  split at opened
  · cases opened
  · rename_i made
    cases opened
    split at made
    · cases made
    split at made <;> cases made
    exact .of_pipes (.of_eq rfl rfl (Nat.le_succ _)) rfl rfl rfl

theorem checkoutPipe_splices {pool : PipePoolId} {answer : Except IoFault Pipe}
    (taken : world.checkoutPipe pool = (answer, later)) :
    Splices source destination counters [] [] world later := by
  cases answer with
  | error fault =>
    rw [checkoutPipe_error taken]
    exact .of_pipes (.of_eq rfl rfl (Nat.le_succ _)) rfl rfl rfl
  | ok pipe =>
    unfold checkoutPipe at taken
    dsimp only at taken
    split at taken
    · cases taken
      exact .of_pipes (.of_eq rfl rfl (Nat.le_refl _)) rfl rfl rfl
    · split at taken <;> cases taken
      rename_i opened
      exact (openPipe_splices opened).trans (.notice _ _)

theorem checkinPipe_splices (world : World) (pool : PipePoolId) (pipe : Pipe) :
    Splices source destination counters [] [] world (world.checkinPipe pool pipe) := by
  have pools : ∀ pipePools, Splices source destination counters [] [] world
      { world with pipePools } :=
    fun pipePools => .of_pipes (.of_eq rfl rfl (Nat.le_refl _)) rfl rfl rfl
  unfold checkinPipe
  dsimp only
  split
  · exact (pools _).trans (.notice _ _)
  · split <;> exact pools _

end Splices

end World

namespace Piping

/-- What a splice does between two of its states: bytes moved, and counters called for those that
reached the destination. -/
structure Accounts (source destination : Fd) (counters : CounterSet) (passage : Passage)
    (piping later : Piping) : Prop where
  world : World.Splices source destination counters passage.drawn passage.given piping.world
    later.world
  kernel : piping.world.kernel.Carries source destination piping.pipe.id passage
    later.world.kernel
  pipePools : later.world.pipePools = piping.world.pipePools
  pipe : later.pipe.id = piping.pipe.id
  copied : later.copied = piping.copied + passage.given.length

section Accounts

variable {source destination : Fd} {counters : CounterSet} {passage first second : Passage}
  {piping middle later : Piping}

theorem Accounts.trans (front : Accounts source destination counters first piping middle)
    (back : Accounts source destination counters second middle later) :
    Accounts source destination counters (first.andThen second) piping later where
  world := front.world.trans back.world
  kernel := by
    have after := back.kernel
    rw [front.pipe] at after
    exact front.kernel.trans after
  pipePools := back.pipePools.trans front.pipePools
  pipe := back.pipe.trans front.pipe
  copied := by
    rw [back.copied, front.copied, Passage.andThen, List.length_append]
    omega

theorem Accounts.held_eq (accounts : Accounts source destination counters passage piping later) :
    piping.held ++ passage.drawn = passage.removed ++ later.held := by
  have flow := accounts.kernel.held
  rw [← accounts.pipe] at flow
  rw [held, held, ← accounts.pipe]
  exact flow

/-- Calls of the kernel, and then one call of the counters for what they delivered. -/
theorem Carries.counted (carries : piping.Carries source destination passage later) :
    Accounts source destination counters passage piping
      (later.countSince counters piping.copied) := by
  have delivered : later.copied - piping.copied = passage.given.length := by
    rw [carries.copied]
    omega
  have aside : ∀ (world : World) (called : List Counter),
      World.Logs Event.isAside world (world.count called passage.given.length) := by
    intro world called
    refine (World.logs_count world called passage.given.length).mono ?_
    rintro event ⟨counter, -, -, rfl⟩
    exact trivial
  rw [countSince, delivered]
  constructor
  case kernel => exact carries.kernel
  case pipePools => exact carries.pipePools
  case pipe => exact carries.pipe
  case copied => exact carries.copied
  constructor
  case kernel => exact carries.kernel.toMoves
  case pools => exact carries.pools
  case cells => exact carries.cells
  case logs =>
    exact ((World.Logs.of_journal_eq carries.journal).trans (aside _ counters.read)).trans
      (aside _ counters.write)
  case quiet =>
    show ((World.count _ _ _).count _ _).emptyCalls = _
    rw [World.emptyCalls_count, World.emptyCalls_count,
      World.emptyCalls_of_journal_eq carries.journal]
  case tally =>
    intro counter
    show ((World.count _ _ _).count _ _).tally counter = _
    rw [World.tally_count, World.tally_count, World.tally_of_journal_eq carries.journal,
      Nat.add_mul]
    omega

/-- Calls of the kernel that delivered nothing. -/
theorem Carries.accounts {drawn removed : Bytes}
    (carries : piping.Carries source destination ⟨drawn, removed, []⟩ later) :
    Accounts source destination counters ⟨drawn, removed, []⟩ piping later where
  world := ⟨carries.kernel.toMoves, carries.pools, carries.cells, .of_journal_eq carries.journal,
    World.emptyCalls_of_journal_eq carries.journal, World.tally_of_journal_eq carries.journal⟩
  kernel := carries.kernel
  pipePools := carries.pipePools
  pipe := carries.pipe
  copied := carries.copied

/-- Bytes were taken into the pipe, and then counters called for those of them that were given. -/
theorem Accounts.deliver {moved removed given : Bytes}
    (begun : Accounts source destination counters ⟨moved, [], []⟩ piping middle)
    (carries : middle.Carries source destination ⟨[], removed, given⟩ later) :
    Accounts source destination counters ⟨moved, removed, given⟩ piping
      (later.countSince counters middle.copied) := by
  have through := begun.trans carries.counted
  simpa only [Passage.andThen, List.append_nil, List.nil_append] using through

theorem Accounts.notice (accounts : Accounts source destination counters passage piping later)
    (notice : Notice) :
    Accounts source destination counters passage piping
      { later with world := later.world.notice notice } := by
  have noted : Accounts source destination counters .still later
      { later with world := later.world.notice notice } :=
    ⟨.notice _ _, .refl _ _ _ _, rfl, rfl, rfl⟩
  have whole := accounts.trans noted
  rwa [Passage.andThen_still] at whole

end Accounts

/-- How a splice comes to an end from a state with an empty pipe. -/
structure Concludes (source destination : Fd) (counters : CounterSet) (maxChunk : Nat)
    (passage : Passage) (piping : Piping) (result : Except TransferFault Spliced)
    (later : Piping) : Prop where
  accounts : Accounts source destination counters passage piping later
  /-- What reached the destination is the beginning of what left the pipe. -/
  part : passage.given <+: passage.removed
  /-- The pipe is never believed to hold less than it does. -/
  covered : later.held.length ≤ later.pipe.pending
  whole : ∀ spliced, result = .ok spliced → passage.given = passage.drawn
  ended : result = .ok .done → maxChunk ≠ 0 → later.world.kernel.incoming source = []

section Concludes

variable {source destination : Fd} {counters : CounterSet} {maxChunk : Nat}
  {piping middle later : Piping} {result : Except TransferFault Spliced}

/-- A chunk that went through whole changes nothing for what comes after it. -/
theorem Concludes.after {passage : Passage} {moved : Bytes}
    (chunk : Accounts source destination counters ⟨moved, moved, moved⟩ piping middle)
    (concludes : Concludes source destination counters maxChunk passage middle result later) :
    Concludes source destination counters maxChunk
      (Passage.andThen ⟨moved, moved, moved⟩ passage) piping result later where
  accounts := chunk.trans concludes.accounts
  part := (List.prefix_append_right_inj _).mpr concludes.part
  covered := concludes.covered
  whole := fun spliced ok => congrArg (moved ++ ·) (concludes.whole spliced ok)
  ended := concludes.ended

/-- The rest of a chunk is rescued after some of it was given. Once all is rescued the whole chunk
is given. -/
theorem Accounts.rescue {moved given removed late : Bytes} {step : PipeStep Unit}
    (begun : Accounts source destination counters ⟨moved, [], []⟩ piping middle)
    (inside : middle.held = moved)
    (carries : middle.Carries source destination ⟨[], given, given⟩ later)
    (rescues : Rescues source destination removed late later step) :
    Accounts source destination counters ⟨moved, given ++ removed, given ++ late⟩ piping
        (step.after.countSince counters middle.copied) ∧
      (step.result = .ok () → given ++ late = moved) := by
  have whole : middle.Carries source destination ⟨[], given ++ removed, given ++ late⟩ step.after :=
    carries.trans rescues.carries
  refine ⟨begun.deliver whole, fun success => ?_⟩
  obtain ⟨all, pending⟩ := rescues.ok success
  have drained : step.after.held = [] := by
    have covered := rescues.pending
    rw [pending] at covered
    exact List.length_eq_zero_iff.mp (Nat.le_zero.mp covered)
  have split := whole.held_split
  rw [inside, drained, List.append_nil] at split
  rw [all, split]

/-- Every end of a splice: before a chunk, within one, or after the last one. -/
theorem chunks_concludes {start calls : Nat}
    (ends : chunks source destination counters maxChunk start calls piping = some (result, later))
    (empty : piping.held = []) :
    ∃ passage, Concludes source destination counters maxChunk passage piping result later := by
  induction calls generalizing piping with
  | zero => cases ends
  | succ calls ih =>
    rw [chunks] at ends
    split at ends
    · cases ends
    · -- Nothing could be taken in.
      rename_i fault middle took
      obtain ⟨moved, takes⟩ := takeIn_takes destination took
      have carries := takes.carries
      obtain ⟨blank, pipe⟩ := takes.error fault rfl
      rw [blank] at carries
      have covered : middle.held.length ≤ middle.pipe.pending := by
        have kept : piping.held = middle.held := carries.held_split
        rw [← kept, empty]
        exact Nat.zero_le _
      split at ends <;> cases ends
      · exact ⟨.still, carries.accounts.notice _, List.nil_prefix, covered, fun _ _ => rfl,
          by rintro ⟨⟩⟩
      · exact ⟨.still, carries.accounts, List.nil_prefix, covered, by rintro _ ⟨⟩, by rintro ⟨⟩⟩
    · -- The source ended.
      rename_i middle took
      cases ends
      obtain ⟨moved, takes⟩ := takeIn_takes destination took
      have carries := takes.carries
      obtain ⟨counted, believed, some⟩ := takes.ok 0 rfl
      have blank : moved = [] := List.length_eq_zero_iff.mp counted.symm
      rw [blank] at carries
      have kept : piping.held = later.held := carries.held_split
      refine ⟨.still, carries.accounts, List.nil_prefix, ?_, fun _ _ => rfl, ?_⟩
      · rw [← kept, empty]
        exact Nat.zero_le _
      · intro _ wants
        have before := carries.kernel.incoming source
        rw [ite_self, List.nil_append] at before
        rw [← before]
        by_contra more
        exact some more wants blank
    · rename_i less middle took
      obtain ⟨moved, takes⟩ := takeIn_takes destination took
      obtain ⟨inside, right⟩ : middle.held = moved ∧ middle.pipe.pending = middle.held.length :=
        takes.fills empty rfl
      have begun : Accounts source destination counters ⟨moved, [], []⟩ piping middle :=
        takes.carries.accounts
      dsimp only at ends
      split at ends
      · cases ends
      · -- The chunk went through.
        rename_i after gave
        obtain ⟨given, gives⟩ := giveOut_gives source gave right
        have drained : after.held = [] := gives.drained rfl
        have all : moved = given := by
          have split := gives.carries.held_split
          rw [inside, drained, List.append_nil] at split
          exact split
        subst all
        have chunk := begun.deliver gives.carries
        obtain ⟨passage, concludes⟩ := ih ends drained
        exact ⟨_, concludes.after (chunk.notice _)⟩
      · rename_i fault after gave
        obtain ⟨given, gives⟩ := giveOut_gives source gave right
        split at ends
        · -- The rest of the chunk is rescued, or some of it is lost.
          have roomy : min after.pipe.pending scratchSize ≠ 0 ∨ after.pipe.pending = 0 := by
            unfold scratchSize
            omega
          split at ends
          · cases ends
          · rename_i final rescued
            cases ends
            obtain ⟨removed, late, rescues⟩ := rescue_rescues source rescued gives.pending roomy
            obtain ⟨accounts, whole⟩ := begun.rescue inside gives.carries rescues
            exact ⟨_, accounts.notice _, (List.prefix_append_right_inj _).mpr rescues.part,
              rescues.pending, fun _ _ => whole rfl, by rintro ⟨⟩⟩
          · rename_i loss final rescued
            cases ends
            obtain ⟨removed, late, rescues⟩ := rescue_rescues source rescued gives.pending roomy
            obtain ⟨accounts, -⟩ := begun.rescue inside gives.carries rescues
            exact ⟨_, accounts, (List.prefix_append_right_inj _).mpr rescues.part,
              rescues.pending, by rintro _ ⟨⟩, by rintro ⟨⟩⟩
        · cases ends
          exact ⟨_, begun.deliver gives.carries, List.prefix_rfl, Nat.le_of_eq gives.pending.symm,
            by rintro _ ⟨⟩, by rintro ⟨⟩⟩

end Concludes

end Piping

end Conduit
