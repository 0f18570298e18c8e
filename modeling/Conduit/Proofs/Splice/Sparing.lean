import Conduit.Proofs.Splice.Accounts
import Conduit.Proofs.World.Muttering

set_option autoImplicit false

namespace Conduit

/-- Pools and shared buffers are as they were, and only minor notices were given. -/
structure World.Spares (world later : World) : Prop where
  pools : later.pools = world.pools
  cells : later.cells = world.cells
  mutters : world.Mutters later

namespace World.Spares

variable {world middle later : World}

theorem refl (world : World) : Spares world world := ⟨rfl, rfl, .refl _ world⟩

theorem trans (first : Spares world middle) (second : Spares middle later) :
    Spares world later :=
  ⟨second.pools.trans first.pools, second.cells.trans first.cells,
    first.mutters.trans second.mutters⟩

end World.Spares

namespace World

variable (world : World)

theorem spares_notice {notice : Notice} (minor : notice.Minor) :
    Spares world (world.notice notice) :=
  ⟨rfl, rfl, world.mutters_notice minor⟩

theorem spares_countBoth (counters : CounterSet) (bytes : Nat) :
    Spares world (world.countBoth counters bytes) :=
  ⟨rfl, rfl, world.mutters_countBoth counters bytes⟩

theorem spares_checkoutPipe (pool : PipePoolId) : Spares world (world.checkoutPipe pool).2 := by
  unfold checkoutPipe openPipe
  dsimp only
  split
  · exact ⟨rfl, rfl, .of_journal_eq rfl⟩
  · split
    · rename_i opened
      split at opened <;> cases opened
      exact ⟨rfl, rfl, .of_journal_eq rfl⟩
    · rename_i opened
      split at opened <;> cases opened
      exact ⟨rfl, rfl, .record (.inr rfl) _⟩

theorem spares_checkinPipe (pool : PipePoolId) (pipe : Pipe) :
    Spares world (world.checkinPipe pool pipe) := by
  unfold checkinPipe
  dsimp only
  split
  · exact ⟨rfl, rfl, .record (.inr rfl) _⟩
  · split <;> exact ⟨rfl, rfl, .of_journal_eq rfl⟩

end World

namespace Piping

/-- A splice goes on: it spares its world, and does not take back what it delivered. -/
structure Advances (piping later : Piping) : Prop where
  spares : piping.world.Spares later.world
  copied : piping.copied ≤ later.copied

namespace Advances

variable {piping middle later : Piping}

theorem refl (piping : Piping) : Advances piping piping := ⟨.refl _, Nat.le_refl _⟩

theorem trans (first : Advances piping middle) (second : Advances middle later) :
    Advances piping later :=
  ⟨first.spares.trans second.spares, Nat.le_trans first.copied second.copied⟩

end Advances

theorem advances_withKernel (piping : Piping) (kernel : Kernel) :
    Advances piping (piping.withKernel kernel) :=
  ⟨⟨rfl, rfl, .of_journal_eq rfl⟩, Nat.le_refl _⟩

theorem advances_countSince (piping : Piping) (counters : CounterSet) (earlier : Nat) :
    Advances piping (piping.countSince counters earlier) :=
  ⟨World.spares_countBoth _ counters _, Nat.le_refl _⟩

theorem advances_fallBack (piping : Piping) (reason : IoFault) (start : Nat) :
    Advances piping (piping.fallBack reason start) :=
  ⟨World.spares_notice _ (.inl rfl), Nat.le_refl _⟩

theorem Carries.advances {source destination : Fd} {passage : Passage} {piping later : Piping}
    (carries : piping.Carries source destination passage later) : piping.Advances later where
  spares := ⟨carries.pools, carries.cells, .of_journal_eq carries.journal⟩
  copied := carries.copied ▸ Nat.le_add_right _ _

theorem takeIn_advances {fd : Fd} {wanted calls : Nat} {piping : Piping} {step : PipeStep Nat}
    (ends : takeIn fd wanted calls piping = some step) : piping.Advances step.after := by
  obtain ⟨_, takes⟩ := takeIn_takes fd ends
  exact takes.carries.advances

/-- Unlike what is carried, this asks nothing of what the pipe is believed to hold. -/
theorem giveOut_advances {fd : Fd} {calls : Nat} {piping : Piping} {step : PipeStep Unit}
    (ends : giveOut fd calls piping = some step) : piping.Advances step.after := by
  induction calls generalizing piping with
  | zero => cases ends
  | succ calls ih =>
    rw [giveOut] at ends
    split at ends
    · cases ends
      exact .refl _
    · split at ends
      · cases ends
        exact piping.advances_withKernel _
      · rename_i less kernel called
        have moved : piping.Advances ((piping.withKernel kernel).moved
            (min (less + 1) piping.pipe.pending)) :=
          ⟨(piping.advances_withKernel kernel).spares, Nat.le_add_right _ _⟩
        exact moved.trans (ih ends)
      · split at ends
        · exact (piping.advances_withKernel _).trans (ih ends)
        · split at ends
          · cases ends
            exact piping.advances_withKernel _
          · exact (piping.advances_withKernel _).trans (ih ends)
        · cases ends
          exact piping.advances_withKernel _

theorem readOut_advances {wanted calls : Nat} {piping : Piping} {step : PipeStep Bytes}
    (ends : piping.readOut wanted calls = some step) : piping.Advances step.after := by
  obtain ⟨_, reads⟩ := readOut_reads 0 0 ends
  exact reads.carries.advances

theorem writeOut_advances {fd : Fd} {calls : Nat} {bytes : Bytes} {piping : Piping}
    {step : PipeStep Unit} (ends : piping.writeOut fd calls bytes = some step) :
    piping.Advances step.after := by
  obtain ⟨_, writes⟩ := writeOut_writes fd ends
  exact writes.carries.advances

theorem rescue_advances {fd : Fd} {scratch calls : Nat} {piping : Piping} {step : PipeStep Unit}
    (ends : piping.rescue fd scratch calls = some step) : piping.Advances step.after := by
  induction calls generalizing piping with
  | zero => cases ends
  | succ calls ih =>
    rw [rescue] at ends
    split at ends
    · cases ends
      exact .refl _
    · split at ends
      · cases ends
      · rename_i read
        cases ends
        exact readOut_advances read
      · rename_i read
        cases ends
        exact readOut_advances read
      · rename_i read
        have out := readOut_advances read
        split at ends
        · cases ends
        · rename_i wrote
          cases ends
          exact out.trans (writeOut_advances wrote)
        · rename_i wrote
          have written := out.trans (writeOut_advances wrote)
          exact written.trans ⟨(ih ends).spares, (ih ends).copied⟩

theorem chunks_advances {source destination : Fd} {counters : CounterSet}
    {maxChunk start calls : Nat} {piping later : Piping} {result : Except TransferFault Spliced}
    (ends : chunks source destination counters maxChunk start calls piping =
      some (result, later)) : piping.Advances later := by
  induction calls generalizing piping with
  | zero => cases ends
  | succ calls ih =>
    rw [chunks] at ends
    split at ends
    · cases ends
    · rename_i took
      have taken := takeIn_advances took
      split at ends <;> cases ends
      · exact taken.trans (advances_fallBack _ _ _)
      · exact taken
    · rename_i took
      cases ends
      exact takeIn_advances took
    · rename_i less middle took
      have taken := takeIn_advances took
      dsimp only at ends
      split at ends
      · cases ends
      · rename_i after gave
        have given := (taken.trans (giveOut_advances gave)).trans
          (after.advances_countSince counters middle.copied)
        have told : (after.countSince counters middle.copied).Advances
            { after.countSince counters middle.copied with
              world := (after.countSince counters middle.copied).world.notice
                (.spliced (less + 1)) } :=
          ⟨World.spares_notice _ (.inl rfl), Nat.le_refl _⟩
        exact (given.trans told).trans (ih ends)
      · rename_i gave
        have given := taken.trans (giveOut_advances gave)
        split at ends
        · split at ends
          · cases ends
          · rename_i rescued
            cases ends
            exact ((given.trans (rescue_advances rescued)).trans
              (advances_countSince _ _ _)).trans (advances_fallBack _ _ _)
          · rename_i rescued
            cases ends
            exact (given.trans (rescue_advances rescued)).trans (advances_countSince _ _ _)
        · cases ends
          exact given.trans (advances_countSince _ _ _)

end Piping

/-- A whole splice, from the pipe that it takes to the pipe that it puts back. -/
theorem spliceCopy_advances {calls : Nat} {pool : PipePoolId} {source destination : Fd}
    {counters : CounterSet} {maxChunk copied : Nat} {world : World} {outcome : SpliceOutcome}
    (ended : spliceCopy calls pool source destination counters maxChunk copied world =
      some outcome) : world.Spares outcome.world ∧ copied ≤ outcome.copied := by
  have taken := world.spares_checkoutPipe pool
  unfold spliceCopy at ended
  split at ended
  · rename_i checkout
    cases ended
    rw [checkout] at taken
    exact ⟨taken.trans (World.spares_notice _ (.inl rfl)), Nat.le_refl _⟩
  · rename_i checkout
    rw [checkout] at taken
    split at ended
    · cases ended
    · rename_i piping ends
      cases ended
      have moved := Piping.chunks_advances ends
      exact ⟨(taken.trans moved.spares).trans (World.spares_checkinPipe _ _ _), moved.copied⟩

end Conduit
