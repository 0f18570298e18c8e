import Conduit.Proofs.Splice.Transfers
import Conduit.Proofs.World.Obliging

set_option autoImplicit false

namespace Conduit

/-- Only two kinds of errors say that a call may be made again. -/
theorem FaultKind.isTransient_eq_false {kind : FaultKind} (passed : kind = .interrupted → False)
    (ready : kind = .wouldBlock → False) : kind.isTransient = false := by
  unfold isTransient
  split
  · exact absurd rfl ready
  · exact absurd rfl passed
  · rfl

namespace Piping

variable {input output : Fd} {last wanted : Nat}

def Yields {α : Type} (ended : Option (PipeStep α)) : Prop :=
  ∃ step, ended = some step ∧ ∀ fault, step.result = .error fault → isRejection fault = true

def Succeeds {α : Type} (ended : Option (PipeStep α)) : Prop :=
  ∃ value later, ended = some ⟨.ok value, later⟩

theorem takeIn_yields (calls : Nat) (piping : Piping)
    (obliges : piping.world.kernel.Obliges input output last)
    (enough : last - piping.world.kernel.calls < calls) :
    Yields (takeIn input wanted calls piping) := by
  induction calls generalizing piping with
  | zero => exact absurd enough (Nat.not_lt_zero _)
  | succ calls ih =>
    rw [takeIn]
    split
    · refine ⟨_, rfl, ?_⟩
      rintro fault ⟨⟩
    · rename_i error kernel called
      obtain ⟨rfl, early, rejected⟩ := obliges.spliceIn_error called
      split
      · rename_i interrupted
        have soon := early (by rw [interrupted]; rfl)
        refine ih (piping.withKernel piping.world.kernel.tick) obliges.tick ?_
        show last - (piping.world.kernel.calls + 1) < calls
        omega
      · rename_i blocked
        have soon := early (by rw [blocked]; rfl)
        rw [obliges.tick.waitReadable_eq]
        refine ih (piping.withKernel piping.world.kernel.tick.tick) obliges.tick.tick ?_
        show last - (piping.world.kernel.calls + 1 + 1) < calls
        omega
      · rename_i passed ready
        refine ⟨_, rfl, ?_⟩
        rintro fault ⟨⟩
        exact rejected (FaultKind.isTransient_eq_false passed ready)

theorem giveOut_yields (calls : Nat) (piping : Piping)
    (obliges : piping.world.kernel.Obliges input output last)
    (right : piping.pipe.pending = piping.held.length)
    (enough : piping.pipe.pending + (last - piping.world.kernel.calls) < calls) :
    Yields (giveOut output calls piping) := by
  induction calls generalizing piping with
  | zero => exact absurd enough (Nat.not_lt_zero _)
  | succ calls ih =>
    rw [giveOut]
    split
    · refine ⟨_, rfl, ?_⟩
      rintro fault ⟨⟩
    · rename_i some
      split
      · rename_i kernel called
        obtain ⟨-, present, -⟩ := spliceOut_carries input called right
        exact absurd rfl (present some)
      · rename_i less kernel called
        obtain ⟨within, -, still, moved, carries⟩ := spliceOut_carries input called right
        rw [Nat.min_eq_left within]
        have on := carries.kernel.toMoves.continues
        have later : piping.world.kernel.calls ≤ kernel.calls := on.calls
        refine ih _ (obliges.continues on) still ?_
        show piping.pipe.pending - (less + 1) + (last - kernel.calls) < calls
        omega
      · rename_i error kernel called
        obtain ⟨rfl, early, rejected⟩ := obliges.spliceOut_error called
        split
        · rename_i interrupted
          have soon := early (by rw [interrupted]; rfl)
          refine ih (piping.withKernel piping.world.kernel.tick) obliges.tick right ?_
          show piping.pipe.pending + (last - (piping.world.kernel.calls + 1)) < calls
          omega
        · rename_i blocked
          have soon := early (by rw [blocked]; rfl)
          rw [obliges.tick.waitWritable_eq]
          refine ih (piping.withKernel piping.world.kernel.tick.tick) obliges.tick.tick
            right ?_
          show piping.pipe.pending + (last - (piping.world.kernel.calls + 1 + 1)) < calls
          omega
        · rename_i passed ready
          refine ⟨_, rfl, ?_⟩
          rintro fault ⟨⟩
          exact rejected (FaultKind.isTransient_eq_false passed ready)

theorem readOut_succeeds (calls : Nat) (piping : Piping)
    (obliges : piping.world.kernel.Obliges input output last)
    (enough : last - piping.world.kernel.calls < calls) :
    Succeeds (readOut wanted calls piping) := by
  induction calls generalizing piping with
  | zero => exact absurd enough (Nat.not_lt_zero _)
  | succ calls ih =>
    rw [readOut]
    split
    · exact ⟨_, _, rfl⟩
    · rename_i error kernel called
      obtain ⟨rfl, interrupted, soon⟩ := obliges.readPipe_error called
      rw [if_pos interrupted]
      refine ih (piping.withKernel piping.world.kernel.tick) obliges.tick ?_
      show last - (piping.world.kernel.calls + 1) < calls
      omega

theorem writeOut_succeeds (calls : Nat) (bytes : Bytes) (piping : Piping)
    (obliges : piping.world.kernel.Obliges input output last)
    (enough : bytes.length + (last - piping.world.kernel.calls) < calls) :
    Succeeds (writeOut output calls bytes piping) := by
  induction calls generalizing bytes piping with
  | zero => exact absurd enough (Nat.not_lt_zero _)
  | succ calls ih =>
    rw [writeOut]
    split
    · exact ⟨_, _, rfl⟩
    · rename_i some
      split
      · rename_i kernel called
        obtain ⟨-, present, -⟩ := Kernel.write_made input piping.pipe.id called
        exact absurd rfl (present (mt List.isEmpty_iff.mpr some))
      · rename_i less kernel called
        obtain ⟨within, -, -, carries⟩ := Kernel.write_made input piping.pipe.id called
        have on := carries.toMoves.continues
        refine ih _ _ (obliges.continues on) ?_
        have later := on.calls
        rw [List.length_drop]
        show bytes.length - (less + 1) + (last - kernel.calls) < calls
        omega
      · rename_i error kernel called
        obtain ⟨rfl, -, transient, soon⟩ := obliges.write_error called
        split
        · refine ih bytes (piping.withKernel piping.world.kernel.tick) obliges.tick ?_
          show bytes.length + (last - (piping.world.kernel.calls + 1)) < calls
          omega
        · rw [obliges.tick.waitWritable_eq]
          refine ih bytes (piping.withKernel piping.world.kernel.tick.tick)
            obliges.tick.tick ?_
          show bytes.length + (last - (piping.world.kernel.calls + 1 + 1)) < calls
          omega
        · rename_i passed ready
          rw [FaultKind.isTransient_eq_false passed ready] at transient
          cases transient

theorem rescue_succeeds (scratch calls : Nat) (piping : Piping)
    (obliges : piping.world.kernel.Obliges input output last)
    (enough : piping.pipe.pending + (last - piping.world.kernel.calls) + 1 < calls) :
    Succeeds (rescue output scratch calls piping) := by
  induction calls generalizing piping with
  | zero => exact absurd enough (Nat.not_lt_zero _)
  | succ calls ih =>
    rw [rescue]
    split
    · exact ⟨_, _, rfl⟩
    · have patient : last - piping.world.kernel.calls < calls := by omega
      have succeeds : Succeeds (readOut (min piping.pipe.pending scratch) calls piping) :=
        readOut_succeeds _ _ obliges patient
      obtain ⟨bytes, middle, read⟩ := succeeds
      obtain ⟨_, reads⟩ := readOut_reads input output read
      obtain ⟨-, within, -⟩ := reads.ok bytes rfl
      have read_on := reads.carries.kernel.toMoves.continues
      have pipe : middle.pipe = piping.pipe := reads.pipe
      rw [read]
      cases bytes with
      | nil => exact ⟨_, _, rfl⟩
      | cons first rest =>
        rw [List.length_cons] at within
        have later : piping.world.kernel.calls ≤ middle.world.kernel.calls := read_on.calls
        have still : middle.world.kernel.Obliges input output last := obliges.continues read_on
        have room : (first :: rest).length + (last - middle.world.kernel.calls) < calls := by
          rw [List.length_cons]
          omega
        obtain ⟨done, final, wrote⟩ := writeOut_succeeds _ _ _ still room
        obtain ⟨moved, writes⟩ := writeOut_writes input wrote
        have wrote_on := writes.carries.kernel.toMoves.continues
        dsimp only
        rw [wrote]
        refine ih _ (obliges.continues (read_on.trans wrote_on)) ?_
        have last_one : middle.world.kernel.calls ≤ final.world.kernel.calls := wrote_on.calls
        have kept : final.pipe = middle.pipe := writes.pipe
        dsimp only
        rw [kept, pipe]
        omega

/-- A splice from an empty pipe comes to an end and does not fail. -/
theorem chunks_succeeds (counters : CounterSet) (maxChunk start calls : Nat) (piping : Piping)
    (obliges : piping.world.kernel.Obliges input output last) (empty : piping.held = [])
    (enough : (piping.world.kernel.incoming input).length +
      (last - piping.world.kernel.calls) + 2 < calls) :
    ∃ spliced later, chunks input output counters maxChunk start calls piping =
      some (.ok spliced, later) := by
  induction calls generalizing piping with
  | zero => exact absurd enough (Nat.not_lt_zero _)
  | succ calls ih =>
    have patient : last - piping.world.kernel.calls < calls := by omega
    have yields : Yields (takeIn input maxChunk calls piping) := takeIn_yields _ _ obliges patient
    obtain ⟨⟨taken, middle⟩, took, refused⟩ := yields
    obtain ⟨moved, takes⟩ := takeIn_takes output took
    have took_on : piping.world.kernel.Continues middle.world.kernel :=
      takes.carries.kernel.toMoves.continues
    rw [chunks, took]
    cases taken with
    | error fault =>
      dsimp only
      rw [if_pos (refused fault rfl)]
      exact ⟨_, _, rfl⟩
    | ok count =>
      cases count with
      | zero => exact ⟨_, _, rfl⟩
      | succ less =>
        obtain ⟨inside, right⟩ : middle.held = moved ∧
            middle.pipe.pending = middle.held.length := takes.fills empty rfl
        have counted : less + 1 = moved.length := (takes.ok _ rfl).1
        have split : piping.world.kernel.incoming input =
            moved ++ middle.world.kernel.incoming input := by
          have flow := takes.carries.kernel.incoming input
          rwa [if_pos rfl] at flow
        have lengths := congrArg List.length split
        rw [List.length_append] at lengths
        have later : piping.world.kernel.calls ≤ middle.world.kernel.calls := took_on.calls
        have still : middle.world.kernel.Obliges input output last := obliges.continues took_on
        have pending : middle.pipe.pending = moved.length := right.trans (congrArg _ inside)
        have yields : Yields (giveOut output calls middle) :=
          giveOut_yields _ _ still right (by omega)
        obtain ⟨⟨given, after⟩, gave, refused⟩ := yields
        obtain ⟨sent, gives⟩ := giveOut_gives input gave right
        have gave_on : middle.world.kernel.Continues after.world.kernel :=
          gives.carries.kernel.toMoves.continues
        have latest : middle.world.kernel.calls ≤ after.world.kernel.calls := gave_on.calls
        have lasts : after.world.kernel.Obliges input output last := still.continues gave_on
        dsimp only
        rw [gave]
        cases given with
        | ok done =>
          -- The chunk left the source, so fewer bytes are left for the next round.
          have rest : middle.world.kernel.incoming input = after.world.kernel.incoming input := by
            have flow := gives.carries.kernel.incoming input
            rwa [ite_self, List.nil_append] at flow
          refine ih _ lasts (gives.drained rfl) ?_
          show (after.world.kernel.incoming input).length +
            (last - after.world.kernel.calls) + 2 < calls
          rw [← rest]
          omega
        | error fault =>
          have fewer := congrArg List.length gives.carries.held_split
          have believed : after.pipe.pending = after.held.length := gives.pending
          rw [List.length_append] at fewer
          have rescues : Succeeds
              (rescue output (min after.pipe.pending scratchSize) calls after) :=
            rescue_succeeds _ _ _ lasts (by dsimp only at fewer; omega)
          obtain ⟨done, final, rescued⟩ := rescues
          dsimp only
          rw [if_pos (refused fault rfl), rescued]
          exact ⟨_, _, rfl⟩

end Piping

/-- A transfer through empty pipes comes to an end and does not fail. -/
theorem spliceCopy_succeeds {input output : Fd} {last : Nat} (calls : Nat) (pool : PipePoolId)
    (counters : CounterSet) (maxChunk copied : Nat) {world : World} (idle : world.PipesIdle)
    (obliges : world.kernel.Obliges input output last)
    (enough : (world.kernel.incoming input).length + (last - world.kernel.calls) + 2 < calls) :
    ∃ spliced delivered later, spliceCopy calls pool input output counters maxChunk copied world =
      some ⟨.ok spliced, delivered, later⟩ := by
  unfold spliceCopy
  split
  · exact ⟨_, _, _, rfl⟩
  · rename_i pipe later taken
    obtain ⟨-, -, -, empty⟩ := World.checkoutPipe_ok taken idle
    have splices : World.Splices input output counters [] [] world later :=
      World.checkoutPipe_splices taken
    have on := splices.kernel.continues
    have same := splices.kernel.incoming input
    rw [ite_self, List.nil_append] at same
    have calls_on := on.calls
    obtain ⟨spliced, last_one, ended⟩ := Piping.chunks_succeeds counters (max maxChunk 1) copied
      calls ⟨pipe, copied, later⟩ (obliges.continues on) empty (by dsimp only; rw [← same]; omega)
    rw [ended]
    exact ⟨_, _, _, rfl⟩

end Conduit
