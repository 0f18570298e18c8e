import Conduit.Proofs.World.Agreement
import Conduit.Splice.Transfer

set_option autoImplicit false

namespace Conduit

namespace World.Agrees

variable {world other : World} (agrees : Agrees world other)

include agrees

theorem openPipe (pool : PipePoolId) :
    (world.openPipe pool).1 = (other.openPipe pool).1 ∧
      Agrees (world.openPipe pool).2 (other.openPipe pool).2 := by
  simp only [World.openPipe, agrees.kernel, agrees.pipePools]
  split <;> exact ⟨rfl, ⟨agrees.pools, agrees.cells, rfl, rfl, agrees.events⟩⟩

theorem checkoutPipe (pool : PipePoolId) :
    (world.checkoutPipe pool).1 = (other.checkoutPipe pool).1 ∧
      Agrees (world.checkoutPipe pool).2 (other.checkoutPipe pool).2 := by
  have opened := agrees.openPipe pool
  simp only [World.checkoutPipe, pipePool, agrees.pipePools]
  split
  · exact ⟨rfl, { agrees with pipePools := rfl }⟩
  · generalize world.openPipe pool = made at opened
    generalize other.openPipe pool = fellow at opened
    obtain ⟨result, after⟩ := made
    obtain ⟨_, later⟩ := fellow
    obtain ⟨rfl, agrees⟩ := opened
    cases result with
    | error fault => exact ⟨rfl, agrees⟩
    | ok pipe =>
      refine ⟨rfl, ?_⟩
      have noticed := agrees.notice (.pipe "created" (after.pipePools.get pool).idle.length)
      dsimp only at noticed ⊢
      rwa [← show after.pipePools = later.pipePools from agrees.pipePools]

theorem checkinPipe (pool : PipePoolId) (pipe : Pipe) :
    Agrees (world.checkinPipe pool pipe) (other.checkinPipe pool pipe) := by
  have put (row : PipePool) : Agrees { world with pipePools := other.pipePools.put pool row }
      { other with pipePools := other.pipePools.put pool row } := { agrees with pipePools := rfl }
  simp only [World.checkinPipe, pipePool, agrees.pipePools]
  split
  · exact (put _).notice _
  · by_cases room : (other.pipePools.get pool).idle.length < (other.pipePools.get pool).maxIdle
    · simp only [room, if_true]
      exact put _
    · simp only [room, if_false]
      exact put _

end World.Agrees

namespace Piping

/-- Two pipings stand the same, in worlds that agree. -/
structure Agrees (piping other : Piping) : Prop where
  pipe : piping.pipe = other.pipe
  copied : piping.copied = other.copied
  world : piping.world.Agrees other.world

variable {piping other : Piping} (agrees : Agrees piping other)

/-- Two steps of a splice end the same. -/
def StepAgrees {α : Type} (step fellow : PipeStep α) : Prop :=
  step.result = fellow.result ∧ Agrees step.after fellow.after

theorem stepAgrees_cases {α : Type} {step fellow : Option (PipeStep α)}
    (rel : Option.Rel StepAgrees step fellow) : (step = none ∧ fellow = none) ∨
      ∃ result after later, step = some ⟨result, after⟩ ∧ fellow = some ⟨result, later⟩ ∧
        Agrees after later := by
  cases rel with
  | none => exact .inl ⟨rfl, rfl⟩
  | @some step fellow same =>
    obtain ⟨result, after⟩ := step
    obtain ⟨_, later⟩ := fellow
    obtain ⟨rfl, agrees⟩ := same
    exact .inr ⟨result, after, later, rfl, rfl, agrees⟩

include agrees

theorem Agrees.withKernel (kernel : Kernel) :
    Agrees (piping.withKernel kernel) (other.withKernel kernel) :=
  { agrees with world := agrees.world.inKernel rfl }

theorem takeIn_agrees (fd : Fd) (wanted calls : Nat) :
    Option.Rel StepAgrees (piping.takeIn fd wanted calls) (other.takeIn fd wanted calls) := by
  induction calls generalizing piping other with
  | zero => exact .none
  | succ calls ih =>
    rw [takeIn, takeIn, agrees.pipe, agrees.world.kernel]
    split
    · rename_i kernel _
      exact .some ⟨rfl, { agrees.withKernel kernel with pipe := rfl }⟩
    · split
      · exact ih (agrees.withKernel _)
      · split
        · exact .some ⟨rfl, agrees.withKernel _⟩
        · exact ih (agrees.withKernel _)
      · exact .some ⟨rfl, agrees.withKernel _⟩

theorem giveOut_agrees (fd : Fd) (calls : Nat) :
    Option.Rel StepAgrees (piping.giveOut fd calls) (other.giveOut fd calls) := by
  induction calls generalizing piping other with
  | zero => exact .none
  | succ calls ih =>
    rw [giveOut, giveOut, agrees.pipe, agrees.world.kernel]
    split
    · exact .some ⟨rfl, agrees⟩
    · split
      · exact .some ⟨rfl, agrees.withKernel _⟩
      · rename_i less kernel _
        have moved := agrees.withKernel kernel
        refine ih ⟨?_, ?_, moved.world⟩
        · simp only [Piping.moved, moved.pipe]
        · simp only [Piping.moved, moved.copied]
      · split
        · exact ih (agrees.withKernel _)
        · split
          · exact .some ⟨rfl, agrees.withKernel _⟩
          · exact ih (agrees.withKernel _)
        · exact .some ⟨rfl, agrees.withKernel _⟩

theorem readOut_agrees (wanted calls : Nat) :
    Option.Rel StepAgrees (piping.readOut wanted calls) (other.readOut wanted calls) := by
  induction calls generalizing piping other with
  | zero => exact .none
  | succ calls ih =>
    rw [readOut, readOut, agrees.pipe, agrees.world.kernel]
    split
    · exact .some ⟨rfl, agrees.withKernel _⟩
    · split
      · exact ih (agrees.withKernel _)
      · exact .some ⟨rfl, agrees.withKernel _⟩

theorem writeOut_agrees (fd : Fd) (calls : Nat) (bytes : Bytes) :
    Option.Rel StepAgrees (piping.writeOut fd calls bytes) (other.writeOut fd calls bytes) := by
  induction calls generalizing bytes piping other with
  | zero => exact .none
  | succ calls ih =>
    rw [writeOut, writeOut, agrees.world.kernel, agrees.copied]
    split
    · exact .some ⟨rfl, agrees⟩
    · split
      · exact .some ⟨rfl, agrees.withKernel _⟩
      · refine ih ?_ _
        exact ⟨agrees.pipe, rfl, agrees.world.inKernel rfl⟩
      · split
        · exact ih (agrees.withKernel _) _
        · split
          · exact .some ⟨rfl, agrees.withKernel _⟩
          · exact ih (agrees.withKernel _) _
        · exact .some ⟨rfl, agrees.withKernel _⟩

theorem rescue_agrees (fd : Fd) (scratch calls : Nat) :
    Option.Rel StepAgrees (piping.rescue fd scratch calls) (other.rescue fd scratch calls) := by
  induction calls generalizing piping other with
  | zero => exact .none
  | succ calls ih =>
    have reads := readOut_agrees agrees (min other.pipe.pending scratch) calls
    rw [rescue, rescue, agrees.pipe]
    split
    · exact .some ⟨rfl, agrees⟩
    · obtain ⟨read, fellow⟩ | ⟨result, after, later, read, fellow, agrees⟩ :=
        stepAgrees_cases reads
      · rw [read, fellow]
        exact .none
      · rw [read, fellow]
        match result with
        | .error fault => exact .some ⟨rfl, agrees⟩
        | .ok [] => exact .some ⟨rfl, agrees⟩
        | .ok (first :: rest) =>
          obtain ⟨wrote, mirror⟩ | ⟨result, after, later, wrote, mirror, agrees⟩ :=
            stepAgrees_cases (writeOut_agrees agrees fd calls (first :: rest))
          · simp only [wrote, mirror]
            exact .none
          · simp only [wrote, mirror]
            cases result with
            | error fault => exact .some ⟨rfl, agrees⟩
            | ok done =>
              refine ih ⟨?_, agrees.copied, agrees.world⟩
              dsimp only
              rw [agrees.pipe]

theorem Agrees.countSince (counters others : CounterSet) (earlier before : Nat) :
    Agrees (piping.countSince counters earlier) (other.countSince others before) :=
  { agrees with world := agrees.world.countBoth _ _ _ _ }

theorem Agrees.fallBack (reason : IoFault) (start : Nat) :
    Agrees (piping.fallBack reason start) (other.fallBack reason start) := by
  refine ⟨agrees.pipe, agrees.copied, ?_⟩
  simp only [Piping.fallBack, agrees.copied]
  exact agrees.world.notice _

theorem chunks_agrees (source destination : Fd) (counters others : CounterSet)
    (maxChunk start calls : Nat) :
    Option.Rel (fun chunks fellow => chunks.1 = fellow.1 ∧ Agrees chunks.2 fellow.2)
      (chunks source destination counters maxChunk start calls piping)
      (chunks source destination others maxChunk start calls other) := by
  induction calls generalizing piping other with
  | zero => exact .none
  | succ calls ih =>
    rw [chunks, chunks]
    obtain ⟨took, fellow⟩ | ⟨result, before, earlier, took, fellow, agrees⟩ :=
      stepAgrees_cases (takeIn_agrees agrees source maxChunk calls)
    · rw [took, fellow]
      exact .none
    · rw [took, fellow]
      match result with
      | .error fault =>
        dsimp only
        split
        · exact .some ⟨rfl, agrees.fallBack fault start⟩
        · exact .some ⟨rfl, agrees⟩
      | .ok 0 => exact .some ⟨rfl, agrees⟩
      | .ok (less + 1) =>
        obtain ⟨gave, mirror⟩ | ⟨result, after, later, gave, mirror, agrees⟩ :=
          stepAgrees_cases (giveOut_agrees agrees destination calls)
        · simp only [gave, mirror]
          exact .none
        · simp only [gave, mirror]
          cases result with
          | ok done =>
            have counted := agrees.countSince counters others before.copied earlier.copied
            exact ih { counted with world := counted.world.notice _ }
          | error fault =>
            dsimp only
            split
            · rw [agrees.pipe]
              obtain ⟨saved, twin⟩ | ⟨result, after, later, saved, twin, agrees⟩ :=
                stepAgrees_cases (rescue_agrees agrees destination
                  (min later.pipe.pending scratchSize) calls)
              · rw [saved, twin]
                exact .none
              · have counted := agrees.countSince counters others before.copied earlier.copied
                rw [saved, twin]
                cases result with
                | ok done => exact .some ⟨rfl, counted.fallBack fault start⟩
                | error loss => exact .some ⟨rfl, counted⟩
            · exact .some ⟨rfl, agrees.countSince counters others before.copied earlier.copied⟩

end Piping

/-- Two splices end the same, in worlds that agree. -/
structure SpliceOutcome.Agrees (spliced other : SpliceOutcome) : Prop where
  result : spliced.result = other.result
  copied : spliced.copied = other.copied
  world : spliced.world.Agrees other.world

theorem spliceCopy_agrees (calls : Nat) (pool : PipePoolId) (source destination : Fd)
    (counters others : CounterSet) (maxChunk copied : Nat) {world other : World}
    (agrees : world.Agrees other) :
    Option.Rel SpliceOutcome.Agrees
      (spliceCopy calls pool source destination counters maxChunk copied world)
      (spliceCopy calls pool source destination others maxChunk copied other) := by
  have out := agrees.checkoutPipe pool
  unfold spliceCopy
  generalize world.checkoutPipe pool = lent at out
  generalize other.checkoutPipe pool = fellow at out
  obtain ⟨result, after⟩ := lent
  obtain ⟨_, later⟩ := fellow
  obtain ⟨rfl, agrees⟩ := out
  cases result with
  | error fault => exact .some ⟨rfl, rfl, agrees.notice _⟩
  | ok pipe =>
    have start : Piping.Agrees ⟨pipe, copied, after⟩ ⟨pipe, copied, later⟩ := ⟨rfl, rfl, agrees⟩
    have chunks := Piping.chunks_agrees start source destination counters others (max maxChunk 1)
      copied calls
    dsimp only
    generalize Piping.chunks source destination counters (max maxChunk 1) copied calls
      ⟨pipe, copied, after⟩ = ended at chunks
    generalize Piping.chunks source destination others (max maxChunk 1) copied calls
      ⟨pipe, copied, later⟩ = mirror at chunks
    cases chunks with
    | none => exact .none
    | @some ended mirror same =>
      obtain ⟨result, agrees⟩ := same
      refine .some ⟨result, agrees.copied, ?_⟩
      dsimp only
      rw [agrees.pipe]
      exact agrees.world.checkinPipe pool _

end Conduit
