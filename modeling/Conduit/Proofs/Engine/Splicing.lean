import Conduit.Proofs.Engine.Conveyance
import Conduit.Proofs.Engine.Counts
import Conduit.Proofs.Rehearsal.Sample

set_option autoImplicit false

namespace Conduit

/-- What a descriptor holds depends on how it behaves and on what was written to it. -/
theorem Descriptor.contents_congr {descriptor other : Descriptor}
    (conduct : descriptor.conduct = other.conduct)
    (received : descriptor.received = other.received) : descriptor.contents = other.contents := by
  have initial := congrArg Descriptor.initial conduct
  have appends := congrArg Descriptor.appends conduct
  simp only [Descriptor.conduct] at initial appends
  rw [contents, contents, received, initial, appends]

/-- The same world, in which the kernel decides otherwise. -/
def World.ruled (world : World) (verdict : Nat → KernelCall → Verdict) : World :=
  { world with kernel := { world.kernel with verdict } }

namespace Engine

variable {ρ σ : Type} [ReadPeer ρ] [WritePeer σ] {depth : Nat} {input output : Fd} {last : Nat}

/-- A copy into a descriptor beneath counting layers. -/
theorem copy_completes (engine : Engine) (room : 0 < engine.buffers.hugeSize)
    (allowance : Allowance) (sink : Sink σ depth) (source : Source ρ) (world : World)
    (piped : source.Piped input) (bare : sink.uncounted.1 = ⟨0, .descriptor output⟩)
    (idle : world.PipesIdle) (obliges : world.kernel.Obliges input output last)
    (patient : last ≤ allowance.retries)
    (enough : (source.stock world.stores).length + source.handles.length + last + 2 <
      allowance.rounds) :
    ∃ outcome, engine.copy allowance sink source world = some outcome ∧
      Completes ⟨source.uncounted.2, sink.uncounted.2⟩ output source.uncounted.1 world outcome := by
  obtain ⟨outcome, ended, completes⟩ := copyCounted_completes (σ := σ)
    ⟨source.uncounted.2, sink.uncounted.2⟩ room allowance source.uncounted.1 world
    piped.uncounted idle obliges patient
    (by rw [Source.stock_uncounted, Source.handles_uncounted]; exact enough)
  refine ⟨outcome, ?_, completes⟩
  rw [← ended, copy]
  generalize sink.uncounted = peeled at bare ⊢
  obtain ⟨any, write⟩ := peeled
  cases bare
  rfl

omit [ReadPeer ρ] in
/-- What every counter hears of such a copy: those on the destination of all bytes, and those on the
source of what lies beneath them. -/
theorem Completes.heard {source : Source ρ} {write : List Counter} {world : World}
    {outcome : CopyOutcome}
    (completes : Completes ⟨source.uncounted.2, write⟩ output source.uncounted.1 world outcome)
    (counter : Counter) : outcome.world.tally counter = world.tally counter +
      write.count counter * (source.stock world.stores).length +
        source.beneath counter world.stores [] := by
  have due := source.due_uncounted counter world.stores
  rw [completes.tally, Source.stock_uncounted, Source.beneath_eq, due, Nat.add_mul]
  simp only [List.length_nil, Nat.mul_zero, Nat.add_zero]
  omega

/-- Splicing is transparent. After any history of pools of pipes, a copy between two descriptors
beneath cached and counting layers succeeds with splicing and without it, in kernels that may let no
pipe be made, move as few bytes as they like, put calls off, and reject splices on either side at
any point, once the allowance is large enough. Both copies report all bytes of the source, leave
these in the destination after what was written before, and call every counter for the same sum:
on the destination for all bytes, and on the source for what lies beneath. The buffer for the bulk
has room, and no more than `stallLimit` plain writes in a row are put off. -/
theorem copy_splice_transparent (engine : Engine) (sink : Sink σ depth) (source : Source ρ)
    {start world : World} (verdict : Nat → KernelCall → Verdict) (piped : source.Piped input)
    (bare : sink.uncounted.1 = ⟨0, .descriptor output⟩)
    (fresh : ∀ pool, (start.pipePool pool).idle = [])
    (history : Relation.ReflTransGen World.PipeUse start world)
    (room : 0 < engine.buffers.hugeSize) (obliges : world.kernel.Obliges input output last)
    (others : (world.ruled verdict).kernel.Obliges input output last) :
    ∃ bound, ∀ allowance : Allowance, bound ≤ allowance.retries → bound ≤ allowance.rounds →
      ∃ spliced plain : CopyOutcome,
        { engine with spliceEnabled := true }.copy allowance sink source world = some spliced ∧
        { engine with spliceEnabled := false }.copy allowance sink source (world.ruled verdict) =
          some plain ∧
        spliced.result = .ok (source.stock world.stores).length ∧
        plain.result = spliced.result ∧
        spliced.world.kernel.received output =
          world.kernel.received output ++ source.stock world.stores ∧
        (plain.world.kernel.descriptors.get output).contents =
          (spliced.world.kernel.descriptors.get output).contents ∧
        ∀ counter, plain.world.tally counter = spliced.world.tally counter ∧
          spliced.world.tally counter = world.tally counter +
            sink.uncounted.2.count counter * (source.stock world.stores).length +
              source.beneath counter world.stores [] := by
  have idle : world.PipesIdle := (World.PipesIdle.of_idle_nil fresh).uses history
  have again : (world.ruled verdict).PipesIdle :=
    idle.frame rfl (fun _ _ _ => rfl) (Nat.le_refl _)
  refine ⟨(source.stock world.stores).length + source.handles.length + last + 3, ?_⟩
  intro allowance retries rounds
  obtain ⟨spliced, ended, splices⟩ := copy_completes
    { engine with spliceEnabled := true } room allowance sink source world piped bare
    idle obliges (by omega) (by omega)
  obtain ⟨plain, replayed, copies⟩ := copy_completes
    { engine with spliceEnabled := false } room allowance sink source
    (world.ruled verdict) piped bare again others (by omega)
    (by show (source.stock world.stores).length + _ + _ + _ < _; omega)
  have stock : (source.uncounted.1.stock world.stores) = source.stock world.stores :=
    source.stock_uncounted _
  refine ⟨spliced, plain, ended, replayed, ?_, ?_, ?_, ?_, fun counter => ⟨?_, ?_⟩⟩
  · rw [splices.result, stock]
  · exact copies.result.trans splices.result.symm
  · rw [splices.received, stock]
  · exact Descriptor.contents_congr (copies.conduct.trans splices.conduct.symm)
      (copies.received.trans splices.received.symm)
  · rw [splices.heard, copies.heard]
    rfl
  · exact splices.heard counter

end Engine

namespace Sample

/-- Verdicts that move two bytes at a time, but splice one byte out of a pipe. A call in the middle
of the first chunk is interrupted, one in the middle of the second is rejected, and the write of
what is left in the pipe is put off once. -/
def balky (number : Nat) (call : KernelCall) : Verdict :=
  if call = .spliceOut ∧ number = 4 then .refuses .interrupted
  else if call = .spliceOut ∧ number = 8 then .refuses .invalidArgument
  else if call = .write ∧ number = 10 then .refuses .tryAgain
  else if call = .spliceOut then .grants 1
  else .grants 2

/-- A world with that kernel, a source, a file, a pool of pipes and a shared buffer. -/
def balkyWorld : World :=
  (({ World.initial with
    kernel := { Kernel.generous with
      descriptors := ⟨[.delivering [1, 2, 3, 4, 5], .file [9]]⟩
      verdict := balky } }.addPipePool 2).share (.ofBytes [7, 8])).2

/-- The source, counted beneath the shared buffer. -/
def pipedSource : Source RehearsedReader :=
  .cached (some 0) none (.counted [⟨"live"⟩] 0 (.descriptor 0))

def pipedSink : Sink RehearsedWriter 1 := .counted [⟨"sent"⟩] 0 (.descriptor 1)

theorem balky_obliges : balkyWorld.kernel.Obliges 0 1 11 := by
  have refused : ∀ number call error, balky number call = .refuses error →
      call.Excuses error ∧ number < 11 := by
    intro number call error
    unfold balky
    split
    · rename_i here
      rintro ⟨⟩
      exact ⟨by rw [here.1]; exact .inl rfl, by omega⟩
    · split
      · rename_i here
        rintro ⟨⟩
        exact ⟨by rw [here.1]; exact .inr rfl, by omega⟩
      · split
        · rename_i here
          rintro ⟨⟩
          exact ⟨by rw [here.1]; rfl, by omega⟩
        · split <;> rintro ⟨⟩
  refine ⟨rfl, rfl, rfl, rfl, fun number call error _ bad => (refused number call error bad).1,
    fun number call error _ late bad => ?_, fun number _ => ?_⟩
  · exact absurd (refused number call error bad).2 (Nat.not_lt_of_le late)
  · show ∃ stalls ≤ stallLimit, ∃ limit, balky (number + stalls) .write = .grants limit
    by_cases here : number = 10
    · exact ⟨1, by decide, 2, by rw [here]; rfl⟩
    · exact ⟨0, by decide, 2, by simp [balky, here]⟩

/-- The same world where every call is made. -/
def willingWorld : World := balkyWorld.ruled fun _ _ => .grants 3

theorem willing_obliges (last : Nat) : willingWorld.kernel.Obliges 0 1 last :=
  ⟨rfl, rfl, rfl, rfl, (fun _ _ _ _ absurd => nomatch absurd),
    (fun _ _ _ _ _ absurd => nomatch absurd), fun _ _ => ⟨0, Nat.zero_le _, 3, rfl⟩⟩

/-- An engine whose buffer for the bulk of a copy has no room. -/
def cramped (spliceEnabled : Bool) : Engine :=
  { engine with
    buffers := { engine.buffers with hugeSize := 0 }
    spliceEnabled }

/-- Of a copy that came to an end, the bytes that it reports if it succeeded. -/
def total? (ended : Option CopyOutcome) : Option (Option Nat) :=
  ended.map fun outcome => outcome.result.toOption

/-- Verdicts that put every plain write off until there were more than are stood in a row. -/
def strained (number : Nat) (call : KernelCall) : Verdict :=
  if call = .write ∧ number ≤ stallLimit + 1 then .refuses .interrupted else .grants 3

def bashful (_number : Nat) (call : KernelCall) : Verdict :=
  if call = .read then .refuses .tryAgain else .grants 3

end Sample

namespace Engine

/-- In the sample the copy that splices gives splicing up with a byte in its pipe, and the other one
meets another kernel. -/
theorem copy_splice_transparent_sample : ∃ allowance spliced plain,
    { Sample.engine with spliceEnabled := true }.copy allowance Sample.pipedSink
      Sample.pipedSource Sample.balkyWorld = some spliced ∧
    { Sample.engine with spliceEnabled := false }.copy allowance Sample.pipedSink
      Sample.pipedSource Sample.willingWorld = some plain ∧
    spliced.result = .ok 7 ∧ plain.result = .ok 7 ∧
    spliced.world.kernel.received 1 = [7, 8, 1, 2, 3, 4, 5] ∧
    (plain.world.kernel.descriptors.get 1).contents =
      (spliced.world.kernel.descriptors.get 1).contents ∧
    spliced.world.tally ⟨"sent"⟩ = 7 ∧ spliced.world.tally ⟨"live"⟩ = 5 ∧
    plain.world.tally ⟨"live"⟩ = 5 := by
  have fresh : ∀ pool, (Sample.balkyWorld.pipePool pool).idle = [] := by
    intro pool
    cases pool <;> rfl
  obtain ⟨bound, copies⟩ := copy_splice_transparent Sample.engine Sample.pipedSink
    Sample.pipedSource (fun _ _ => .grants 3) ⟨rfl, rfl⟩ rfl fresh .refl (by decide)
    Sample.balky_obliges (Sample.willing_obliges 11)
  obtain ⟨spliced, plain, ended, replayed, result, same, received, contents, heard⟩ :=
    copies ⟨bound, bound⟩ (Nat.le_refl _) (Nat.le_refl _)
  have stock : Sample.pipedSource.stock Sample.balkyWorld.stores = [7, 8, 1, 2, 3, 4, 5] := rfl
  rw [stock] at result received heard
  obtain ⟨-, sent⟩ := heard ⟨"sent"⟩
  obtain ⟨again, live⟩ := heard ⟨"live"⟩
  have passed : spliced.world.tally ⟨"live"⟩ = 5 := live.trans rfl
  exact ⟨⟨bound, bound⟩, spliced, plain, ended, replayed, result, same.trans result, received,
    contents, sent.trans rfl, passed, again.trans passed⟩

/-- Where the buffer has no room, more plain writes in a row are put off than are stood, or a plain
read is put off, only the copy that splices succeeds. -/
theorem copy_splice_opaque_sample :
    (Sample.willingWorld.kernel.Obliges 0 1 0 ∧
      Sample.total? ((Sample.cramped true).copy Sample.allowance Sample.pipedSink
        Sample.pipedSource Sample.willingWorld) = some (some 7) ∧
      Sample.total? ((Sample.cramped false).copy Sample.allowance Sample.pipedSink
        Sample.pipedSource Sample.willingWorld) = some none) ∧
    ((∀ number call error, Sample.strained number call = .refuses error →
        call.Excuses error ∧ number ≤ stallLimit + 1) ∧
      Sample.total? ({ Sample.engine with spliceEnabled := true }.copy Sample.allowance
        (.descriptor 1 : Sink RehearsedWriter 0) (.descriptor 0 : Source RehearsedReader)
        (Sample.balkyWorld.ruled Sample.strained)) = some (some 5) ∧
      Sample.total? ({ Sample.engine with spliceEnabled := false }.copy Sample.allowance
        (.descriptor 1 : Sink RehearsedWriter 0) (.descriptor 0 : Source RehearsedReader)
        (Sample.balkyWorld.ruled Sample.strained)) = some none) ∧
    (∀ number call error, Sample.bashful number call = .refuses error →
        call = .read ∧ error = .tryAgain) ∧
      Sample.total? ({ Sample.engine with spliceEnabled := true }.copy Sample.allowance
        (.descriptor 1 : Sink RehearsedWriter 0) (.descriptor 0 : Source RehearsedReader)
        (Sample.balkyWorld.ruled Sample.bashful)) = some (some 5) ∧
      Sample.total? ({ Sample.engine with spliceEnabled := false }.copy Sample.allowance
        (.descriptor 1 : Sink RehearsedWriter 0) (.descriptor 0 : Source RehearsedReader)
        (Sample.balkyWorld.ruled Sample.bashful)) = some none := by
  refine ⟨⟨Sample.willing_obliges 0, by cbv, by cbv⟩, ⟨?_, by cbv, by cbv⟩, ?_, by cbv, by cbv⟩
  · intro number call error
    unfold Sample.strained
    split
    · rename_i here
      rintro ⟨⟩
      exact ⟨by rw [here.1]; rfl, here.2⟩
    · rintro ⟨⟩
  · intro number call error
    unfold Sample.bashful
    split
    · rename_i here
      rintro ⟨⟩
      exact ⟨here, rfl⟩
    · rintro ⟨⟩

end Engine

end Conduit
