import Conduit.Proofs.Fault.Crossing
import Conduit.Proofs.Rehearsal.Sample
import Conduit.Proofs.Source.Stacks
import Conduit.Proofs.Transfer.Draining
import Conduit.Proofs.Transfer.Filling
import Conduit.Proofs.World.Elsewhere

set_option autoImplicit false

namespace Conduit

/-- If a call of a transfer failed for good, its fault is what the transfer reports. -/
def Tells {α β : Type} (answers : List (Except IoFault α)) (result : Except BufferFault β) : Prop :=
  ∀ fault, .error fault ∈ answers → fault.isTransient = false → result = .error fault.toBuffer

namespace Tells

variable {α β : Type} {answers : List (Except IoFault α)} {result : Except BufferFault β}

theorem nothing (result : Except BufferFault β) : Tells ([] : List (Except IoFault α)) result :=
  fun _ absurd => nomatch absurd

/-- A call that succeeds comes first. -/
theorem ok (moved : α) (tells : Tells answers result) : Tells (.ok moved :: answers) result := by
  intro fault among hard
  exact tells fault ((List.mem_cons.mp among).resolve_left nofun) hard

/-- A call that may be made again comes first. -/
theorem transient {stall : IoFault} (again : stall.isTransient = true)
    (tells : Tells answers result) : Tells (.error stall :: answers) result := by
  intro fault among hard
  rcases List.mem_cons.mp among with same | among
  · cases same
    rw [again] at hard
    cases hard
  · exact tells fault among hard

theorem failed (fault : IoFault) :
    Tells [(.error fault : Except IoFault α)] (.error fault.toBuffer : Except BufferFault β) := by
  intro other among _
  cases List.mem_singleton.mp among
  rfl

end Tells

/-- A sink was written to a number of times, and answered this. Counters may be called in between.
-/
inductive Wrote {τ : Type} (write : Writing τ) :
    τ → World → List (Except IoFault Nat) → τ → World → Prop where
  | nothing (sink : τ) (world : World) : Wrote write sink world [] sink world
  | call {sink last : τ} {world later : World} {answers : List (Except IoFault Nat)}
    (bytes : Bytes) (counters : List Counter) (moved : Nat)
    (others : Wrote write (write sink bytes world).after
      ((write sink bytes world).world.count counters moved) answers last later) :
    Wrote write sink world ((write sink bytes world).answer :: answers) last later

namespace Buffer

section

variable {τ : Type}

def DrainTells (write : Writing τ) (sink : τ) (world : World) (drained : Drained τ) : Prop :=
  ∃ answers, Wrote write sink world answers drained.sink drained.world ∧
    Tells answers drained.result

namespace DrainTells

variable {write : Writing τ} {sink : τ} {world : World} {bytes : Bytes}

theorem first {drained : Drained τ} (counters : List Counter) (moved : Nat)
    (quiet : ∀ fault, (write sink bytes world).answer = .error fault → fault.isTransient = true)
    (others : DrainTells write (write sink bytes world).after
      ((write sink bytes world).world.count counters moved) drained) :
    DrainTells write sink world drained := by
  obtain ⟨answers, wrote, tells⟩ := others
  refine ⟨_, .call bytes counters moved wrote, ?_⟩
  cases answer : (write sink bytes world).answer with
  | ok taken => exact tells.ok taken
  | error fault => exact tells.transient (quiet fault answer)

theorem nothing (result : Except BufferFault Nat) (reported : Nat) (buffer : Buffer) (sink : τ)
    (world : World) : DrainTells write sink world ⟨result, reported, buffer, sink, world⟩ :=
  ⟨[], .nothing sink world, .nothing result⟩

theorem failed {fault : IoFault} (failed : (write sink bytes world).answer = .error fault)
    (reported : Nat) (buffer : Buffer) :
    DrainTells write sink world ⟨.error fault.toBuffer, reported, buffer,
      (write sink bytes world).after, (write sink bytes world).world⟩ := by
  have wrote : Wrote write sink world [(write sink bytes world).answer]
      (write sink bytes world).after ((write sink bytes world).world.count [] 0) :=
    .call bytes [] 0 (.nothing _ _)
  rw [failed, World.count_nil] at wrote
  exact ⟨_, wrote, .failed fault⟩

end DrainTells

theorem drainLoop_tells (write : Writing τ) (counters : List Counter) (buffer : Buffer) (sink : τ)
    (world : World) (patience total reported : Nat) :
    DrainTells write sink world
      (buffer.drainLoop write counters sink world patience total reported) := by
  have still (world : World) : world = world.count [] 0 := (World.count_nil world 0).symm
  induction buffer, sink, world, patience, total, reported
      using Buffer.drainLoop.induct write counters with
  | case1 buffer sink world total reported wrote none =>
    unfold Buffer.drainLoop
    simp only [wrote] at none
    simp only [none]
    apply DrainTells.first [] 0 (fun fault failed => by rw [none] at failed; cases failed)
    rw [← still]
    exact .nothing _ _ _ _ _
  | case2 buffer sink world total reported wrote none patience ih =>
    unfold Buffer.drainLoop
    simp only [wrote] at none ih
    simp only [none]
    apply DrainTells.first [] 0 (fun fault failed => by rw [none] at failed; cases failed)
    rw [← still]
    exact ih
  | case3 buffer sink world patience total reported wrote less took left gone =>
    unfold Buffer.drainLoop
    simp only [wrote, left] at took gone
    simp only [took, gone, if_true]
    apply DrainTells.first counters (less + 1)
      (fun fault failed => by rw [took] at failed; cases failed)
    exact .nothing _ _ _ _ _
  | case4 buffer sink world patience total reported wrote less took counted left sum more ih =>
    unfold Buffer.drainLoop
    simp only [wrote, left, counted, sum] at took more ih
    simp only [took, more, Bool.false_eq_true, if_false]
    apply DrainTells.first counters (less + 1)
      (fun fault failed => by rw [took] at failed; cases failed)
    exact ih
  | case5 buffer sink world total reported wrote fault failed transient =>
    unfold Buffer.drainLoop
    simp only [wrote] at failed
    simp only [failed, transient, if_true]
    apply DrainTells.first [] 0
      (fun other same => by rw [failed] at same; cases same; exact transient)
    rw [← still]
    exact .nothing _ _ _ _ _
  | case6 buffer sink world total reported wrote fault failed transient patience ih =>
    unfold Buffer.drainLoop
    simp only [wrote] at failed ih
    simp only [failed, transient, if_true]
    apply DrainTells.first [] 0
      (fun other same => by rw [failed] at same; cases same; exact transient)
    rw [← still]
    exact ih
  | case7 buffer sink world patience total reported wrote fault failed hard =>
    unfold Buffer.drainLoop
    simp only [wrote] at failed
    simp only [failed, hard, Bool.false_eq_true, if_false]
    exact .failed failed reported buffer

/-- A drain tells of the writes that failed on it, whatever it could write before. -/
theorem drain_tells (write : Writing τ) (counters : List Counter) (buffer : Buffer) (sink : τ)
    (world : World) : DrainTells write sink world (buffer.drain write counters sink world) := by
  unfold drain
  split
  · exact .nothing _ _ _ _ _
  · exact drainLoop_tells write counters buffer sink world stallLimit 0 0

theorem drainOnceLoop_tells (write : Writing τ) (buffer : Buffer) (sink : τ) (world : World)
    (retries : Nat) (drained : Drained τ)
    (ended : buffer.drainOnceLoop write sink world retries = some drained) :
    DrainTells write sink world drained := by
  have still (world : World) : world = world.count [] 0 := (World.count_nil world 0).symm
  induction sink, world, retries using drainOnceLoop.induct write buffer with
  | case1 retries sink world wrote taken took =>
    simp only [wrote] at took
    rw [drainOnceLoop.eq_def] at ended
    simp only [took, Option.some.injEq] at ended
    subst ended
    apply DrainTells.first [] 0 (fun fault failed => by rw [took] at failed; cases failed)
    rw [← still]
    exact .nothing _ _ _ _ _
  | case2 sink world wrote fault failed interrupted =>
    simp only [wrote] at failed
    rw [drainOnceLoop.eq_def] at ended
    simp only [failed, interrupted, if_true, reduceCtorEq] at ended
  | case3 sink world wrote fault failed interrupted patience ih =>
    simp only [wrote] at failed ih
    rw [drainOnceLoop.eq_def] at ended
    simp only [failed, interrupted, if_true] at ended
    have transient := IoFault.isTransient_of_isInterrupted interrupted
    apply DrainTells.first [] 0
      (fun other same => by rw [failed] at same; cases same; exact transient)
    rw [← still]
    exact ih ended
  | case4 retries sink world wrote fault failed hard =>
    simp only [wrote] at failed
    rw [drainOnceLoop.eq_def] at ended
    simp only [failed, hard, Bool.false_eq_true, if_false, Option.some.injEq] at ended
    subst ended
    exact .failed failed 0 buffer

theorem drainOnce_tells {retries : Nat} {write : Writing τ} {buffer : Buffer} {sink : τ}
    {world : World} {drained : Drained τ}
    (ended : buffer.drainOnce retries write sink world = some drained) :
    DrainTells write sink world drained := by
  unfold drainOnce at ended
  split at ended
  · cases ended
    exact .nothing _ _ _ _ _
  · exact drainOnceLoop_tells write buffer sink world retries drained ended

end

section

variable {ρ : Type} [ReadPeer ρ]

/-- A fill tells of the reads that failed on it. After them it did nothing but call counters. -/
def FillTells (counters : List Counter) (source : Source ρ) (world : World) (filled : Filled ρ) :
    Prop :=
  ∃ sizes moved, let reads := source.readEach sizes world
    reads.after = filled.source ∧ reads.world.count counters moved = filled.world ∧
      Tells reads.answers filled.result

namespace FillTells

variable {counters : List Counter} {source : Source ρ} {world : World} {wanted : Nat}

theorem first {filled : Filled ρ}
    (quiet : ∀ fault, (source.read wanted world).answer = .error fault →
      fault.isTransient = true)
    (others : FillTells counters (source.read wanted world).after (source.read wanted world).world
      filled) :
    FillTells counters source world filled := by
  obtain ⟨sizes, moved, last, later, tells⟩ := others
  refine ⟨wanted :: sizes, moved, last, later, ?_⟩
  rw [Source.readEach]
  cases answer : (source.read wanted world).answer with
  | ok bytes => exact tells.ok bytes
  | error fault => exact tells.transient (quiet fault answer)

theorem nothing (result : Except BufferFault Nat) (buffer : Buffer) (source : Source ρ)
    (world : World) : FillTells counters source world ⟨result, buffer, source, world⟩ := by
  refine ⟨[], 0, rfl, ?_, .nothing result⟩
  simp only [Source.readEach, World.count, Journal.count_zero]

/-- The only read brought bytes, or none, and counters were called for it. -/
theorem counted {bytes : Bytes} (answer : (source.read wanted world).answer = .ok bytes)
    (result : Except BufferFault Nat) (buffer : Buffer) (moved : Nat) :
    FillTells counters source world ⟨result, buffer, (source.read wanted world).after,
      (source.read wanted world).world.count counters moved⟩ := by
  refine ⟨[wanted], moved, rfl, rfl, ?_⟩
  rw [Source.readEach, answer]
  exact (Tells.nothing result).ok bytes

theorem failed {fault : IoFault} (failed : (source.read wanted world).answer = .error fault)
    (buffer : Buffer) :
    FillTells counters source world ⟨.error fault.toBuffer, buffer,
      (source.read wanted world).after, (source.read wanted world).world⟩ := by
  refine ⟨[wanted], 0, rfl, ?_, ?_⟩
  · simp only [Source.readEach, World.count, Journal.count_zero]
  · rw [Source.readEach, failed]
    exact .failed fault

end FillTells

theorem fillLoop_tells (buffer : Buffer) (source : Source ρ) (world : World)
    (patience total : Nat) :
    FillTells [] source world (buffer.fillLoop source world patience total) := by
  have quiet {bytes : Bytes} {last : Source ρ} {wanted : Nat} {now : World}
      (answer : (last.read wanted now).answer = .ok bytes) : ∀ fault,
      (last.read wanted now).answer = .error fault → fault.isTransient = true :=
    fun fault failed => by rw [answer] at failed; cases failed
  induction buffer, source, world, patience, total using fillLoop.induct with
  | case1 buffer source world patience total reading ended =>
    unfold fillLoop
    simp only [reading] at ended
    simp only [ended]
    exact .first (quiet ended) (.nothing _ _ _ _)
  | case2 buffer source world patience total reading first rest some filled full =>
    unfold fillLoop
    simp only [reading, filled] at some full
    simp only [some, full, if_true]
    exact .first (quiet some) (.nothing _ _ _ _)
  | case3 buffer source world patience total reading first rest some filled roomy ih =>
    unfold fillLoop
    simp only [reading, filled] at some roomy ih
    simp only [some, roomy, if_false, Bool.false_eq_true]
    exact .first (quiet some) ih
  | case4 buffer source world total reading fault failed transient =>
    unfold fillLoop
    simp only [reading] at failed
    simp only [failed, transient, if_true]
    apply FillTells.first (fun other same => by rw [failed] at same; cases same; exact transient)
    exact .nothing _ _ _ _
  | case5 buffer source world total reading fault failed transient patience ih =>
    unfold fillLoop
    simp only [reading] at failed ih
    simp only [failed, transient, if_true]
    exact .first (fun other same => by rw [failed] at same; cases same; exact transient) ih
  | case6 buffer source world patience total reading fault failed hard =>
    unfold fillLoop
    simp only [reading] at failed
    simp only [failed, hard, if_false, Bool.false_eq_true]
    exact .failed failed _

/-- A fill tells of the reads that failed on it, whatever they brought before. -/
theorem fill_tells (buffer : Buffer) (source : Source ρ) (world : World) :
    FillTells [] source world (buffer.fill source world) := by
  unfold fill
  split
  · exact .nothing _ _ _ _
  · exact fillLoop_tells buffer source world stallLimit 0

theorem fillOnceLoop_tells (counters : List Counter) (buffer : Buffer) (source : Source ρ)
    (world : World) (retries : Nat) (filled : Filled ρ)
    (ended : buffer.fillOnceLoop counters source world retries = some filled) :
    FillTells counters source world filled := by
  have sitsOut : SitsOut buffer.freeLen fun _ (last : Source ρ) later =>
      ∀ filled, FillTells counters last later filled → FillTells counters source world filled := by
    intro _ last later fault goesOn failed interrupted filled tells
    have transient := IoFault.isTransient_of_isInterrupted interrupted
    apply goesOn
    exact .first (fun other same => by rw [failed] at same; cases same; exact transient) tells
  obtain ⟨_, last, later, goesOn, _, rfl⟩ :=
    fillOnceLoop_ends counters buffer source world retries sitsOut (fun _ tells => tells) filled
      ended
  apply goesOn
  unfold filledFrom
  cases answer : (last.read buffer.freeLen later).answer with
  | ok bytes =>
    simp only [answer]
    exact .counted answer _ _ _
  | error fault =>
    simp only [answer]
    exact .failed answer _

/-- A fill by one read tells of the read that failed on it. -/
theorem fillOnce_tells {retries : Nat} {counters : List Counter} {buffer : Buffer}
    {source : Source ρ} {world : World} {filled : Filled ρ}
    (ended : buffer.fillOnce retries counters source world = some filled) :
    FillTells counters source world filled := by
  unfold fillOnce at ended
  split at ended
  · cases ended
    exact .nothing _ _ _ _
  · exact fillOnceLoop_tells counters buffer source world retries filled ended

theorem fillExactlyLoop_tells (retries : Nat) (buffer : Buffer) (source : Source ρ)
    (world : World) (wanted missing patience : Nat) (filled : Filled ρ)
    (ended : buffer.fillExactlyLoop retries source world wanted missing patience = some filled) :
    FillTells [] source world filled := by
  induction buffer, source, world, missing, patience
      using @fillExactlyLoop.induct ρ _ retries with
  | case1 buffer source world patience =>
    unfold fillExactlyLoop at ended
    cases ended
    exact .nothing _ _ _ _
  | case2 buffer source world patience missing reading none =>
    unfold fillExactlyLoop at ended
    simp only [reading] at none
    simp only [none, Option.some.injEq] at ended
    subst ended
    exact .first (fun fault failed => by rw [none] at failed; cases failed) (.nothing _ _ _ _)
  | case3 buffer source world patience missing reading first rest some ih =>
    unfold fillExactlyLoop at ended
    simp only [reading] at some ih
    simp only [some] at ended
    exact .first (fun fault failed => by rw [some] at failed; cases failed) (ih ended)
  | case4 buffer source world missing reading fault failed interrupted =>
    unfold fillExactlyLoop at ended
    simp only [reading] at failed
    simp only [failed, interrupted, if_true, reduceCtorEq] at ended
  | case5 buffer source world missing reading fault failed interrupted patience ih =>
    unfold fillExactlyLoop at ended
    simp only [reading] at failed ih
    simp only [failed, interrupted, if_true] at ended
    have transient := IoFault.isTransient_of_isInterrupted interrupted
    exact .first (fun other same => by rw [failed] at same; cases same; exact transient) (ih ended)
  | case6 buffer source world patience missing reading fault failed hard =>
    unfold fillExactlyLoop at ended
    simp only [reading] at failed
    simp only [failed, hard, if_false, Bool.false_eq_true, Option.some.injEq] at ended
    subst ended
    exact .failed failed _

/-- A fill with so many bytes tells of the read that failed on it. -/
theorem fillExactly_tells {retries : Nat} {buffer : Buffer} {source : Source ρ} {world : World}
    {wanted : Nat} {filled : Filled ρ}
    (ended : buffer.fillExactly retries source world wanted = some filled) :
    FillTells [] source world filled := by
  unfold fillExactly at ended
  split at ended
  · cases ended
    exact .nothing _ _ _ _
  · exact fillExactlyLoop_tells retries buffer source world wanted wanted retries filled ended

end

end Buffer

namespace TransferFault

/-- If a call of a transfer failed with a fault, the transfer relays it. -/
def RelayedBy {α β : Type} (sent : TransferFault) (answers : List (Except IoFault α))
    (result : Except BufferFault β) : Prop :=
  .error sent.toIo ∈ answers → ∃ received, result = .error received ∧ sent.Relays received

section

variable {ρ τ : Type} [ReadPeer ρ] {sent : TransferFault}

theorem relayedBy {α β : Type} {answers : List (Except IoFault α)} {result : Except BufferFault β}
    (tells : Tells answers result) (plain : sent.Plain) (hard : sent.kind.isTransient = false) :
    sent.RelayedBy answers result := by
  intro among
  refine ⟨_, tells sent.toIo among ?_, relays_toBuffer_toIo plain⟩
  rw [IoFault.isTransient, kind_toIo, hard]

/-- A drain relays a fault of its writes. -/
def DrainRelays (sent : TransferFault) (write : Writing τ) (sink : τ) (world : World)
    (drained : Drained τ) : Prop :=
  ∃ answers, Wrote write sink world answers drained.sink drained.world ∧
    sent.RelayedBy answers drained.result

/-- A fill that calls these counters relays a fault of its reads. -/
def FillRelays (sent : TransferFault) (counters : List Counter) (source : Source ρ) (world : World)
    (filled : Filled ρ) : Prop :=
  ∃ sizes moved, let reads := source.readEach sizes world
    reads.after = filled.source ∧ reads.world.count counters moved = filled.world ∧
      sent.RelayedBy reads.answers filled.result

/-- Whatever transfer fault a write or a read of a drain or a fill fails with for good, the drain or
fill fails, a transfer is told the kind of it and can take it out whole again, but is told the same
only of a fault without stages that is not the ends of several streams. -/
theorem transfers_relay (plain : sent.Plain) (hard : sent.kind.isTransient = false)
    (write : Writing τ) (sink : τ) (source : Source ρ) (buffer : Buffer) (world : World)
    (counters : List Counter) (retries wanted : Nat) :
    sent.DrainRelays write sink world (buffer.drain write counters sink world) ∧
    (∀ drained, buffer.drainOnce retries write sink world = some drained →
      sent.DrainRelays write sink world drained) ∧
    sent.FillRelays [] source world (buffer.fill source world) ∧
    (∀ filled, buffer.fillOnce retries counters source world = some filled →
      sent.FillRelays counters source world filled) ∧
    (∀ filled, buffer.fillExactly retries source world wanted = some filled →
      sent.FillRelays [] source world filled) := by
  have drains : ∀ drained, Buffer.DrainTells write sink world drained →
      sent.DrainRelays write sink world drained := by
    rintro drained ⟨answers, wrote, tells⟩
    exact ⟨answers, wrote, relayedBy tells plain hard⟩
  have fills : ∀ {counters filled}, Buffer.FillTells counters source world filled →
      sent.FillRelays counters source world filled := by
    rintro counters filled ⟨sizes, moved, last, later, tells⟩
    exact ⟨sizes, moved, last, later, relayedBy tells plain hard⟩
  refine ⟨?_, ?_, ?_, ?_, ?_⟩
  · exact drains _ (Buffer.drain_tells write counters buffer sink world)
  · exact fun drained ended => drains _ (Buffer.drainOnce_tells ended)
  · exact fills (Buffer.fill_tells buffer source world)
  · exact fun filled ended => fills (Buffer.fillOnce_tells ended)
  · exact fun filled ended => fills (Buffer.fillExactly_tells ended)

/-- What a write buffer reports whose sink does not take anything. -/
def stalledFlush : TransferFault := .within (.buffer .noProgress) Stage.flush

/-- A writer that takes one byte and then fails with it. -/
def clogged : Sink RehearsedWriter 0 :=
  .peer ⟨2, [.take 1], .fail stalledFlush.toIo, none, none, .none⟩

/-- A reader that gives two bytes and then fails with it. -/
def parched : Source RehearsedReader := .peer ⟨1, [.deliver [7, 8]], .failing stalledFlush.toIo⟩

/-- Both are cut short, the drain after one byte and the fill after two, and fail with what the last
of their calls failed with, which is inside what they report. -/
theorem transfers_relay_flush :
    stalledFlush.Plain ∧ stalledFlush.kind.isTransient = false ∧
      (let drained := (Buffer.ofBytes [1, 2]).drain (Sink.write 0) [] clogged World.initial
      stalledFlush.DrainRelays (Sink.write 0) clogged World.initial drained ∧
        drained.result = .error (.io stalledFlush.toIo) ∧ drained.world.written = [1]) ∧
      let filled := (Buffer.zeroed 4).fill parched World.initial
      stalledFlush.FillRelays [] parched World.initial filled ∧
        filled.result = .error (.io stalledFlush.toIo) ∧ filled.world.obtained = [7, 8] := by
  have plain : stalledFlush.Plain := by
    rw [stalledFlush, within, Plain, Plain]
    trivial
  obtain ⟨drains, _⟩ := transfers_relay plain rfl (Sink.write 0) clogged parched
    (Buffer.ofBytes [1, 2]) World.initial [] 0 0
  obtain ⟨_, _, fills, _⟩ := transfers_relay plain rfl (Sink.write 0) clogged parched
    (Buffer.zeroed 4) World.initial [] 0 0
  exact ⟨plain, rfl, ⟨drains, by cbv, by cbv⟩, fills, by cbv, by cbv⟩

/-- A full write buffer over a writer that takes nothing says where it stalled, but a copy into it
does not: the stage and the cause are no longer seen from without. -/
theorem copy_blurs_flush_sample :
    let sink : Sink RehearsedWriter 1 :=
      .staged (.ofBytes [1, 2, 3, 4]) (.peer ⟨2, [], .take 0, none, none, .none⟩)
    (∃ fault, (sink.write 1 [5] World.initial).answer = .error fault ∧
      fault.toTransfer.stages = [Stage.flush] ∧ fault.toTransfer.isNoProgress = true) ∧
    ∃ outcome, Sample.engine.copy Sample.allowance sink (.peer Sample.reader) World.initial =
      some outcome ∧ ∃ fault, outcome.result = .error fault ∧
        fault.cause.stages = [Stage.copyPure] ∧ fault.cause.isNoProgress = false := by
  intro sink
  have wrote : (sink.write 1 [5] World.initial).answer.mapError (fun fault =>
      (fault.toTransfer.stages, fault.toTransfer.isNoProgress)) =
        .error ([Stage.flush], true) := by cbv
  have copied : (Sample.engine.copy Sample.allowance sink (.peer Sample.reader)
      World.initial).map (fun outcome => outcome.result.mapError fun fault =>
        (fault.cause.stages, fault.cause.isNoProgress)) =
          some (.error ([Stage.copyPure], false)) := by cbv
  constructor
  · cases answer : (sink.write 1 [5] World.initial).answer with
    | ok taken =>
      rw [answer] at wrote
      cases wrote
    | error fault =>
      rw [answer] at wrote
      exact ⟨fault, rfl, Prod.mk.inj (Except.error.inj wrote)⟩
  · obtain ⟨outcome, ended, told⟩ := Option.map_eq_some_iff.mp copied
    refine ⟨outcome, ended, ?_⟩
    cases result : outcome.result with
    | ok bytes =>
      rw [result] at told
      cases told
    | error fault =>
      rw [result] at told
      exact ⟨fault, rfl, Prod.mk.inj (Except.error.inj told)⟩

end

end TransferFault

end Conduit
