import Conduit.Engine.Copy
import Conduit.Proofs.Fault.Crossing
import Conduit.Proofs.Transfer.Draining
import Conduit.Proofs.Transfer.Filling
import Conduit.Proofs.World.Hushing

set_option autoImplicit false

namespace Conduit

variable {ρ σ : Type} {depth : Nat}

/-- A call that a copy makes of one of its ends. -/
inductive EndCall where
  /-- The source was asked for up to so many bytes. -/
  | read (wanted : Nat) (answer : Except IoFault Bytes)
  | sink (call : SinkCall)

/-- The part of the calls that were made of the destination. -/
def EndCall.sink? : EndCall → Option SinkCall
  | .read _ _ => none
  | .sink call => some call

/-- The two ends of a copy, and their world. -/
structure CopyEnds (ρ σ : Type) (depth : Nat) where
  source : Source ρ
  sink : Watched σ depth
  world : World

namespace CopyEnds

variable [ReadPeer ρ] [WritePeer σ]

/-- The calls that led from one state of two ends to another one, in order. Between two calls cached
buffers are taken off the source and put in front of it, and nothing reaches either end. -/
inductive Calls (first : CopyEnds ρ σ depth) : List EndCall → CopyEnds ρ σ depth → Prop where
  | nothing : Calls first [] first
  | read {log : List EndCall} {source : Source ρ} {sink : Watched σ depth} {world : World}
    (calls : Calls first log ⟨source, sink, world⟩) (wanted : Nat) :
    Calls first (log ++ [.read wanted (source.read wanted world).answer])
      ⟨(source.read wanted world).after, sink, (source.read wanted world).world⟩
  | greet {log : List EndCall} {source : Source ρ} {sink : Watched σ depth} {world : World}
    (calls : Calls first log ⟨source, sink, world⟩) :
    Calls first (log ++ [.sink (.greet (sink.greet world).answer)])
      ⟨source, (sink.greet world).after, (sink.greet world).world⟩
  | feed {log : List EndCall} {source : Source ρ} {sink : Watched σ depth} {world : World}
    (calls : Calls first log ⟨source, sink, world⟩) (offered : Bytes) :
    Calls first (log ++ [.sink (.feed offered (sink.feed offered world).answer)])
      ⟨source, (sink.feed offered world).after, (sink.feed offered world).world⟩
  | write {log : List EndCall} {source : Source ρ} {sink : Watched σ depth} {world : World}
    (calls : Calls first log ⟨source, sink, world⟩) (offered : Bytes) :
    Calls first
      (log ++ [.sink (.write sink.handshake? offered (sink.write offered world).answer)])
      ⟨source, (sink.write offered world).after, (sink.write offered world).world⟩
  | pick {log : List EndCall} {source : Source ρ} {sink : Watched σ depth} {world : World}
    (calls : Calls first log ⟨source, sink, world⟩) :
    Calls first log ⟨source.pick.1, sink, world⟩
  | put {log : List EndCall} {source : Source ρ} {sink : Watched σ depth} {world : World}
    (calls : Calls first log ⟨source, sink, world⟩) (handle : SharedId) :
    Calls first log ⟨.cached (some handle) none source, sink, world⟩
  | hushed {log : List EndCall} {source : Source ρ} {sink : Watched σ depth}
    {world later : World} (calls : Calls first log ⟨source, sink, world⟩)
    (hushed : world.Hushed later) : Calls first log ⟨source, sink, later⟩

namespace Calls

variable {first last : CopyEnds ρ σ depth} {log : List EndCall}

/-- The destination's own transcript grows by its part of the calls. -/
theorem transcript (calls : first.Calls log last) :
    last.sink.calls = first.sink.calls ++ log.filterMap EndCall.sink? := by
  induction calls with
  | nothing => exact (List.append_nil _).symm
  | read _ wanted ih =>
    rw [List.filterMap_append]
    exact ih.trans (congrArg _ (List.append_nil _).symm)
  | greet _ ih | feed _ offered ih | write _ offered ih =>
    rw [List.filterMap_append, ← List.append_assoc, ← ih]
    exact Watched.calls_answered _ _ _
  | pick _ ih | put _ _ ih | hushed _ _ ih => exact ih

end Calls

end CopyEnds

/-- The two phases of a copy. -/
inductive Phase where
  | early
  | bulk
  deriving DecidableEq, Repr

/-- The places at which a copy may fail. -/
inductive Place where
  /-- A call of the destination's handshake. -/
  | handshake
  /-- The read that feeds a handshake. -/
  | handshakeRead
  /-- Writing out one cached buffer. -/
  | writeCache
  /-- Reading or writing the bulk of the copy. -/
  | bulk
  deriving DecidableEq, Repr

namespace Place

/-- The stages of a place, from the outermost inwards. -/
def stages : Place → List String
  | .handshake => [Stage.copyEarly, Stage.handshake]
  | .handshakeRead => [Stage.copyEarly, Stage.handshakeRead]
  | .writeCache => [Stage.copyEarly, Stage.writeCache]
  | .bulk => [Stage.copyPure]

def around (place : Place) (cause : TransferFault) : TransferFault :=
  place.stages.foldr (fun tag fault => fault.within tag) cause

theorem stages_injective : Function.Injective stages := by
  intro place other same
  cases place <;> cases other <;>
    simp_all [stages, Stage.handshake, Stage.handshakeRead, Stage.writeCache, Stage.copyEarly,
      Stage.copyPure]

variable (place : Place) (cause : TransferFault)

theorem stages_around : (place.around cause).stages = place.stages ++ cause.stages := by
  rw [around]
  induction place.stages with
  | nil => rfl
  | cons tag inner ih => exact congrArg (tag :: ·) ih

theorem kind_around : (place.around cause).kind = cause.kind := by
  rw [around]
  induction place.stages with
  | nil => rfl
  | cons tag inner ih => exact ih

/-- A failure of a copy tells a place and a kind, and still does once it crossed to a reader or
writer and back. -/
structure Names (place : Place) (failure : BufferFault) (fault : CopyFault) : Prop where
  stages : fault.cause.stages = place.stages
  /-- No other place has these stages. -/
  only : ∀ other : Place, fault.cause.stages = other.stages → other = place
  kind : fault.cause.kind = failure.kind
  restored : fault.cause.toIo.toTransfer = fault.cause
  toIo : fault.cause.toIo.kind = failure.kind
  copy : fault.toIo.kind = failure.kind

theorem names_around {place : Place} {failure : BufferFault} {fault : CopyFault}
    (same : fault.cause = place.around failure.toTransfer) : place.Names failure fault := by
  have kind : fault.cause.kind = failure.kind := by
    rw [same, kind_around, failure.kind_toTransfer]
  have stages : fault.cause.stages = place.stages := by
    rw [same, stages_around, failure.stages_toTransfer, List.append_nil]
  refine ⟨stages, ?_, kind, ?_, (TransferFault.kind_toIo _).trans kind, kind⟩
  · exact fun other named => stages_injective (named.symm.trans stages)
  · -- Every place has a stage, and a fault with one travels whole.
    rw [same]
    cases place <;> rfl

end Place

namespace Phase

def reading : Phase → Place
  | .early => .handshakeRead
  | .bulk => .bulk

def writing : Phase → Place
  | .early => .writeCache
  | .bulk => .bulk

/-- The place at which a call of a handshake fails in a phase; the bulk makes none. -/
def greeting : Phase → Place
  | .early => .handshake
  | .bulk => .bulk

def tag : Phase → String
  | .early => Stage.copyEarly
  | .bulk => Stage.copyPure

def room (phase : Phase) (engine : Engine) : Nat :=
  match phase with
  | .early => engine.buffers.standardSize
  | .bulk => engine.buffers.hugeSize

end Phase

/-- The failure that a call of a destination comes to. A write that stalls is made again, and a
handshake must not claim more than it was offered. -/
def SinkCall.failure? : SinkCall → Option BufferFault
  | .write _ _ (.ok _) => none
  | .write _ _ (.error fault) => if fault.isTransient then none else some (.io fault)
  | .greet (.ok _) => none
  | .greet (.error fault) => some (.io fault)
  | .feed offered (.ok taken) => if offered.length < taken then some .overflow else none
  | .feed _ (.error fault) => some (.io fault)

namespace EndCall

def place (phase : Phase) : EndCall → Place
  | .read _ _ => phase.reading
  | .sink (.write _ _ _) => phase.writing
  | .sink (.greet _) => phase.greeting
  | .sink (.feed _ _) => phase.greeting

/-- The failure that a call of a phase comes to. A read that is interrupted is made again, and the
end of the source fails only the handshake that waits for more. -/
def failure? (phase : Phase) : EndCall → Option BufferFault
  | .read _ (.ok bytes) => if phase = .early ∧ bytes = [] then some .endOfStream else none
  | .read _ (.error fault) => if fault.isInterrupted then none else some (.io fault)
  | .sink call => call.failure?

/-- A write that moved nothing and may be made again. -/
def Stalls : EndCall → Prop
  | .sink (.write _ _ answer) => Buffer.Stalls answer
  | _ => False

theorem Stalls.failure? {call : EndCall} (stalls : call.Stalls) (phase : Phase) :
    call.failure? phase = none := by
  cases call with
  | read wanted answer => exact stalls.elim
  | sink call =>
    cases call with
    | write pending offered answer =>
      cases answer with
      | ok taken => rfl
      | error fault => exact if_pos stalls
    | greet answer => exact stalls.elim
    | feed offered answer => exact stalls.elim

end EndCall

def Phase.Clear (phase : Phase) (log : List EndCall) : Prop :=
  ∀ call ∈ log, call.failure? phase = none

namespace Phase

variable {phase : Phase} {log : List EndCall} {call : EndCall}

theorem clear_nil (phase : Phase) : phase.Clear [] := fun _ inside => absurd inside List.not_mem_nil

theorem Clear.concat (clear : phase.Clear log) (well : call.failure? phase = none) :
    phase.Clear (log ++ [call]) :=
  List.forall_mem_append.mpr ⟨clear, List.forall_mem_singleton.mpr well⟩

theorem Clear.stalls {stalls : List EndCall} (clear : phase.Clear log)
    (all : ∀ call ∈ stalls, call.Stalls) : phase.Clear (log ++ stalls) :=
  List.forall_mem_append.mpr ⟨clear, fun call inside => (all call inside).failure? phase⟩

end Phase

namespace Engine

/-- The calls of a phase end in its failure at a place. -/
inductive Blames (engine : Engine) (phase : Phase) : List EndCall → Place → BufferFault → Prop where
  | call {log : List EndCall} {call : EndCall} {failure : BufferFault} (clear : phase.Clear log)
    (failed : call.failure? phase = some failure) :
    Blames engine phase (log ++ [call]) (call.place phase) failure
  /-- One more write stalled than a transfer stands in a row. -/
  | stuck {log stalls : List EndCall} (clear : phase.Clear log)
    (all : ∀ call ∈ stalls, call.Stalls) (many : stalls.length = stallLimit + 1) :
    Blames engine phase (log ++ stalls) phase.writing .noProgress
  /-- The buffer has no room for a byte, so that nothing is read. -/
  | roomless {log : List EndCall} (clear : phase.Clear log) (none : phase.room engine = 0) :
    Blames engine phase log phase.reading .shortBuffer

theorem Blames.place_bulk {engine : Engine} {log : List EndCall} {place : Place}
    {failure : BufferFault} (blames : engine.Blames .bulk log place failure) : place = .bulk := by
  cases blames with
  | @call log call failure clear failed =>
    cases call with
    | read => rfl
    | sink call => cases call <;> rfl
  | stuck | roomless => rfl

end Engine

namespace CopyEnds.Calls

variable [ReadPeer ρ] [WritePeer σ] (engine : Engine) {phase : Phase}
  {first : CopyEnds ρ σ depth} {log : List EndCall} {source : Source ρ} {sink : Watched σ depth}
  {world : World} {buffer : Buffer}

theorem fillOnce {retries : Nat} {counters : List Counter} {filled : Filled ρ}
    (calls : first.Calls log ⟨source, sink, world⟩) (clear : phase.Clear log)
    (room : buffer.freeLen = phase.room engine)
    (ended : buffer.fillOnce retries counters source world = some filled) :
    ∃ more, first.Calls more ⟨filled.source, sink, filled.world⟩ ∧
      match filled.result with
      | .ok count => ∃ before wanted bytes, more = before ++ [.read wanted (.ok bytes)] ∧
          phase.Clear before ∧ bytes.length = count
      | .error fault => ∃ failure, engine.Blames phase more phase.reading failure ∧
          (failure.Plain → fault = failure) := by
  unfold Buffer.fillOnce at ended
  split at ended
  · rename_i full
    cases ended
    refine ⟨log, calls, .shortBuffer, .roomless clear ?_, fun _ => rfl⟩
    rw [← room]
    exact beq_iff_eq.mp full
  · have sitsOut : Buffer.SitsOut buffer.freeLen fun _ (last : Source ρ) later => ∃ more,
        first.Calls more ⟨last, sink, later⟩ ∧ phase.Clear more := by
      rintro _ last later fault ⟨more, calls, clear⟩ failed interrupted
      have next := calls.read buffer.freeLen
      rw [failed] at next
      exact ⟨_, next, clear.concat (if_pos interrupted)⟩
    obtain ⟨_, last, later, ⟨more, calls, clear⟩, settled, rfl⟩ :=
      Buffer.fillOnceLoop_ends counters buffer source world retries sitsOut
        ⟨log, calls, clear⟩ filled ended
    have next := calls.read buffer.freeLen
    rw [Buffer.filledFrom]
    cases answer : (last.read buffer.freeLen later).answer with
    | ok bytes =>
      simp only [answer] at next ⊢
      exact ⟨_, next.hushed (World.hushed_count _ _ _), more, _, bytes, rfl, clear, rfl⟩
    | error fault =>
      simp only [answer] at next ⊢
      have hard := settled fault answer
      refine ⟨_, next, .io fault, .call clear (if_neg ?_), IoFault.Plain.toBuffer_eq⟩
      rw [hard]
      exact Bool.false_ne_true

/-- What holds before each write of a drain: its last calls are the stalls since it last got on. The
number is one more than the stalls that it still stands, and zero once it gave up. -/
def Patient (first : CopyEnds ρ σ depth) (phase : Phase) (source : Source ρ) :
    Nat → Watched σ depth → World → Prop
  | 0, _, _ => True
  | patience + 1, sink, world => ∃ log stalls, first.Calls (log ++ stalls) ⟨source, sink, world⟩ ∧
      phase.Clear log ∧ (∀ call ∈ stalls, call.Stalls) ∧ stalls.length + patience = stallLimit

/-- A drain that stalls has one more stall to show for it, and one that gets on has none. -/
theorem patient_rule (first : CopyEnds ρ σ depth) (phase : Phase) (source : Source ρ)
    (counters : List Counter) :
    Buffer.DrainRule Watched.write counters fun patience _ _ sink world =>
      Patient first phase source patience sink world := by
  constructor
  case stalled =>
    rintro patience left _ sink world ⟨log, stalls, calls, clear, all, many⟩ _ stalled
    cases patience with
    | zero => trivial
    | succ patience =>
      have next := calls.write left
      rw [List.append_assoc] at next
      refine ⟨log, _, next, clear, ?_, ?_⟩
      · exact List.forall_mem_append.mpr ⟨all, List.forall_mem_singleton.mpr stalled⟩
      · rw [List.length_append, List.length_singleton]
        omega
  case took =>
    rintro patience left _ sink world less ⟨log, stalls, calls, clear, all, _⟩ _ took
    have next := (calls.write left).hushed (World.hushed_count _ counters (less + 1))
    rw [took, ← List.append_nil (_ ++ [_])] at next
    exact ⟨_, [], next, (clear.stalls all).concat rfl, nofun, Nat.zero_add _⟩
  case refused => exact fun _ _ _ _ => trivial

/-- A drain fails its phase with its last write, or with stalls. -/
theorem drain (counters : List Counter)
    (calls : first.Calls log ⟨source, sink, world⟩) (clear : phase.Clear log)
    (some : buffer.unread ≠ []) :
    let drained := buffer.drain Watched.write counters sink world
    ∃ more, first.Calls more ⟨source, drained.sink, drained.world⟩ ∧
      match drained.result with
      | .ok _ => phase.Clear more
      | .error fault => ∃ failure, engine.Blames phase more phase.writing failure ∧
          (failure.Plain → fault = failure) := by
  have start : Patient first phase source (stallLimit + 1) sink world := by
    rw [← List.append_nil log] at calls
    exact ⟨log, [], calls, clear, nofun, Nat.zero_add _⟩
  obtain ⟨patient, count, _, last, later, ⟨log, stalls, calls, clear, all, many⟩, final, ended⟩ :=
    (patient_rule first phase source counters).drain_last buffer sink world some start
  rw [ended, Buffer.drainedBy]
  generalize (buffer.consume count).unread = left at *
  have next := calls.write left
  have stuck (none : patient = 0) (stalled : Buffer.Stalls (last.write left later).answer) :
      engine.Blames phase
        (log ++ stalls ++ [.sink (.write last.handshake? left (last.write left later).answer)])
        phase.writing .noProgress := by
    rw [List.append_assoc]
    refine .stuck clear ?_ ?_
    · exact List.forall_mem_append.mpr ⟨all, List.forall_mem_singleton.mpr stalled⟩
    · rw [List.length_append, List.length_singleton]
      omega
  cases answer : (last.write left later).answer with
  | ok taken =>
    rw [answer] at next stuck final
    cases taken with
    | zero => exact ⟨_, next, .noProgress, stuck (final.stuck rfl) rfl, fun _ => rfl⟩
    | succ less =>
      exact ⟨_, next.hushed (World.hushed_count _ counters (less + 1)),
        (clear.stalls all).concat rfl⟩
  | error fault =>
    rw [answer] at next stuck final
    refine ⟨_, next, ?_⟩
    cases hard : fault.isTransient with
    | true => exact ⟨.noProgress, stuck (final.stuck hard) hard, fun _ => if_pos hard⟩
    | false =>
      have lasting : ¬ fault.isTransient = true := by rw [hard]; exact Bool.false_ne_true
      exact ⟨.io fault, .call (clear.stalls all) (if_neg lasting),
        fun plain => (if_neg lasting).trans (IoFault.Plain.toBuffer_eq plain)⟩

end CopyEnds.Calls

end Conduit
