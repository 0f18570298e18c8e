import Conduit.Journal
import Mathlib.Data.List.Basic

set_option autoImplicit false

namespace Conduit

namespace IoFault

/-- Where this fault comes out of a buffer's operation it reads as the end of a stream. -/
def EndsStream (fault : IoFault) : Prop := fault.toBuffer = .endOfStream

theorem isEndOfStream_toTransfer_toBuffer {fault : IoFault} (goesOn : ¬ fault.EndsStream) :
    fault.toBuffer.toTransfer.isEndOfStream = false := by
  unfold EndsStream at goesOn
  cases carried : fault.toBuffer with
  | endOfStream => exact absurd carried goesOn
  | _ => simp [BufferFault.toTransfer, TransferFault.isEndOfStream, BufferFault.isEndOfStream]

theorem not_endsStream_system (error : SystemError) : ¬ (IoFault.system error).EndsStream := by
  simp [EndsStream, toBuffer]

theorem isTransient_of_isInterrupted {fault : IoFault} (interrupted : fault.isInterrupted = true) :
    fault.isTransient = true := by
  rw [isInterrupted, beq_iff_eq] at interrupted
  rw [isTransient, interrupted]
  rfl

end IoFault

namespace ReadPeer

variable {ρ : Type} [ReadPeer ρ]

def answer (reader : ρ) (wanted : Nat) : Except IoFault Bytes :=
  (ReadPeer.read reader wanted).1.map (·.take wanted)

def after (reader : ρ) (wanted : Nat) : ρ := (ReadPeer.read reader wanted).2

/-- The bytes that an answer brings. -/
def brought : Except IoFault Bytes → Bytes
  | .ok bytes => bytes
  | .error _ => []

/-- A reader gives bytes, over any number of reads for some, and is another one then. -/
inductive Run : ρ → Bytes → ρ → Prop where
  | still (reader : ρ) : Run reader [] reader
  | more {reader last : ρ} {bytes : Bytes} {wanted : Nat} (some : 0 < wanted)
    (run : Run reader bytes last) :
    Run reader (bytes ++ brought (answer last wanted)) (after last wanted)

theorem Run.trans {first middle last : ρ} {early late : Bytes} (front : Run first early middle)
    (back : Run middle late last) : Run first (early ++ late) last := by
  induction back with
  | still => simpa using front
  | more some _ ih =>
    rw [← List.append_assoc]
    exact .more some ih

theorem Run.one (reader : ρ) {wanted : Nat} (some : 0 < wanted) :
    Run reader (brought (answer reader wanted)) (after reader wanted) := by
  simpa using Run.more some (Run.still reader)

/-- No read of a reader will give anything. -/
def Spent (reader : ρ) : Prop := ∀ bytes last, Run reader bytes last → bytes = []

/-- The reader's stream has one end and shows it in one way. -/
structure Orderly (reader : ρ) : Prop where
  /-- Once a read for some bytes brought none, no later read brings any. -/
  lasting : ∀ bytes later wanted, Run reader bytes later → 0 < wanted →
    answer later wanted = .ok [] → Spent (after later wanted)
  /-- No fault passes for the end, except where the read is made again. -/
  candid : ∀ bytes later wanted fault, Run reader bytes later → 0 < wanted →
    answer later wanted = .error fault → fault.isInterrupted = false → ¬ fault.EndsStream

theorem Orderly.run {reader later : ρ} {bytes : Bytes} (orderly : Orderly reader)
    (run : Run reader bytes later) : Orderly later where
  lasting := fun _ last wanted on => orderly.lasting _ last wanted (run.trans on)
  candid := fun _ last wanted fault on => orderly.candid _ last wanted fault (run.trans on)

/-- What is asked of the readers of streams: a read brings the next bytes, and none only at the end,
or else it is interrupted, which happens only so many times. -/
structure Streaming (Stays : ρ → Bytes → Nat → Prop) : Prop where
  ok : ∀ {reader stream patience wanted bytes}, Stays reader stream patience → 0 < wanted →
    answer reader wanted = .ok bytes → (bytes = [] → stream = []) ∧
      ∃ rest fewer, stream = bytes ++ rest ∧ fewer ≤ patience ∧
        Stays (after reader wanted) rest fewer
  error : ∀ {reader stream patience wanted fault}, Stays reader stream patience → 0 < wanted →
    answer reader wanted = .error fault → fault.isInterrupted = true ∧
      ∃ fewer, fewer < patience ∧ Stays (after reader wanted) stream fewer

/-- A reader delivers one stream, in pieces of any size, with at most so many interruptions. -/
def Streams (reader : ρ) (stream : Bytes) (interruptions : Nat) : Prop :=
  ∃ Stays : ρ → Bytes → Nat → Prop, Streaming Stays ∧ Stays reader stream interruptions

namespace Streams

variable {reader : ρ} {stream : Bytes} {patience wanted : Nat}

theorem ok {bytes : Bytes} (streams : Streams reader stream patience) (some : 0 < wanted)
    (success : answer reader wanted = .ok bytes) : (bytes = [] → stream = []) ∧
      ∃ rest fewer, stream = bytes ++ rest ∧ fewer ≤ patience ∧
        Streams (after reader wanted) rest fewer := by
  obtain ⟨Stays, streaming, stays⟩ := streams
  obtain ⟨last, rest, fewer, split, fits, on⟩ := streaming.ok stays some success
  exact ⟨last, rest, fewer, split, fits, Stays, streaming, on⟩

theorem error {fault : IoFault} (streams : Streams reader stream patience) (some : 0 < wanted)
    (failed : answer reader wanted = .error fault) : fault.isInterrupted = true ∧
      ∃ fewer, fewer < patience ∧ Streams (after reader wanted) stream fewer := by
  obtain ⟨Stays, streaming, stays⟩ := streams
  obtain ⟨interrupted, fewer, fits, on⟩ := streaming.error stays some failed
  exact ⟨interrupted, fewer, fits, Stays, streaming, on⟩

/-- Over any number of reads it delivers the first part of its stream. -/
theorem run {later : ρ} {bytes : Bytes} (streams : Streams reader stream patience)
    (run : Run reader bytes later) :
    ∃ rest fewer, stream = bytes ++ rest ∧ Streams later rest fewer := by
  induction run with
  | still => exact ⟨stream, patience, rfl, streams⟩
  | @more last bytes wanted some _ ih =>
    obtain ⟨rest, fewer, split, on⟩ := ih
    cases answer : ReadPeer.answer last wanted with
    | ok piece =>
      obtain ⟨_, left, _, more, _, again⟩ := on.ok some answer
      exact ⟨left, _, by rw [split, more, brought, List.append_assoc], again⟩
    | error fault =>
      obtain ⟨_, _, _, again⟩ := on.error some answer
      exact ⟨rest, _, by rw [split, brought, List.append_nil], again⟩

/-- A reader gives nothing more once its stream is delivered. -/
theorem spent (streams : Streams reader [] patience) : Spent reader := by
  intro bytes last run
  obtain ⟨rest, _, split, _⟩ := streams.run run
  exact (List.append_eq_nil_iff.mp split.symm).1

theorem orderly (streams : Streams reader stream patience) : Orderly reader where
  lasting := by
    intro bytes later wanted run some none
    obtain ⟨rest, _, _, on⟩ := streams.run run
    obtain ⟨last, left, fewer, split, _, again⟩ := on.ok some none
    rw [last rfl, List.nil_append] at split
    rw [← split] at again
    exact again.spent
  candid := by
    intro bytes later wanted fault run some failed hard
    obtain ⟨rest, _, _, on⟩ := streams.run run
    rw [(on.error some failed).1] at hard
    cases hard

end Streams

end ReadPeer

namespace WritePeer

variable {σ : Type} [WritePeer σ]

/-- A writer becomes another one by any number of calls. -/
inductive Reaches : σ → σ → Prop where
  | still (writer : σ) : Reaches writer writer
  | write {writer last : σ} (bytes : Bytes) (reached : Reaches writer last) :
    Reaches writer (WritePeer.write last bytes).2
  | flush {writer last : σ} (reached : Reaches writer last) :
    Reaches writer (WritePeer.flush last).2
  | greet {writer last : σ} (reached : Reaches writer last) :
    Reaches writer (WritePeer.greet last).2
  | feed {writer last : σ} (bytes : Bytes) (reached : Reaches writer last) :
    Reaches writer (WritePeer.feed last bytes).2

theorem Reaches.trans {first middle last : σ} (front : Reaches first middle)
    (back : Reaches middle last) : Reaches first last := by
  induction back with
  | still => exact front
  | write bytes _ ih => exact .write bytes ih
  | flush _ ih => exact .flush ih
  | greet _ ih => exact .greet ih
  | feed bytes _ ih => exact .feed bytes ih

/-- No answer to an offer of data claims more than was offered. -/
def Modest (writer : σ) : Prop :=
  ∀ later bytes taken, Reaches writer later →
    (WritePeer.write later bytes).1 = .ok taken → taken ≤ bytes.length

theorem Modest.reached {writer later : σ} (modest : Modest writer)
    (reached : Reaches writer later) : Modest later :=
  fun last bytes taken on => modest last bytes taken (reached.trans on)

/-- The writer's answers to offers of data can be taken at their word. Nothing is asked of its
handshake. -/
structure Orderly (writer : σ) : Prop where
  modest : Modest writer
  /-- No fault passes for the end of a stream. -/
  candid : ∀ later bytes fault, Reaches writer later →
    (WritePeer.write later bytes).1 = .error fault → ¬ fault.EndsStream

theorem Orderly.reached {writer later : σ} (orderly : Orderly writer)
    (reached : Reaches writer later) : Orderly later where
  modest := orderly.modest.reached reached
  candid := fun last bytes fault on => orderly.candid last bytes fault (reached.trans on)

end WritePeer

end Conduit
