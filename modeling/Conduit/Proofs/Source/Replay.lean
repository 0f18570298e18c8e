import Conduit.Proofs.Source.Stacks
import Conduit.Rehearsal

set_option autoImplicit false

namespace Conduit

namespace Event

/-- The answer of a live reader that a record is of. -/
def heard? : Event → Option (Except IoFault Bytes)
  | .read _ _ answer => some answer
  | _ => none

end Event

namespace World

/-- All that live readers answered so far. -/
def heard (world : World) : List (Except IoFault Bytes) :=
  world.journal.events.filterMap Event.heard?

theorem heard_record (world : World) (event : Event) :
    (world.record event).heard = world.heard ++ event.heard?.toList := by
  rw [heard, record, Journal.events_record, List.filterMap_append, heard]
  cases told : event.heard? <;> simp [told]

end World

namespace Source

open Layer

variable {ρ : Type} [ReadPeer ρ]

theorem Heard.peer {source last : Source ρ} {world later : World}
    {answers : List (Except IoFault Bytes)} (heard : source.Heard world answers last later)
    {reader : ρ} (live : source = .peer reader) :
    later.heard = world.heard ++ answers ∧ ∃ reader, last = .peer reader := by
  induction heard with
  | nothing aside =>
    refine ⟨?_, reader, live⟩
    rw [World.heard, aside.journal, World.heard, List.append_nil]
  | @call last world between later answers _ wanted aside ih =>
    obtain ⟨told, reader, rfl⟩ := ih
    refine ⟨?_, _, rfl⟩
    rw [World.heard, aside.journal, ← List.append_assoc, ← told]
    exact World.heard_record between _

/-- Buffers put in front of a live source are read out one after the other and then the live source
is, whatever the sizes of the reads. The bytes and hard faults that the reads show, and those that
are still pending in the layers, are the cached bytes and then just what the live source showed;
at most one fault is pending, and then nothing else is. A read that fails finds all buffers read
out. Each read makes at most one call of the live source, whose fault is left out, or waits, only
where the read delivers bytes. -/
theorem cacheAll_replays (live : Source ρ) (handles : List SharedId) (world : World)
    (distinct : handles.Nodup) (apart : ∀ handle ∈ handles, handle ∉ live.handles)
    (sizes : List Nat) :
    let stack := live.cacheAll handles world
    let readings := stack.1.readEach sizes stack.2
    let cached := handles.flatMap world.stores.held
    ∃ answers last layers,
      readings.after = last.behind layers ∧
      live.Heard stack.2 answers last readings.world ∧
      (∀ reader, live = .peer reader → readings.world.heard = world.heard ++ answers) ∧
      readings.answers.flatMap ReadPeer.brought <+:
        cached ++ answers.flatMap ReadPeer.brought ∧
      readings.answers.flatMap Signal.ofAnswer ++ pending layers readings.world.stores =
        cached.map .byte ++ answers.flatMap Signal.ofAnswer ∧
      (faults layers = [] ∨ ∃ fault, pending layers readings.world.stores = [.fault fault]) ∧
      ∀ wanted, let next := readings.after.read wanted readings.world
        (∀ fault, next.answer = .error fault →
          ∀ handle ∈ handles, readings.world.stores.held handle = []) ∧
        ∃ call later, last.Heard readings.world (Option.toList call) later next.world ∧
          (∃ kept, next.after = later.behind kept) ∧
          ∀ fault, call = some (.error fault) →
            next.answer = .error fault ∨ ∃ bytes, next.answer = .ok bytes ∧ bytes ≠ [] := by
  intro stack readings cached
  obtain ⟨layered, stores, journal⟩ := live.cacheAll_layered handles world
  have order : live.Stacked (full (unread world.stores handles)) stack.2.stores := by
    rw [show stack.2.stores = _ from stores]
    exact live.stacked_unread handles world.stores distinct apart
  obtain ⟨answers, last, layers, replays⟩ := live.replays_readEach _ sizes stack.2 order
  rw [← show stack.1 = _ from layered] at replays
  have flow := replays.flow
  rw [show stack.2.stores = _ from stores, pending_unread] at flow
  refine ⟨answers, last, layers, replays.after, replays.heard, ?_, ?_, flow, ?_, ?_⟩
  · intro reader same
    rw [(replays.heard.peer same).1, World.heard, show stack.2.journal = _ from journal,
      World.heard]
  · have bytes := congrArg (List.filterMap Signal.byte?) flow
    rw [List.filterMap_append, List.filterMap_append, Signal.filterMap_ofAnswers,
      Signal.filterMap_ofAnswers, Signal.filterMap_byte?] at bytes
    exact ⟨_, bytes⟩
  · rcases replays.stacked.parked with quiet | ⟨fault, single, _, empty⟩
    · exact .inl quiet
    · refine .inr ⟨fault, ?_⟩
      rw [pending, empty, single]
      rfl
  · intro wanted next
    obtain ⟨call, later, kept, reading⟩ :=
      last.replays_read layers wanted readings.world replays.stacked
    rw [← replays.after] at reading
    refine ⟨?_, call, later, reading.heard, ⟨kept, reading.after⟩, reading.noted⟩
    -- A fault is shown only once no layer has a buffer, and a layer gives up none with bytes in it.
    intro fault failed handle member
    have before : handle ∈ buffers (full (unread world.stores handles)) ∨
        handle ∉ (live.behind (full (unread world.stores handles))).handles ∧
          stack.2.stores.held handle = [] := by
      rw [handles_behind, buffers_full, show stack.2.stores = _ from stores, List.mem_append,
        mem_unread]
      by_cases empty : world.stores.held handle = []
      · exact .inr ⟨by simp [empty, apart handle member], empty⟩
      · exact .inl ⟨member, empty⟩
    rcases replays.spent handle before with inside | ⟨_, empty⟩
    · rw [(reading.failed fault failed).1] at inside
      cases inside
    · exact empty

/-- A reader that is reset before it gives a byte. -/
def resetReader : RehearsedReader :=
  ⟨1, [.fail (.plain .connectionReset), .deliver [4]], .ended⟩

def stockedWorld : World := ((World.initial.share (.ofBytes [1, 2])).2.share (.ofBytes [3])).2

/-- The fault comes once, after the cached bytes and before the live one. -/
theorem cacheAll_replays_reset :
    [0, 1].Nodup ∧ (∀ handle ∈ [0, 1], handle ∉ (peer resetReader).handles) ∧
    let stack := (peer resetReader).cacheAll [0, 1] stockedWorld
    let readings := stack.1.readEach [1, 5, 5, 5] stack.2
    readings.answers = [.ok [1], .ok [2, 3], .error (.plain .connectionReset), .ok [4]] ∧
    ∃ answers last layers,
      (peer resetReader).Heard stack.2 answers last readings.world ∧
      readings.answers.flatMap Signal.ofAnswer ++ pending layers readings.world.stores =
        [1, 2, 3].map .byte ++ answers.flatMap Signal.ofAnswer := by
  have distinct : [0, 1].Nodup := by decide
  have apart : ∀ handle ∈ [0, 1], handle ∉ (peer resetReader).handles := fun _ _ => nofun
  refine ⟨distinct, apart, rfl, ?_⟩
  obtain ⟨answers, last, layers, _, heard, _, _, flow, _⟩ :=
    cacheAll_replays (peer resetReader) [0, 1] stockedWorld distinct apart [1, 5, 5, 5]
  exact ⟨answers, last, layers, heard, flow⟩

end Source

end Conduit
