import Conduit.Proofs.Sink.Conduct

set_option autoImplicit false

namespace Conduit

namespace SinkCall

/-- The bytes that a call took. A handshake that claims more than it was offered fails, and took
nothing. -/
def taken : SinkCall → Bytes
  | .write _ offered (.ok count) => offered.take count
  | .feed offered (.ok count) => if count ≤ offered.length then offered.take count else []
  | _ => []

end SinkCall

/-- How many bytes were taken, as the answer to a write has it. -/
def WritePeer.took : Except IoFault Nat → Nat
  | .ok taken => taken
  | .error _ => 0

namespace Watched

variable {σ : Type} {depth : Nat}

/-- The bytes that a sink took so far. -/
def given (watched : Watched σ depth) : Bytes := watched.calls.flatMap SinkCall.taken

@[simp] theorem given_answered (watched : Watched σ depth) (sink : Sink σ depth)
    (call : SinkCall) : (watched.answered sink call).given = watched.given ++ call.taken := by
  simp [given]

variable [WritePeer σ]

theorem given_greet (watched : Watched σ depth) (world : World) :
    (watched.greet world).after.given = watched.given :=
  (given_answered _ _ _).trans (List.append_nil _)

theorem given_feed (watched : Watched σ depth) (bytes : Bytes) (world : World) :
    (watched.feed bytes world).after.given =
      watched.given ++ (SinkCall.feed bytes (watched.feed bytes world).answer).taken :=
  given_answered _ _ _

theorem given_write (watched : Watched σ depth) (bytes : Bytes) (world : World) :
    (watched.write bytes world).after.given =
      watched.given ++ bytes.take (WritePeer.took (watched.write bytes world).answer) := by
  refine (given_answered _ _ (.write _ bytes (watched.write bytes world).answer)).trans ?_
  cases (watched.write bytes world).answer <;> rfl

/-- Calls of a watched sink that took these bytes, and what they did to it and its world. -/
structure Gives (watched : Watched σ depth) (world : World) (bytes : Bytes)
    (later : Watched σ depth) (after : World) : Prop where
  becomes : watched.sink.Becomes world later.sink after
  calls : ∃ more, later.calls = watched.calls ++ more ∧ more.flatMap SinkCall.taken = bytes

namespace Gives

theorem refl (watched : Watched σ depth) (world : World) : Gives watched world [] watched world :=
  ⟨.refl watched.sink world, [], (List.append_nil _).symm, rfl⟩

theorem trans {watched middle later : Watched σ depth} {world between after : World}
    {early late : Bytes} (first : Gives watched world early middle between)
    (second : Gives middle between late later after) :
    Gives watched world (early ++ late) later after := by
  obtain ⟨more, grown, took⟩ := first.calls
  obtain ⟨further, regrown, retook⟩ := second.calls
  refine ⟨first.becomes.trans second.becomes, more ++ further, ?_, ?_⟩
  · rw [regrown, grown, List.append_assoc]
  · rw [List.flatMap_append, took, retook]

theorem call {watched : Watched σ depth} {world after : World} {later : Sink σ depth}
    (becomes : watched.sink.Becomes world later after) (call : SinkCall) :
    Gives watched world call.taken (watched.answered later call) after :=
  ⟨becomes, [call], calls_answered watched later call, by simp⟩

end Gives

variable (watched : Watched σ depth) (world : World)

theorem greet_gives :
    Gives watched world [] (watched.greet world).after (watched.greet world).world :=
  Gives.call (Sink.greet_becomes watched.sink world) (.greet _)

/-- A handshake takes what it says it took, if that is no more than it was offered. -/
theorem feed_gives (offered : Bytes) :
    Gives watched world (SinkCall.feed offered (watched.feed offered world).answer).taken
      (watched.feed offered world).after (watched.feed offered world).world :=
  Gives.call (Sink.feed_becomes watched.sink offered world) (.feed offered _)

/-- A write that succeeds takes what it says it took. -/
theorem write_gives {offered : Bytes} {taken : Nat} (modest : watched.sink.Modest)
    (success : (watched.write offered world).answer = .ok taken) :
    taken ≤ offered.length ∧ Gives watched world (offered.take taken)
      (watched.write offered world).after (watched.write offered world).world := by
  have takes := Sink.write_takes depth watched.sink offered world
  have call : Gives watched world
      (SinkCall.write watched.handshake? offered (watched.write offered world).answer).taken
      (watched.write offered world).after (watched.write offered world).world :=
    Gives.call takes.becomes (.write _ _ _)
  rw [success] at call
  exact ⟨takes.fits modest taken success, call⟩

/-- A write that fails takes nothing, and the fault of an orderly sink is no end of a stream. -/
theorem write_fails {offered : Bytes} {fault : IoFault}
    (failed : (watched.write offered world).answer = .error fault) :
    (watched.sink.Orderly → ¬ fault.EndsStream) ∧ Gives watched world []
      (watched.write offered world).after (watched.write offered world).world := by
  have takes := Sink.write_takes depth watched.sink offered world
  have call : Gives watched world
      (SinkCall.write watched.handshake? offered (watched.write offered world).answer).taken
      (watched.write offered world).after (watched.write offered world).world :=
    Gives.call takes.becomes (.write _ _ _)
  rw [failed] at call
  exact ⟨fun orderly => takes.candid orderly fault failed, call⟩

end Watched

namespace Sink

variable {σ : Type} {depth : Nat}

@[simp] theorem handles_uncounted (sink : Sink σ depth) :
    sink.uncounted.1.2.handles = sink.handles := by
  induction sink with
  | peer | descriptor | shared | plain | staged => rfl
  | counted _ _ _ ih => exact ih

@[simp] theorem modest_uncounted [WritePeer σ] (sink : Sink σ depth) :
    sink.uncounted.1.2.Modest ↔ sink.Modest := by
  induction sink with
  | peer | descriptor | shared | plain | staged => exact Iff.rfl
  | counted _ _ _ ih => exact ih

@[simp] theorem orderly_uncounted [WritePeer σ] (sink : Sink σ depth) :
    sink.uncounted.1.2.Orderly ↔ sink.Orderly := by
  induction sink with
  | peer | descriptor | shared | plain | staged => exact Iff.rfl
  | counted _ _ _ ih => exact ih

end Sink

end Conduit
