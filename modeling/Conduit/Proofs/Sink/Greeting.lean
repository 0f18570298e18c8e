import Conduit.Proofs.Sink.Giving

set_option autoImplicit false

namespace Conduit

namespace WritePeer

variable {σ : Type} [WritePeer σ]

/-- What is asked of writers whose handshake wants some bytes: calls take as many of these as they
are offered, and writes after them never fail, nor take nothing too often in a row. -/
structure Greeting (Stays : σ → Nat → Nat → Prop) : Prop where
  pending : ∀ {writer wants slack}, Stays writer wants slack →
    WritePeer.handshake writer = if wants = 0 then none else some .buffered
  feed : ∀ {writer wants slack bytes}, Stays writer wants slack → 0 < wants → bytes ≠ [] →
    (WritePeer.feed writer bytes).1 = .ok (min wants bytes.length) ∧ ∃ more ≤ stallLimit,
      Stays (WritePeer.feed writer bytes).2 (wants - bytes.length) more
  /-- A write succeeds, and after one that took nothing there are fewer of these to come. -/
  write : ∀ {writer slack bytes}, Stays writer 0 slack → bytes ≠ [] →
    ∃ taken more, (WritePeer.write writer bytes).1 = .ok taken ∧
      (if taken = 0 then more < slack else more ≤ stallLimit) ∧
      Stays (WritePeer.write writer bytes).2 0 more

/-- The handshake of a writer wants so many bytes, and the next writes may take nothing so many
times in a row. -/
def Greets (writer : σ) (wants slack : Nat) : Prop :=
  slack ≤ stallLimit ∧ ∃ Stays : σ → Nat → Nat → Prop, Greeting Stays ∧ Stays writer wants slack

namespace Greets

variable {writer : σ} {wants slack : Nat} {bytes : Bytes}

theorem pending (greets : Greets writer wants slack) :
    WritePeer.handshake writer = if wants = 0 then none else some .buffered := by
  obtain ⟨_, Stays, greeting, stays⟩ := greets
  exact greeting.pending stays

theorem feed (greets : Greets writer wants slack) (pending : 0 < wants) (some : bytes ≠ []) :
    (WritePeer.feed writer bytes).1 = .ok (min wants bytes.length) ∧
      ∃ more, Greets (WritePeer.feed writer bytes).2 (wants - bytes.length) more := by
  obtain ⟨_, Stays, greeting, stays⟩ := greets
  obtain ⟨answer, more, fits, on⟩ := greeting.feed stays pending some
  exact ⟨answer, more, fits, Stays, greeting, on⟩

theorem write (greets : Greets writer 0 slack) (some : bytes ≠ []) :
    ∃ taken more, (WritePeer.write writer bytes).1 = .ok taken ∧ (taken = 0 → more < slack) ∧
      Greets (WritePeer.write writer bytes).2 0 more := by
  obtain ⟨fits, Stays, greeting, stays⟩ := greets
  obtain ⟨taken, more, answer, bound, on⟩ := greeting.write stays some
  refine ⟨taken, more, answer, ?_, ?_, Stays, greeting, on⟩
  · intro none
    rwa [if_pos none] at bound
  · split at bound
    · omega
    · exact bound

end Greets

end WritePeer

namespace SinkCall

/-- Bytes were offered to a handshake. -/
def Feeds : SinkCall → Prop
  | .feed _ _ => True
  | _ => False

/-- Bytes were offered as data. -/
def Writes : SinkCall → Prop
  | .write _ _ _ => True
  | _ => False

/-- The calls of a handshake that wants `wants` bytes, of which it still wants `left`, and, once it
has them all, writes. -/
structure Transcript (wants left : Nat) (calls fed written : List SinkCall) : Prop where
  order : calls = fed ++ written
  feeds : ∀ call ∈ fed, call.Feeds
  writes : ∀ call ∈ written, call.Writes
  taken : (fed.flatMap SinkCall.taken).length + left = wants
  silent : 0 < left → written = []

namespace Transcript

variable {wants left : Nat} {calls fed written : List SinkCall}

theorem feed {offered : Bytes} {answer : Except IoFault Nat}
    (transcript : Transcript wants left calls fed written) (pending : 0 < left)
    {less : Nat} (took : (SinkCall.feed offered answer).taken.length + less = left) :
    Transcript wants less (calls ++ [.feed offered answer]) (fed ++ [.feed offered answer]) [] where
  order := by rw [transcript.order, transcript.silent pending, List.append_nil, List.append_nil]
  feeds := by
    intro call inside
    rcases List.mem_append.mp inside with before | last
    · exact transcript.feeds call before
    · rw [List.mem_singleton.mp last]
      trivial
  writes := fun _ absurd => nomatch absurd
  taken := by
    have sum := transcript.taken
    rw [List.flatMap_append, List.length_append, List.flatMap_singleton]
    omega
  silent := fun _ => rfl

theorem write {pending : Option Handshake} {offered : Bytes} {answer : Except IoFault Nat}
    (transcript : Transcript wants 0 calls fed written) :
    Transcript wants 0 (calls ++ [.write pending offered answer]) fed
      (written ++ [.write pending offered answer]) where
  order := by rw [transcript.order, List.append_assoc]
  feeds := transcript.feeds
  writes := by
    intro call inside
    rcases List.mem_append.mp inside with before | last
    · exact transcript.writes call before
    · rw [List.mem_singleton.mp last]
      trivial
  taken := transcript.taken
  silent := fun absurd => (Nat.lt_irrefl 0 absurd).elim

end Transcript

end SinkCall

namespace Watched

variable {σ : Type} [WritePeer σ]

/-- A watched writer whose handshake wanted `wants` bytes and still wants `left`. -/
def Greeted (wants : Nat) (watched : Watched σ 0) (left slack : Nat) : Prop :=
  (∃ writer, watched.sink = .peer writer ∧ WritePeer.Greets writer left slack) ∧
    ∃ fed written, SinkCall.Transcript wants left watched.calls fed written

namespace Greeted

variable {wants left slack : Nat} {watched : Watched σ 0} {offered : Bytes}

theorem handshake (greeted : Greeted wants watched left slack) :
    watched.handshake? = if left = 0 then none else some .buffered := by
  obtain ⟨⟨writer, same, greets⟩, _⟩ := greeted
  rw [handshake?, same]
  exact greets.pending

theorem eq_zero (greeted : Greeted wants watched left slack)
    (finished : watched.handshake? = none) : left = 0 := by
  have handshake := greeted.handshake
  rw [finished] at handshake
  by_contra some
  rw [if_neg some] at handshake
  cases handshake

theorem pos {kind : Handshake} (greeted : Greeted wants watched left slack)
    (pending : watched.handshake? = some kind) : kind = .buffered ∧ 0 < left := by
  have handshake := greeted.handshake
  rw [pending] at handshake
  split at handshake
  · cases handshake
  · cases handshake
    exact ⟨rfl, by omega⟩

theorem feed (greeted : Greeted wants watched left slack) (pending : 0 < left)
    (some : offered ≠ []) (world : World) :
    (watched.feed offered world).answer = .ok (min left offered.length) ∧
      ∃ more, Greeted wants (watched.feed offered world).after (left - offered.length) more := by
  obtain ⟨sink, latestFirst⟩ := watched
  obtain ⟨⟨writer, rfl, greets⟩, fed, written, transcript⟩ := greeted
  obtain ⟨answer, more, on⟩ := greets.feed pending some
  have grown : (Watched.feed ⟨.peer writer, latestFirst⟩ offered world).after.calls =
      _ ++ [.feed offered (WritePeer.feed writer offered).1] := calls_answered _ _ _
  have least : min left offered.length ≤ offered.length := Nat.min_le_right _ _
  rw [answer] at grown
  refine ⟨answer, more, ⟨_, rfl, on⟩, _, _, grown ▸ transcript.feed pending ?_⟩
  rw [SinkCall.taken, if_pos least, List.length_take_of_le least]
  omega

theorem write (greeted : Greeted wants watched 0 slack) (some : offered ≠ []) (world : World) :
    ∃ taken more, (watched.write offered world).answer = .ok taken ∧ (taken = 0 → more < slack) ∧
      Greeted wants (watched.write offered world).after 0 more := by
  obtain ⟨sink, latestFirst⟩ := watched
  obtain ⟨⟨writer, rfl, greets⟩, fed, written, transcript⟩ := greeted
  obtain ⟨taken, more, answer, fewer, on⟩ := greets.write some
  have grown : (Watched.write ⟨.peer writer, latestFirst⟩ offered world).after.calls =
      _ ++ [.write (WritePeer.handshake writer) offered (WritePeer.write writer offered).1] :=
    calls_answered _ _ _
  exact ⟨taken, more, answer, fewer, ⟨_, rfl, on⟩, fed, _, grown ▸ transcript.write⟩

/-- The sink stands all the stalls of such a writer. -/
theorem slack_le (greeted : Greeted wants watched left slack) : slack ≤ stallLimit := by
  obtain ⟨⟨_, _, fits, _⟩, _⟩ := greeted
  exact fits

theorem drain (counters : List Counter) (buffer : Buffer) (world : World)
    (greeted : Greeted wants watched 0 slack) (some : buffer.unread ≠ []) :
    let drained := buffer.drain Watched.write counters watched world
    (∃ total, drained.result = .ok total) ∧ ∃ more, Greeted wants drained.sink 0 more := by
  have rule : Buffer.DrainRule Watched.write counters fun patience _ _ (sink : Watched σ 0) _ =>
      ∃ slack, slack < patience ∧ Greeted wants sink 0 slack := by
    refine ⟨?_, ?_, ?_⟩
    · rintro patience left reported sink world ⟨slack, fits, greeted⟩ some stalls
      obtain ⟨taken, more, answer, fewer, on⟩ := greeted.write some world
      rw [answer] at stalls
      have sooner := fewer stalls
      exact ⟨more, by omega, on⟩
    · rintro patience left reported sink world less ⟨slack, fits, greeted⟩ some _
      obtain ⟨_, more, _, _, on⟩ := greeted.write some world
      exact ⟨more, Nat.lt_succ_of_le on.slack_le, on⟩
    · rintro patience left reported sink world fault ⟨slack, fits, greeted⟩ some failed _
      obtain ⟨taken, more, answer, _⟩ := greeted.write some world
      rw [answer] at failed
      cases failed
  have ends := rule.drain buffer watched world some
    ⟨slack, Nat.lt_succ_of_le greeted.slack_le, greeted⟩
  cases result : (buffer.drain Watched.write counters watched world).result with
  | ok total =>
    obtain ⟨_, _, more, _, on⟩ := ends.ok result
    exact ⟨⟨total, result⟩, more, on⟩
  | error fault =>
    obtain ⟨⟨_, absurd, _⟩, _⟩ := ends.error result
    exact (Nat.not_lt_zero _ absurd).elim

end Greeted

end Watched

end Conduit
