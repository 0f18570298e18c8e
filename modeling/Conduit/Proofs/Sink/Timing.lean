import Conduit.Proofs.Sink.Conduct

set_option autoImplicit false

namespace Conduit

namespace SinkCall

/-- No data was offered while a handshake was pending. -/
def Timely : SinkCall → Prop
  | .write pending _ _ => pending = none
  | _ => True

instance (call : SinkCall) : Decidable call.Timely :=
  match call with
  | .write pending _ _ => inferInstanceAs (Decidable (pending = none))
  | .greet _ => .isTrue trivial
  | .feed _ _ => .isTrue trivial

end SinkCall

namespace WritePeer

variable {σ : Type} [WritePeer σ]

/-- Writes do not bring a handshake back that is over. -/
def Concludes (writer : σ) : Prop :=
  ∀ later bytes, Reaches writer later → WritePeer.handshake later = none →
    WritePeer.handshake (WritePeer.write later bytes).2 = none

/-- A writer's handshake, offered bytes over and over, took all of them and is not over. -/
inductive Served (writer : σ) : σ → Prop where
  | start : Served writer writer
  | fed {later : σ} {bytes : Bytes} (served : Served writer later)
    (pending : WritePeer.handshake later = some .buffered) (some : bytes ≠ [])
    (all : (WritePeer.feed later bytes).1 = .ok bytes.length)
    (still : (WritePeer.handshake (WritePeer.feed later bytes).2).isSome = true) :
    Served writer (WritePeer.feed later bytes).2

theorem Served.reaches {writer later : σ} (served : Served writer later) :
    Reaches writer later := by
  induction served with
  | start => exact .still writer
  | fed _ _ _ _ _ ih => exact .feed _ ih

/-- A handshake without input is over when it succeeded, and one that takes bytes when it left
some. -/
structure Prompt (writer : σ) : Prop where
  greeted : ∀ later, Served writer later → WritePeer.handshake later = some .plain →
    (WritePeer.greet later).1 = .ok () → WritePeer.handshake (WritePeer.greet later).2 = none
  fed : ∀ later bytes taken, Served writer later → WritePeer.handshake later = some .buffered →
    (WritePeer.feed later bytes).1 = .ok taken → taken < bytes.length →
      WritePeer.handshake (WritePeer.feed later bytes).2 = none

end WritePeer

namespace Sink

variable {σ : Type} {depth : Nat}

/-- The writer of a sink without layers. -/
def writer? : Sink σ depth → Option σ
  | .peer writer => some writer
  | _ => none

variable [WritePeer σ] {sink : Sink σ depth} {writer : σ}

theorem handshake_eq (sink : Sink σ depth) :
    sink.handshake? = sink.writer?.bind WritePeer.handshake := by
  cases sink <;> rfl

theorem writer_of_handshake {kind : Handshake} (pending : sink.handshake? = some kind) :
    ∃ writer, sink.writer? = some writer ∧ WritePeer.handshake writer = some kind := by
  rw [handshake_eq, Option.bind_eq_some_iff] at pending
  exact pending

theorem greet_writer (same : sink.writer? = some writer) (world : World) :
    (sink.greet world).answer = (WritePeer.greet writer).1 ∧
      (sink.greet world).after.writer? = some (WritePeer.greet writer).2 ∧
      (sink.greet world).world.stores = world.stores := by
  cases sink with
  | peer other =>
    cases same
    exact ⟨rfl, rfl, rfl⟩
  | descriptor | shared | counted | plain | staged => cases same

theorem feed_writer (same : sink.writer? = some writer) (bytes : Bytes) (world : World) :
    (sink.feed bytes world).answer = (WritePeer.feed writer bytes).1 ∧
      (sink.feed bytes world).after.writer? = some (WritePeer.feed writer bytes).2 ∧
      (sink.feed bytes world).world.stores = world.stores := by
  cases sink with
  | peer other =>
    cases same
    exact ⟨rfl, rfl, rfl⟩
  | descriptor | shared | counted | plain | staged => cases same

theorem write_writer (sink : Sink σ depth) (bytes : Bytes) (world : World) :
    (sink.write depth bytes world).after.writer? =
      sink.writer?.map fun writer => (WritePeer.write writer bytes).2 := by
  cases sink with
  | peer | descriptor | shared | plain => rfl
  | counted =>
    simp only [write]
    split <;> rfl
  | staged => rfl

end Sink

namespace Watched

variable {σ : Type} [WritePeer σ] {depth : Nat} {watched : Watched σ depth}

/-- No data was offered too early. -/
def Timely (watched : Watched σ depth) : Prop := ∀ call ∈ watched.calls, call.Timely

omit [WritePeer σ] in
theorem Timely.answered (timely : watched.Timely) (sink : Sink σ depth) {call : SinkCall}
    (again : call.Timely) : (watched.answered sink call).Timely := by
  intro each inside
  simp only [calls_answered, List.mem_append, List.mem_singleton] at inside
  rcases inside with before | rfl
  · exact timely each before
  · exact again

/-- The sink needs no handshake, no write brings one back, and no data was offered before. -/
structure Settled (watched : Watched σ depth) : Prop where
  finished : watched.handshake? = none
  concludes : ∀ writer, watched.sink.writer? = some writer → WritePeer.Concludes writer
  timely : watched.Timely

theorem Settled.write (settled : watched.Settled) (bytes : Bytes) (world : World) :
    (watched.write bytes world).after.Settled where
  finished := by
    have finished := settled.finished
    rw [handshake?, Sink.handshake_eq] at finished
    rw [handshake?, Sink.handshake_eq]
    simp only [Watched.write, Called.through, sink_answered, Sink.write_writer]
    cases same : watched.sink.writer? with
    | none => rfl
    | some writer =>
      rw [same] at finished
      exact settled.concludes writer same writer bytes (.still writer) finished
  concludes := by
    intro later same
    simp only [Watched.write, Called.through, sink_answered, Sink.write_writer,
      Option.map_eq_some_iff] at same
    obtain ⟨writer, before, rfl⟩ := same
    intro last more reached
    exact settled.concludes writer before last more
      ((WritePeer.Reaches.write bytes (.still writer)).trans reached)
  timely := settled.timely.answered _ settled.finished

theorem drain_keeps {Kept : Watched σ depth → Prop}
    (keeps : ∀ watched, Kept watched → ∀ bytes world, Kept (watched.write bytes world).after)
    (kept : Kept watched) (counters : List Counter) (buffer : Buffer) (world : World) :
    Kept (buffer.drain Watched.write counters watched world).sink := by
  by_cases empty : buffer.unread = []
  · rw [Buffer.drain_of_empty _ _ _ _ empty]
    exact kept
  · have rule : Buffer.DrainRule Watched.write counters fun _ _ _ (sink : Watched σ depth) _ =>
        Kept sink :=
      .steady (fun kept _ _ => keeps _ kept _ _) (fun kept _ _ => keeps _ kept _ _)
    obtain ⟨_, kept⟩ := (rule.drain buffer watched world empty kept).holds
    exact kept

/-- The sink is a writer that was prompt once, and since then its handshake took all that it was
offered. -/
structure Serving (watched : Watched σ depth) : Prop where
  served : ∃ first later, WritePeer.Prompt first ∧ WritePeer.Concludes first ∧
    watched.sink.writer? = some later ∧ WritePeer.Served first later
  timely : watched.Timely

theorem Serving.settled (serving : watched.Serving) (finished : watched.handshake? = none) :
    watched.Settled := by
  obtain ⟨first, later, _, concludes, same, served⟩ := serving.served
  refine ⟨finished, ?_, serving.timely⟩
  intro writer found
  rw [same] at found
  cases found
  exact fun last bytes reached => concludes last bytes (served.reaches.trans reached)

/-- A handshake without input settles the sink. -/
theorem Serving.greet (serving : watched.Serving) (pending : watched.handshake? = some .plain)
    (world : World) (success : (watched.greet world).answer = .ok ()) :
    (watched.greet world).after.Settled := by
  obtain ⟨first, later, prompt, concludes, same, served⟩ := serving.served
  obtain ⟨answer, kept, _⟩ := Sink.greet_writer same world
  rw [handshake?, Sink.handshake_eq, same] at pending
  refine ⟨?_, ?_, serving.timely.answered _ trivial⟩
  · rw [handshake?, Sink.handshake_eq]
    simp only [Watched.greet, Called.through, sink_answered, kept]
    exact prompt.greeted later served pending (answer.symm.trans success)
  · intro writer found
    simp only [Watched.greet, Called.through, sink_answered, kept] at found
    cases found
    intro last bytes reached
    have greeted := WritePeer.Reaches.greet (.still later)
    exact concludes last bytes (served.reaches.trans (greeted.trans reached))

/-- Data was offered while a handshake was pending. -/
def Hasty (watched : Watched σ depth) : Prop := ∃ call ∈ watched.calls, ¬ call.Timely

omit [WritePeer σ] in
theorem Hasty.answered (hasty : watched.Hasty) (sink : Sink σ depth) (call : SinkCall) :
    (watched.answered sink call).Hasty := by
  obtain ⟨early, inside, bad⟩ := hasty
  exact ⟨early, by simp [inside], bad⟩

theorem hasty_write (pending : watched.handshake?.isSome = true) (bytes : Bytes) (world : World) :
    (watched.write bytes world).after.Hasty := by
  refine ⟨.write watched.handshake? bytes (watched.sink.write depth bytes world).answer,
    by simp [Watched.write, Called.through], fun none => ?_⟩
  rw [show watched.handshake? = _ from none] at pending
  cases pending

theorem Hasty.write (hasty : watched.Hasty) (bytes : Bytes) (world : World) :
    (watched.write bytes world).after.Hasty :=
  hasty.answered _ _

theorem hasty_drain (pending : watched.handshake?.isSome = true) (counters : List Counter)
    (buffer : Buffer) (world : World) (some : buffer.unread ≠ []) :
    (buffer.drain Watched.write counters watched world).sink.Hasty := by
  -- Before the first write the drain has all its patience and bytes to write, which it does not
  -- have any more where it ends.
  have rule : Buffer.DrainRule Watched.write counters fun patience left _
      (sink : Watched σ depth) _ =>
      (patience ≠ 0 ∧ left ≠ [] ∧ sink.handshake?.isSome = true) ∨ sink.Hasty := by
    refine ⟨?_, ?_, ?_⟩
    · rintro patience left _ sink world (⟨_, _, pending⟩ | hasty) _ _
      · exact .inr (hasty_write pending _ _)
      · exact .inr (hasty.answered _ _)
    · rintro patience left _ sink world _ (⟨_, _, pending⟩ | hasty) _ _
      · exact .inr (hasty_write pending _ _)
      · exact .inr (hasty.answered _ _)
    · rintro patience left _ sink world _ (⟨_, _, pending⟩ | hasty) _ _ _
      · exact .inr (hasty_write pending _ _)
      · exact .inr (hasty.answered _ _)
  have ends := rule.drain buffer watched world some (.inl ⟨by omega, some, pending⟩)
  cases result : (buffer.drain Watched.write counters watched world).result with
  | ok total =>
    obtain ⟨_, _, ⟨_, absurd, _⟩ | hasty⟩ := ends.ok result
    · exact (absurd rfl).elim
    · exact hasty
  | error fault =>
    obtain ⟨⟨absurd, _, _⟩ | hasty, _⟩ := ends.error result
    · exact (absurd rfl).elim
    · exact hasty

end Watched

end Conduit
