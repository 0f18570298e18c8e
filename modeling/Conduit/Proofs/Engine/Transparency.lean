import Conduit.Proofs.Engine.Haste
import Conduit.Proofs.Engine.Mirroring

set_option autoImplicit false

namespace Conduit

namespace Sink

variable {σ : Type} {depth : Nat}

/-- A sink under counting layers, the innermost one first. -/
def under (sink : AnySink σ) (layers : List (List Counter)) : AnySink σ := layers.foldl layered sink

theorem wraps_under (sink : Sink σ depth) (layers : List (List Counter)) :
    sink.Wraps (under ⟨_, sink⟩ layers).2 := by
  have more (outer : AnySink σ) (wraps : sink.Wraps outer.2) :
      sink.Wraps (under outer layers).2 := by
    induction layers generalizing outer with
    | nil => exact wraps
    | cons counters rest ih => exact ih (layered outer counters) (.layer counters 0 wraps)
  exact more ⟨_, sink⟩ .bare

/-- Taking the counting layers off leaves what lies beneath them. -/
theorem Wraps.uncounted {outer : Nat} {bare : Sink σ depth} {sink : Sink σ outer}
    (wraps : bare.Wraps sink) : sink.uncounted.1 = bare.uncounted.1 := by
  induction wraps with
  | bare => rfl
  | layer _ _ _ ih => exact ih

theorem handshake_under [WritePeer σ] (sink : AnySink σ) {layers : List (List Counter)}
    (some : layers ≠ []) : (under sink layers).2.handshake? = none := by
  obtain ⟨inner, counters, rfl⟩ := (List.eq_nil_or_concat layers).resolve_left some
  rw [under, List.concat_eq_append, List.foldl_append]
  rfl

end Sink

namespace Engine

variable {ρ σ : Type} [ReadPeer ρ] [WritePeer σ] {depth : Nat} (engine : Engine)

/-- A copy from nothing to a destination without a handshake calls nothing of it, and does not fail
in its early phase. -/
theorem copyCounted_hollow (sink : Sink σ depth) (finished : sink.handshake? = none)
    (counters : CounterSet) (world : World) : ∃ outcome,
      engine.copyCounted ⟨0, 1⟩ sink (.buffer .hollow : Source ρ) counters world = some outcome ∧
        outcome.calls = [] ∧
        ∀ copied (fault : TransferFault),
          outcome.result ≠ .error ⟨copied, fault.within Stage.copyEarly⟩ := by
  have idle : (Watched.fresh sink).handshake? = none := finished
  have early : engine.copyEarly 0 counters 1 (.buffer .hollow : Source ρ)
      ⟨.fresh sink, 0, world⟩ = some ⟨.ok (.buffer .hollow), ⟨.fresh sink, 0, world⟩⟩ := by
    simp only [copyEarly, handshakeRound, idle]
    rfl
  obtain ⟨step, bulk, same⟩ := copyBuffered_hollow (ρ := ρ) engine 0
    ⟨[] ++ counters.read, counters.write⟩ 0
    ((⟨.fresh sink, 0, world⟩ : Course σ depth).inWorld
      (world.notice (.phase Stage.copyEarly 0)))
  simp only [copyCounted, early, Source.uncounted]
  rw [copyPure_eq_copyBuffered ⟨0, 0 + 1⟩ _ _ _ (.inr (.inl rfl)), bulk]
  dsimp only
  split
  · refine ⟨_, rfl, ?_, ?_⟩
    · rw [failed, same]
      rfl
    · intro copied fault alike
      injection alike with alike
      injection alike with _ alike
      injection alike with tags
      exact absurd tags (by decide)
  · refine ⟨_, rfl, ?_, ?_⟩
    · rw [same]
      rfl
    · rintro copied fault ⟨⟩

/-- A copy to a destination that needs a handshake asks for it first, even when there is nothing to
copy. -/
theorem copyCounted_asks {sink : Sink σ depth} {kind : Handshake}
    (pending : sink.handshake? = some kind) {counters : CounterSet} {world : World}
    {outcome : CopyOutcome}
    (ended : engine.copyCounted ⟨0, 1⟩ sink (.buffer .hollow : Source ρ) counters world =
      some outcome) :
    outcome.calls ≠ [] ∨
      ∃ copied, ∃ fault : TransferFault,
        outcome.result = .error ⟨copied, fault.within Stage.copyEarly⟩ := by
  obtain ⟨step, early, _⟩ := copyEarly_hollow (ρ := ρ) engine 0 counters 0
    (⟨.fresh sink, 0, world⟩ : Course σ depth)
  -- The source is empty, so that the first round already asks for the handshake or fails.
  have asked : (∃ fault, step.result = .error fault) ∨ step.after.sink.latestFirst ≠ [] := by
    have needs : (Watched.fresh sink).handshake? = some kind := pending
    have bare : (.buffer .hollow : Source ρ).pick = (.buffer .hollow, none) := rfl
    rw [copyEarly, handshakeRound, needs] at early
    cases kind with
    | plain =>
      cases answer : ((Watched.fresh sink).greet world).answer with
      | ok done =>
        simp only [answer, Bool.false_and, Bool.false_eq_true, if_false, bare] at early
        cases early
        exact .inr (List.cons_ne_nil _ _)
      | error fault =>
        simp only [answer] at early
        cases early
        exact .inl ⟨_, rfl⟩
    | buffered =>
      obtain ⟨fault, rest, after, fetch⟩ := readGreeting_hollow (ρ := ρ) engine 0 world
      simp only [feedRound, greetingBytes, bare, fetch, Option.map_some] at early
      cases early
      exact .inl ⟨_, rfl⟩
  cases result : step.result with
  | error fault =>
    obtain ⟨_, course⟩ := step
    cases result
    simp only [copyCounted, early] at ended
    cases ended
    exact .inr ⟨course.copied, fault, rfl⟩
  | ok middle =>
    have called : step.after.sink.latestFirst ≠ [] := by
      rcases asked with ⟨fault, failed⟩ | called
      · rw [result] at failed
        cases failed
      · exact called
    have lasts (watched : Watched σ depth) (_ : watched.latestFirst ≠ []) (bytes : Bytes)
        (world : World) : (watched.write bytes world).after.latestFirst ≠ [] :=
      List.cons_ne_nil _ _
    rcases copyCounted_calls lasts ⟨0, 1⟩ sink (.buffer .hollow) world early (fun _ _ => called)
        outcome ended with ⟨_, same⟩ | ⟨watched, some, same⟩
    · rw [same]
      exact .inl fun none => called (List.reverse_eq_nil_iff.mp none)
    · rw [same]
      exact .inl fun none => some (List.reverse_eq_nil_iff.mp none)

/-- Counting layers on a destination make no difference to a copy that takes them off, but for the
calls of counters. To one that leaves them on, and goes through a buffer, they make none just when
the destination needs no handshake. Writes are taken not to bring a handshake back that is over. -/
theorem copy_transparent_iff (ρ : Type) [ReadPeer ρ] (engine : Engine) (sink : Sink σ depth)
    (layers : List (List Counter)) (layered : layers ≠ [])
    (concludes : ∀ writer, sink.writer? = some writer → WritePeer.Concludes writer) :
    (∀ (allowance : Allowance) (source : Source ρ) (world : World),
      Option.Rel CopyOutcome.Agrees
        (engine.copy allowance (Sink.under ⟨_, sink⟩ layers).2 source world)
        (engine.copy allowance sink source world)) ∧
    ((∀ (allowance : Allowance) (source : Source ρ) (counters : CounterSet) (world : World),
        engine.spliceEnabled = false ∨ source.far? = none ∨ sink.descriptor? = none →
        Option.Rel CopyOutcome.Agrees
          (engine.copyCounted allowance (Sink.under ⟨_, sink⟩ layers).2 source counters world)
          (engine.copyCounted allowance sink source counters world)) ↔
      sink.handshake? = none) := by
  have wraps := sink.wraps_under layers
  refine ⟨fun allowance source world => ?_, fun transparent => ?_, fun finished => ?_⟩
  · unfold copy
    dsimp only
    rw [wraps.uncounted]
    exact copyCounted_agrees Watched.mirrors_itself allowance _ rfl (.refl world) _ _
      (.inr (.inr fun same => by rw [same]))
  · by_contra pending
    obtain ⟨kind, needs⟩ := Option.ne_none_iff_exists'.mp pending
    obtain ⟨outcome, ended, silent, late⟩ := copyCounted_hollow (ρ := ρ) engine
      (Sink.under ⟨_, sink⟩ layers).2 (Sink.handshake_under ⟨_, sink⟩ layered) ⟨[], []⟩ .initial
    have same := transparent ⟨0, 1⟩ (.buffer .hollow) ⟨[], []⟩ .initial (.inr (.inl rfl))
    rw [ended] at same
    generalize bare : engine.copyCounted ⟨0, 1⟩ sink (.buffer .hollow : Source ρ) ⟨[], []⟩
      .initial = result at same
    cases same with
    | some same =>
      rcases engine.copyCounted_asks needs bare with asked | ⟨copied, fault, failed⟩
      · exact asked (same.calls.symm.trans silent)
      · exact late copied fault (same.result.trans failed)
  · intro allowance source counters world buffers
    have settled : (Watched.fresh sink).Settled :=
      ⟨finished, concludes, fun _ absurd => nomatch absurd⟩
    have beneath : Watched.Beneath sink.descriptor? (.fresh (Sink.under ⟨_, sink⟩ layers).2)
        (.fresh sink) := ⟨wraps, rfl, settled, rfl⟩
    refine copyCounted_agrees Watched.mirrors_beneath allowance source beneath (.refl world)
      counters counters ?_
    refine buffers.imp_right (·.imp_right fun bare watched mirror beneath => ?_)
    rw [bare] at beneath
    exact beneath.bare

/-- Under a counting layer the writer of the sample makes no difference to a copy that takes the
layer off, but to one that leaves it on. -/
theorem copy_transparent_iff_sample :
    Option.Rel CopyOutcome.Agrees
      (Sample.engine.copy Sample.allowance (Sink.under ⟨_, .peer Sample.writer⟩ [[⟨"sent"⟩]]).2
        Sample.source Sample.world)
      (Sample.engine.copy Sample.allowance (.peer Sample.writer) Sample.source Sample.world) ∧
    ¬ ∀ (allowance : Allowance) (source : Source RehearsedReader) (counters : CounterSet)
        (world : World),
        Sample.engine.spliceEnabled = false ∨ source.far? = none ∨
          (.peer Sample.writer : Sink RehearsedWriter 0).descriptor? = none →
        Option.Rel CopyOutcome.Agrees
          (Sample.engine.copyCounted allowance
            (Sink.under ⟨_, .peer Sample.writer⟩ [[⟨"sent"⟩]]).2 source counters world)
          (Sample.engine.copyCounted allowance (.peer Sample.writer) source counters world) := by
  obtain ⟨taken, left⟩ := copy_transparent_iff RehearsedReader Sample.engine (.peer Sample.writer)
    [[⟨"sent"⟩]] (List.cons_ne_nil _ _) (fun writer _ => writer.concludes)
  refine ⟨taken Sample.allowance Sample.source Sample.world, fun transparent => ?_⟩
  have finished := left.mp transparent
  cases finished

/-- Its handshake is not offered any bytes through a layer that is left on, and four without. -/
theorem copyCounted_hidden_sample :
    ((Sample.engine.copyCounted Sample.allowance
        (Sink.under ⟨_, .peer Sample.writer⟩ [[⟨"sent"⟩]]).2 Sample.source ⟨[], []⟩
        Sample.world).map fun outcome =>
      (outcome.world.journal.events.flatMap (Event.greeting 2),
        outcome.world.journal.events.flatMap (Event.delivered 2))) =
      some ([], [1, 2, 3, 4, 5, 6]) ∧
    ((Sample.engine.copyCounted Sample.allowance (.peer Sample.writer) Sample.source ⟨[], []⟩
        Sample.world).map fun outcome =>
      (outcome.world.journal.events.flatMap (Event.greeting 2),
        outcome.world.journal.events.flatMap (Event.delivered 2))) =
      some ([1, 2, 3, 4], [5, 6]) := by
  constructor <;> cbv

end Engine

end Conduit
