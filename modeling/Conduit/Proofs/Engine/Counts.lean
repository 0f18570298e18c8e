import Conduit.Proofs.Engine.Delivery

set_option autoImplicit false

namespace Conduit

namespace Source

variable {ρ : Type}

/-- What a counter hears in all when everything in stock passes its layers, and then the bytes that
the live reader gives: for each time it is registered, the number of bytes that lie beneath. -/
def beneath (counter : Counter) : Source ρ → Stores → Bytes → Nat
  | .peer _, _, _ => 0
  | .descriptor _, _, _ => 0
  | .buffer _, _, _ => 0
  | .cached none _ inner, stores, gained => inner.beneath counter stores gained
  | .cached (some handle) _ inner, stores, gained =>
    inner.beneath counter (stores.emptied handle) gained
  | .counted counters _ inner, stores, gained =>
    counters.count counter * (inner.stock stores ++ gained).length +
      inner.beneath counter stores gained
  | .plain inner, stores, gained => inner.beneath counter stores gained

theorem beneath_eq (counter : Counter) (source : Source ρ) (stores : Stores) (gained : Bytes) :
    source.beneath counter stores gained =
      source.due counter stores + source.registered counter * gained.length := by
  induction source generalizing stores with
  | peer | descriptor | buffer => simp [beneath, due, registered]
  | cached layer deferred inner ih =>
    cases layer with
    | none => exact ih stores
    | some handle => exact ih _
  | counted counters total inner ih =>
    rw [beneath, due, registered, ih stores, List.length_append, Nat.mul_add, Nat.add_mul]
    omega
  | plain inner ih => exact ih stores

end Source

namespace Engine

variable {ρ σ : Type} [ReadPeer ρ] [WritePeer σ] {depth : Nat}

/-- A counter that is registered on the destination alone hears of what the copy reports, whether it
fails or not. When the copy succeeds every counter hears, for each time it is registered on the
destination, of all that was copied, and for each time on the source, of what lay beneath. When it
fails, those outside all cached layers of the source hear of what was taken out of it, which is no
less than what was copied and no more than that and a full buffer, and of no more than that unless
they are registered deeper down as well. No counter is called for no bytes. Counters that the
destination hides behind other layers than counting ones are left out. -/
theorem copy_counts (engine : Engine) (allowance : Allowance) (sink : Sink σ depth)
    (source : Source ρ) (world : World) (outcome : CopyOutcome) (reader : source.Orderly)
    (writer : sink.Orderly)
    (apart : ∀ handle ∈ sink.handles, handle ∉ source.handles ∧ handle < world.cells.next)
    (buffers : engine.Buffers source sink)
    (ended : engine.copy allowance sink source world = some outcome) :
    (∀ counter ∉ sink.uncounted.1.2.counters, source.registered counter = 0 →
      outcome.world.tally counter =
        world.tally counter + sink.uncounted.2.count counter * outcome.copied) ∧
    (∃ gained, outcome.world.obtained = world.obtained ++ gained ∧
      ∀ copied, outcome.result = .ok copied → ∀ counter ∉ sink.uncounted.1.2.counters,
        outcome.world.tally counter =
          world.tally counter + sink.uncounted.2.count counter * copied +
            source.beneath counter world.stores gained) ∧
    (∀ fault, outcome.result = .error fault → ∃ taken,
      fault.copied ≤ taken ∧ taken ≤ fault.copied + engine.buffers.hugeSize ∧
        ∀ counter ∉ sink.uncounted.1.2.counters,
          world.tally counter + sink.uncounted.2.count counter * fault.copied +
              source.uncounted.2.count counter * taken ≤ outcome.world.tally counter ∧
            (source.uncounted.1.registered counter = 0 →
              outcome.world.tally counter =
                world.tally counter + sink.uncounted.2.count counter * fault.copied +
                  source.uncounted.2.count counter * taken)) ∧
    outcome.world.emptyCalls = world.emptyCalls := by
  obtain ⟨gained, taken, balanced⟩ :=
    engine.copy_balanced allowance sink source world outcome writer.modest apart buffers ended
  have source_orderly := (Source.orderly_uncounted source).mpr reader
  have sink_orderly := (Sink.orderly_uncounted sink).mpr writer
  refine ⟨?_, ⟨gained, balanced.heard, ?_⟩, ?_, balanced.quiet⟩
  · intro counter outside absent
    obtain ⟨own, told, none, _⟩ := balanced.books counter outside
    have registered := source.registered_uncounted counter
    have outer : source.uncounted.2.count counter = 0 := by omega
    rw [told, none (by omega), outer, Nat.zero_mul]
    rfl
  · intro copied success counter outside
    obtain ⟨own, told, _, all⟩ := balanced.books counter outside
    have reported : outcome.copied = copied := by rw [CopyOutcome.copied, success]
    obtain ⟨whole, same⟩ := balanced.whole source_orderly sink_orderly copied success
    have length := balanced.copied
    rw [whole, reported, Source.stock_uncounted, List.length_append] at length
    have registered := source.registered_uncounted counter
    have due := source.due_uncounted counter world.stores
    rw [told, all source_orderly sink_orderly copied success, same, reported, Source.beneath_eq,
      registered, due, ← length]
    simp only [Nat.mul_add, Nat.add_mul]
    omega
  · intro fault failed
    have reported : outcome.copied = fault.copied := by rw [CopyOutcome.copied, failed]
    refine ⟨taken, reported ▸ balanced.least, reported ▸ balanced.most, ?_⟩
    intro counter outside
    obtain ⟨own, told, none, _⟩ := balanced.books counter outside
    dsimp only at told
    rw [told, reported]
    exact ⟨by omega, fun absent => by rw [none absent]; omega⟩

/-- In the sample the counter on the destination hears of all six bytes, and the one beneath the
cached buffer of those that the live reader gave. -/
theorem copy_counts_sample :
    ∃ outcome gained, Sample.engine.copy Sample.allowance Sample.sink Sample.source Sample.world =
        some outcome ∧
      outcome.world.obtained = Sample.world.obtained ++ gained ∧
      outcome.world.tally ⟨"sent"⟩ = 6 ∧ outcome.world.tally ⟨"live"⟩ = gained.length := by
  obtain ⟨outcome, ended, success⟩ := Sample.copy_ok
  obtain ⟨_, ⟨gained, heard, all⟩, _, _⟩ := copy_counts Sample.engine Sample.allowance Sample.sink
    Sample.source Sample.world outcome Sample.source_orderly Sample.sink_orderly
    (fun _ absurd => nomatch absurd) (.inl rfl) ended
  have sent := all 6 success ⟨"sent"⟩ (fun absurd => nomatch absurd)
  have live := all 6 success ⟨"live"⟩ (fun absurd => nomatch absurd)
  refine ⟨outcome, gained, ended, heard, sent.trans ?_, live.trans ?_⟩
  · simp [Sample.world, Sample.sink, Sample.source, Source.beneath, Sink.uncounted, World.tally,
      World.initial, World.share]
  · simp [Sample.world, Sample.sink, Sample.source, Source.beneath, Sink.uncounted, World.tally,
      World.initial, World.share, Source.stock, Journal.empty, Journal.events]

end Engine

end Conduit
