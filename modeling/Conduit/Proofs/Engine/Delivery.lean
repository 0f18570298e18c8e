import Conduit.Proofs.Engine.CopyLedger
import Conduit.Proofs.Rehearsal.Sample

set_option autoImplicit false

namespace Conduit

namespace Engine

variable {ρ σ : Type} [ReadPeer ρ] [WritePeer σ] {depth : Nat}

/-- The ledger of a copy balances for the ends without their outer counting layers, whose counters
the copy calls itself. -/
theorem copy_balanced (engine : Engine) (allowance : Allowance) (sink : Sink σ depth)
    (source : Source ρ) (world : World) (outcome : CopyOutcome) (modest : sink.Modest)
    (apart : ∀ handle ∈ sink.handles, handle ∉ source.handles ∧ handle < world.cells.next)
    (buffers : engine.Buffers source sink)
    (ended : engine.copy allowance sink source world = some outcome) :
    ∃ gained taken, CopyBalanced ⟨source.uncounted.2, sink.uncounted.2⟩ engine.buffers.hugeSize
      source.uncounted.1 sink.uncounted.1.2 world outcome gained taken := by
  refine copyCounted_balanced allowance _ _ _ world outcome ⟨?_, ?_⟩ ?_ ended
  · exact (Sink.modest_uncounted sink).mpr modest
  · intro handle inside
    rw [Source.handles_uncounted]
    exact apart handle ((Sink.handles_uncounted sink) ▸ inside)
  · rw [Source.far_uncounted]
    exact buffers

/-- The bytes that handshake calls and writes took, in the order of the calls, are the first of
those in stock and those that the live reader gave. They are all of these when the copy succeeds,
which is when the live reader has no more to give, and the copy reports their number in any case.
The destination may be a shared buffer, but none that the source reads from. -/
theorem copy_delivers (engine : Engine) (allowance : Allowance) (sink : Sink σ depth)
    (source : Source ρ) (world : World) (outcome : CopyOutcome) (reader : source.Orderly)
    (writer : sink.Orderly)
    (apart : ∀ handle ∈ sink.handles, handle ∉ source.handles ∧ handle < world.cells.next)
    (buffers : engine.Buffers source sink)
    (ended : engine.copy allowance sink source world = some outcome) :
    ∃ gained, outcome.world.obtained = world.obtained ++ gained ∧
      (∀ live, source.live? = some live → ∃ later, ReadPeer.Run live gained later ∧
        ∀ copied, outcome.result = .ok copied → ReadPeer.Spent later) ∧
      outcome.given <+: source.stock world.stores ++ gained ∧
      (∀ copied, outcome.result = .ok copied →
        outcome.given = source.stock world.stores ++ gained ∧ outcome.given.length = copied) ∧
      ∀ fault, outcome.result = .error fault → outcome.given.length = fault.copied := by
  obtain ⟨gained, taken, balanced⟩ :=
    engine.copy_balanced allowance sink source world outcome writer.modest apart buffers ended
  have source_orderly := (Source.orderly_uncounted source).mpr reader
  have sink_orderly := (Sink.orderly_uncounted sink).mpr writer
  have flow := balanced.flow
  have whole := balanced.whole source_orderly sink_orderly
  have copied := balanced.copied
  rw [Source.stock_uncounted] at flow
  simp only [Source.stock_uncounted] at whole
  refine ⟨gained, balanced.heard, ?_, flow, ?_, ?_⟩
  · intro live found
    obtain ⟨later, run, spent⟩ := balanced.live live ((Source.live_uncounted source).trans found)
    exact ⟨later, run, spent source_orderly sink_orderly⟩
  · intro total success
    exact ⟨(whole total success).1, by rw [copied, CopyOutcome.copied, success]⟩
  · intro fault failed
    rw [copied, CopyOutcome.copied, failed]

/-- The handshake of the sample takes the cached bytes and one more, and the copy delivers all six.
-/
theorem copy_delivers_sample :
    ∃ outcome gained, Sample.engine.copy Sample.allowance Sample.sink Sample.source Sample.world =
        some outcome ∧
      outcome.given = [1, 2, 3] ++ gained ∧ outcome.given.length = 6 := by
  obtain ⟨outcome, ended, success⟩ := Sample.copy_ok
  obtain ⟨gained, _, _, _, whole, _⟩ := copy_delivers Sample.engine Sample.allowance Sample.sink
    Sample.source Sample.world outcome Sample.source_orderly Sample.sink_orderly
    (fun _ absurd => nomatch absurd) (.inl rfl) ended
  exact ⟨outcome, gained, ended, whole 6 success⟩

end Engine

end Conduit
