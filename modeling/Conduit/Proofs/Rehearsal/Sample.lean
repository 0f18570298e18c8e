import Conduit.Engine.Copy
import Conduit.Proofs.Rehearsal.Conduct
import Conduit.Proofs.Sink.Conduct
import Conduit.Proofs.Source.Stock
import Mathlib.Data.List.Permutation

set_option autoImplicit false

namespace Conduit

namespace Sample

/-- An engine with small buffers that does not splice. -/
def engine : Engine := ⟨⟨[], 4, 4⟩, 0, false, 16⟩

def allowance : Allowance := ⟨5, 20⟩

def world : World := (World.initial.share (.ofBytes [1, 2, 3])).2

def reader : RehearsedReader := ⟨1, [.fail (.plain .interrupted), .deliver [4, 5, 6]], .ended⟩

/-- The shared buffer in front of the reader, which is counted. -/
def source : Source RehearsedReader := .cached (some 0) none (.counted [⟨"live"⟩] 0 (.peer reader))

def writer : RehearsedWriter := ⟨2, [.take 1, .take 0], .all, none, none, .buffered [.want 4]⟩

/-- A writer whose handshake takes two bytes at first, whatever it is offered, and then one more. -/
def reluctant : RehearsedWriter :=
  ⟨3, [], .all, none, none, .buffered [.once (.take 2), .once (.take 1)]⟩

def sink : Sink RehearsedWriter 1 := .counted [⟨"sent"⟩] 0 (.peer writer)

theorem eq_ok_of_toOption {ε α : Type} {result : Except ε α} {value : α}
    (found : result.toOption = some value) : result = .ok value := by
  cases result with
  | error _ => cases found
  | ok _ =>
    cases found
    rfl

theorem source_gives : source.Gives [4, 5, 6] 1 := by
  have steady : reader.Steady := by
    refine ⟨?_, rfl⟩
    simp only [reader, List.mem_cons, List.not_mem_nil, or_false]
    rintro cue (rfl | rfl)
    · rfl
    · exact List.cons_ne_nil _ _
  exact ⟨rfl, steady.streams⟩

theorem source_orderly : source.Orderly := source_gives.orderly

theorem writer_orderly : WritePeer.Orderly writer :=
  RehearsedWriter.Proper.orderly ⟨by simp [writer, RehearsedWriter.ProperCue], trivial⟩

theorem writer_greets : WritePeer.Greets writer 4 2 := by
  refine RehearsedWriter.Willing.greets ⟨rfl, rfl, ?_, rfl⟩ (by decide)
  simp [writer, RehearsedWriter.WillingCue]

theorem sink_orderly : sink.Orderly := writer_orderly

theorem copy_ok : ∃ outcome, engine.copy allowance sink source world = some outcome ∧
    outcome.result = .ok 6 := by
  have succeeded : (engine.copy allowance sink source world).map (·.result.toOption) =
      some (some 6) := by cbv
  obtain ⟨outcome, ended, six⟩ := Option.map_eq_some_iff.mp succeeded
  exact ⟨outcome, ended, eq_ok_of_toOption six⟩

end Sample

end Conduit
