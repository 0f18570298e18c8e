import Conduit.Proofs.Source.Stock
import Conduit.Proofs.World.Tenancy

set_option autoImplicit false

namespace Conduit

namespace Source

variable {ρ : Type} [ReadPeer ρ]

theorem Reads.shared_other {source : Source ρ} {wanted : Nat} {world : World}
    {reading : Called (Source ρ) Bytes} (reads : Reads source wanted world reading)
    {handle : SharedId} (outside : handle ∉ source.handles) :
    reading.world.shared handle = world.shared handle := by
  have passed {other : SharedId} (apart : handle ≠ other) (world : World) (wanted : Nat) :
      ((world.readShared other wanted).2.release other).shared handle = world.shared handle := by
    rw [World.shared_release, if_neg (fun same => apart same.1), World.readShared,
      World.shared_setShared, if_neg apart]
  induction reads with
  | peer | descriptor | buffer | deferred | nothing => rfl
  | part =>
    rw [World.readShared, World.shared_setShared, if_neg (List.ne_of_not_mem_cons outside)]
  | whole => exact passed (List.ne_of_not_mem_cons outside) _ _
  | joined _ _ _ ih | kept _ _ _ _ ih | failed _ _ _ ih =>
    exact (ih (List.not_mem_of_not_mem_cons outside)).trans
      (passed (List.ne_of_not_mem_cons outside) _ _)
  | through _ ih | counted _ _ ih | uncounted _ _ ih | plain _ ih => exact ih outside

/-- What is asked of a source that a shared buffer is filled from. A read brings the next bytes of
the stream that is left, or none at its end, if it has one; where it stalls, which it does only so
many times in a row, it loses nothing; and the source and the buffer keep out of each other's way.
-/
structure Flowing (handle : SharedId) (ends : Prop)
    (Stays : Source ρ → World → Bytes → Nat → Prop) : Prop where
  ok : ∀ {source world stream stalls wanted bytes}, Stays source world stream stalls →
    0 < wanted → (source.read wanted world).answer = .ok bytes →
      (bytes = [] → stream = [] ∧ ends) ∧ ∃ rest, stream = bytes ++ rest ∧ (bytes ≠ [] →
        Stays (source.read wanted world).after (source.read wanted world).world rest stallLimit)
  stalled : ∀ {source world stream stalls wanted fault}, Stays source world stream stalls →
    0 < wanted → (source.read wanted world).answer = .error fault → fault.isTransient = true →
      ∃ fewer < stalls,
        Stays (source.read wanted world).after (source.read wanted world).world stream fewer
  /-- A stream that ends does not fail. -/
  failed : ∀ {source world stream stalls wanted fault}, Stays source world stream stalls →
    0 < wanted → (source.read wanted world).answer = .error fault → fault.isTransient = false →
      ¬ ends
  apart : ∀ {source world stream stalls}, Stays source world stream stalls →
    ∀ wanted, (source.read wanted world).world.shared handle = world.shared handle
  filled : ∀ {source world stream stalls}, Stays source world stream stalls →
    ∀ buffer, Stays source (world.setShared handle buffer) stream stalls

/-- A source has this stream to give, next to the buffer behind a handle, and stalls at most so many
times before its next bytes, and never more often in a row than a fill stands it. -/
def Flows (handle : SharedId) (source : Source ρ) (world : World) (stream : Bytes) (stalls : Nat)
    (ends : Prop) : Prop :=
  ∃ Stays : Source ρ → World → Bytes → Nat → Prop,
    Flowing handle ends Stays ∧ Stays source world stream stalls

namespace Flows

variable {handle : SharedId} {source : Source ρ} {world : World} {stream : Bytes}
  {stalls wanted : Nat} {ends : Prop}

theorem ok {bytes : Bytes} (flows : source.Flows handle world stream stalls ends)
    (some : 0 < wanted) (success : (source.read wanted world).answer = .ok bytes) :
    (bytes = [] → stream = [] ∧ ends) ∧ ∃ rest, stream = bytes ++ rest ∧ (bytes ≠ [] →
      (source.read wanted world).after.Flows handle (source.read wanted world).world rest
        stallLimit ends) := by
  obtain ⟨Stays, flowing, stays⟩ := flows
  obtain ⟨last, rest, split, on⟩ := flowing.ok stays some success
  exact ⟨last, rest, split, fun more => ⟨Stays, flowing, on more⟩⟩

theorem stalled {fault : IoFault} (flows : source.Flows handle world stream stalls ends)
    (some : 0 < wanted) (failed : (source.read wanted world).answer = .error fault)
    (transient : fault.isTransient = true) :
    ∃ fewer < stalls, (source.read wanted world).after.Flows handle
      (source.read wanted world).world stream fewer ends := by
  obtain ⟨Stays, flowing, stays⟩ := flows
  obtain ⟨fewer, less, on⟩ := flowing.stalled stays some failed transient
  exact ⟨fewer, less, Stays, flowing, on⟩

theorem not_ends {fault : IoFault} (flows : source.Flows handle world stream stalls ends)
    (some : 0 < wanted) (failed : (source.read wanted world).answer = .error fault)
    (hard : fault.isTransient = false) : ¬ ends := by
  obtain ⟨Stays, flowing, stays⟩ := flows
  exact flowing.failed stays some failed hard

theorem apart (flows : source.Flows handle world stream stalls ends) (wanted : Nat) :
    (source.read wanted world).world.shared handle = world.shared handle := by
  obtain ⟨Stays, flowing, stays⟩ := flows
  exact flowing.apart stays wanted

theorem filled (flows : source.Flows handle world stream stalls ends) (buffer : Buffer) :
    source.Flows handle (world.setShared handle buffer) stream stalls ends := by
  obtain ⟨Stays, flowing, stays⟩ := flows
  exact ⟨Stays, flowing, flowing.filled stays buffer⟩

/-- A source that has a stream to give has it next to any buffer that does not lie in it. -/
theorem of_gives {tail : Bytes} {patience : Nat} (gives : source.Gives tail patience)
    (within : patience ≤ stallLimit) (outside : handle ∉ source.handles) (world : World) :
    source.Flows handle world (source.stock world.stores ++ tail) patience True := by
  refine ⟨fun source world stream stalls => handle ∉ source.handles ∧ ∃ tail patience,
    source.Gives tail patience ∧ patience ≤ stalls ∧ patience ≤ stallLimit ∧
    stream = source.stock world.stores ++ tail, ⟨?_, ?_, ?_, ?_, ?_⟩,
    outside, tail, patience, gives, Nat.le_refl _, within, rfl⟩
  · rintro source world _ stalls wanted bytes ⟨outside, tail, patience, gives, _, within, rfl⟩
      some success
    have kept := (source.reads_read wanted world).handles_sublist.subset
    obtain ⟨none, rest, fewer, on, less, split⟩ := gives.read_ok some success
    exact ⟨fun empty => ⟨none empty, trivial⟩, _, split, fun _ =>
      ⟨fun inside => outside (kept inside), rest, fewer, on, less.trans within,
        less.trans within, rfl⟩⟩
  · rintro source world _ stalls wanted fault ⟨outside, tail, patience, gives, fits, within, rfl⟩
      some failed _
    have kept := (source.reads_read wanted world).handles_sublist.subset
    obtain ⟨_, rest, fewer, on, less, same⟩ := gives.read_error some failed
    exact ⟨fewer, less.trans_le fits, fun inside => outside (kept inside), rest, fewer, on,
      Nat.le_refl _, less.le.trans within, same⟩
  · rintro source world _ stalls wanted fault ⟨_, tail, patience, gives, _⟩ some failed hard
    have interrupted := (gives.read_error some failed).1
    rw [IoFault.isTransient_of_isInterrupted interrupted] at hard
    cases hard
  · rintro source world _ stalls ⟨outside, _⟩ wanted
    exact (source.reads_read wanted world).shared_other outside
  · rintro source world _ stalls ⟨outside, tail, patience, gives, fits, within, rfl⟩ buffer
    refine ⟨outside, tail, patience, gives, fits, within, congrArg (· ++ tail) ?_⟩
    refine source.stock_congr _ _ (fun other inside => ?_) rfl
    have apart : other ≠ handle := fun same => outside (same ▸ inside)
    rw [World.stores_setShared, Stores.held_refilled_other _ _ _ _ apart]

end Flows

end Source

end Conduit
