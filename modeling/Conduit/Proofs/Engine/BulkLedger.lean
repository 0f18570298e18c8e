import Conduit.Engine.Copy
import Conduit.Proofs.Engine.EarlyLedger

set_option autoImplicit false

namespace Conduit

namespace Engine

variable {ρ σ : Type} [ReadPeer ρ] [WritePeer σ] {depth : Nat} {engine : Engine}

open Stand (Moves Sound Orderly)

/-- How the ledger stands when the bulk of a copy ended with a result: nothing is in transit, or
the copy failed with no more than `room` bytes. What orderly ends answer can be taken at its word:
success means that the source is read out, and no failure passes for its end. -/
structure BulkBalanced (counters : CounterSet) (first : Stand ρ σ depth) (room : Nat)
    (result : Except TransferFault Unit) (source : Source ρ) (transit given gained : Bytes)
    (course : Course σ depth) : Prop where
  moves : Moves counters first given gained ⟨source, transit, course⟩
  fits : transit.length ≤ room
  ok : result = .ok () → transit = [] ∧ (first.Orderly → source.Ended course.world.stores)
  error : first.Orderly → ∀ fault, result = .error fault → fault.isEndOfStream = false

theorem drain_moves (counters : CounterSet) (buffer : Buffer) (source : Source ρ)
    (course : Course σ depth) (some : buffer.unread ≠ [])
    (sound : Sound ⟨source, buffer.unread, course⟩) :
    let drained := buffer.drain Watched.write counters.write course.sink course.world
    ∃ given, Moves counters ⟨source, buffer.unread, course⟩ given []
        ⟨source, drained.buffer.unread, drained.sink, course.copied + drained.reported,
          drained.world⟩ ∧
      buffer.unread = given ++ drained.buffer.unread ∧
      (∀ total, drained.result = .ok total → drained.buffer.unread = []) ∧
      (Orderly ⟨source, buffer.unread, course⟩ →
        ∀ fault, drained.result = .error fault → fault.toTransfer.isEndOfStream = false) := by
  have rule : Buffer.DrainRule Watched.write counters.write fun _ left reported sink world =>
      ∃ given, Moves counters ⟨source, buffer.unread, course⟩ given []
        ⟨source, left, sink, course.copied + reported, world⟩ ∧ buffer.unread = given ++ left := by
    refine .steady ?_ ?_
    · rintro left reported sink world taken ⟨given, moves, order⟩ _ answer
      obtain ⟨fits, wrote⟩ := Watched.write_gives sink world moves.sound.modest answer
      have sent := Moves.sent counters moves.sound wrote (List.take_append_drop taken left).symm
      simp only [List.length_take_of_le fits, Nat.add_assoc] at sent
      refine ⟨_, moves.trans sent, ?_⟩
      rw [List.append_assoc, List.take_append_drop, order]
    · rintro left reported sink world fault ⟨given, moves, order⟩ _ answer
      have wrote := (Watched.write_fails sink world answer).2
      refine ⟨_, moves.trans (Moves.sent counters moves.sound wrote rfl), ?_⟩
      rw [List.append_nil, order]
  have ends := rule.drain buffer course.sink course.world some ⟨[], .refl sound, rfl⟩
  dsimp only
  generalize buffer.drain Watched.write counters.write course.sink course.world = drained at ends
  obtain ⟨_, given, moves, order⟩ := ends.holds
  refine ⟨given, moves, order, fun _ success => (ends.ok success).1, ?_⟩
  intro orderly fault failed
  rcases (ends.error failed).2 with
    stuck | ⟨_, left, _, sink, world, cause, ⟨_, before, _⟩, _, answer, shape⟩
  · rw [stuck]
    rfl
  · rw [shape]
    exact IoFault.isEndOfStream_toTransfer_toBuffer
      ((Watched.write_fails sink world answer).1 (before.orderly orderly).sink)

theorem pump_balanced (retries : Nat) (counters : CounterSet) (rounds : Nat) (buffer : Buffer)
    (source : Source ρ) (course : Course σ depth) (sound : Sound ⟨source, [], course⟩)
    (pumped : Pumped ρ σ depth)
    (ended : pump retries counters rounds buffer source course = some pumped) :
    ∃ transit given gained, BulkBalanced counters ⟨source, [], course⟩ buffer.size pumped.result
      pumped.source transit given gained pumped.course := by
  induction rounds generalizing buffer source course with
  | zero => cases ended
  | succ rounds ih =>
    rw [pump] at ended
    split at ended
    · cases ended
    · rename_i filled fill
      obtain ⟨bytes, gained, after, fetches⟩ := Buffer.fillOnce_fetches rfl fill
      have room : buffer.reset.freeLen = buffer.size := rfl
      have out := Moves.out counters sound fetches.draws
      rw [← fetches.world, List.nil_append] at out
      dsimp only at ended
      split at ended
      · rename_i fault failed
        cases ended
        refine ⟨bytes, _, _, out, room ▸ fetches.fits, by simp, ?_⟩
        rintro orderly other same
        cases same
        exact fetches.candid orderly.source fault failed
      · rename_i done
        cases ended
        have none : bytes = [] := List.length_eq_zero_iff.mp (fetches.ok 0 done).symm
        refine ⟨bytes, _, _, out, room ▸ fetches.fits, fun _ => ⟨none, fun orderly => ?_⟩, by simp⟩
        have finished := fetches.ended orderly.source done
        simp only [Course.inWorld, fetches.world, World.stores_count]
        exact finished
      · rename_i less came
        have some : filled.buffer.unread ≠ [] := by
          intro none
          have count := fetches.ok _ came
          rw [← fetches.unread, none] at count
          cases count
        rw [← fetches.unread] at out
        obtain ⟨given, moves, order, emptied, candid⟩ :=
          drain_moves counters filled.buffer filled.source (course.inWorld filled.world) some
            out.sound
        have size := Buffer.drain_size Watched.write counters.write filled.buffer
          (course.inWorld filled.world).sink (course.inWorld filled.world).world
        generalize filled.buffer.drain Watched.write counters.write
          (course.inWorld filled.world).sink (course.inWorld filled.world).world = drained at *
        split at ended
        · rename_i fault failed
          cases ended
          have fits := fetches.fits
          have lengths := congrArg List.length order
          rw [fetches.unread, List.length_append] at lengths
          -- What was not written is in transit, and came with the last fill.
          refine ⟨_, _, _, out.trans moves, by omega, by simp, ?_⟩
          rintro orderly other same
          cases same
          exact candid (out.orderly orderly) fault failed
        · rename_i total success
          rw [emptied total success] at moves
          obtain ⟨transit, further, more, balanced⟩ := ih _ _ _ moves.sound ended
          rw [size, fetches.size] at balanced
          have front := out.trans moves
          exact ⟨transit, _, _, front.trans balanced.moves, balanced.fits,
            fun success => (balanced.ok success).imp_right (· ∘ front.orderly),
            balanced.error ∘ front.orderly⟩

/-- The ledger balances when the bulk of a copy went through a buffer, which holds `hugeSize`
bytes. -/
theorem copyBuffered_balanced (allowance : Allowance) (counters : CounterSet) (source : Source ρ)
    (course : Course σ depth) (sound : Sound ⟨source, [], course⟩) (step : CopyStep σ depth Unit)
    (ended : engine.copyBuffered allowance counters source course = some step) :
    ∃ last transit given gained later,
      BulkBalanced counters ⟨source, [], course⟩ engine.buffers.hugeSize step.result last transit
        given gained later ∧ Follows later step.after := by
  obtain ⟨_, size, _, unmoved⟩ := engine.buffers.alloc_blank engine.buffers.hugeSize course.world
  simp only [copyBuffered, Allocator.huge, Option.map_eq_some_iff] at ended
  obtain ⟨pumped, pumping, rfl⟩ := ended
  have still := Moves.within counters sound (.still source unmoved)
  obtain ⟨transit, given, gained, balanced⟩ := pump_balanced _ _ _ _ _ _ still.sound _ pumping
  rw [size] at balanced
  refine ⟨pumped.source, transit, _, _, pumped.course,
    ⟨still.trans balanced.moves, balanced.fits,
      fun success => (balanced.ok success).imp_right (· ∘ still.orderly),
      balanced.error ∘ still.orderly⟩, rfl, rfl, ?_⟩
  exact (Source.journal_drop _ _).trans (World.journal_dropBuffer _ _)

end Engine

end Conduit
