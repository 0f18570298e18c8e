import Conduit.Proofs.World.Muttering
import Conduit.Sink.Watched

set_option autoImplicit false

namespace Conduit

open World (Mutters)

section Staged

variable {τ : Type} {send : Writing τ}
  (mutters : ∀ sink bytes world, Mutters world (send sink bytes world).world)

include mutters

theorem Staged.mutters_settle (staged : Staged τ) (world : World) :
    Mutters world (staged.settle send world).world := by
  have drained := Buffer.mutters_drain [] staged.buffer staged.inner world mutters
  unfold settle
  split
  · exact .refl _ world
  · dsimp only
    split <;> exact drained

theorem Staged.mutters_write (staged : Staged τ) (bytes : Bytes) (world : World) :
    Mutters world (staged.write send bytes world).world := by
  have settled := mutters_settle mutters staged world
  unfold write
  split
  · exact .refl _ world
  · split
    · dsimp only
      split
      · exact settled
      · exact settled.trans (mutters _ _ _)
    · exact .refl _ world

end Staged

namespace Sink

variable {σ : Type} [WritePeer σ]

theorem mutters_write : (depth : Nat) → (sink : Sink σ depth) → (bytes : Bytes) →
    (world : World) → Mutters world (sink.write depth bytes world).world
  | _, .peer _, _, world => .record trivial world
  | _, .descriptor _, _, _ => .of_journal_eq rfl
  | _, .shared _, _, _ => .of_journal_eq rfl
  | depth + 1, .counted counters total inner, bytes, world => by
    have beneath := mutters_write depth inner bytes world
    simp only [write]
    split
    · exact beneath.trans (World.mutters_count _ counters _)
    · exact beneath
  | depth + 1, .plain inner, bytes, world => mutters_write depth inner bytes world
  | depth + 1, .staged buffer inner, bytes, world =>
    Staged.mutters_write (mutters_write depth) ⟨inner, buffer⟩ bytes world

variable {depth : Nat}

theorem mutters_greet (sink : Sink σ depth) (world : World) :
    Mutters world (sink.greet world).world := by
  cases sink with
  | peer writer => exact .record trivial world
  | descriptor | shared | counted | plain | staged => exact .refl _ world

theorem mutters_feed (sink : Sink σ depth) (bytes : Bytes) (world : World) :
    Mutters world (sink.feed bytes world).world := by
  cases sink with
  | peer writer => exact .record trivial world
  | descriptor | shared | counted | plain | staged => exact .refl _ world

end Sink

theorem Watched.mutters_drain {σ : Type} [WritePeer σ] {depth : Nat} (counters : List Counter)
    (buffer : Buffer) (sink : Watched σ depth) (world : World) :
    Mutters world (buffer.drain write counters sink world).world :=
  buffer.mutters_drain counters sink world fun watched => watched.sink.mutters_write depth

end Conduit
