import Conduit.Engine.Early
import Conduit.Proofs.Staged.Log
import Conduit.Proofs.Transfer.Pouring

set_option autoImplicit false

namespace Conduit

namespace Buffer

section

variable {ρ : Type} [ReadPeer ρ]

/-- Reads of a source handed these bytes out, and a buffer got them behind its unread ones. -/
def Gathers (buffer : Buffer) (source : Source ρ) (world : World) (bytes : Bytes) (filled : Buffer)
    (last : Source ρ) (later : World) : Prop :=
  filled.unread = buffer.unread ++ bytes ∧ ∃ sizes,
    (source.readEach sizes world).after = last ∧ (source.readEach sizes world).world = later ∧
      (source.readEach sizes world).answers.flatMap ReadPeer.brought = bytes

theorem Pours.gathers {buffer filled : Buffer} {source last : Source ρ} {world later : World}
    {bytes : Bytes} (pours : buffer.Pours source world bytes filled last later) :
    buffer.Gathers source world bytes filled last later := by
  have unread := pours.puts.unread
  obtain ⟨sizes, same, between, brought, _⟩ := pours
  exact ⟨unread, sizes, same, between, brought⟩

end

/-- What holds of every fill of a buffer that comes to an end, whatever the source answers. -/
structure FillsConserve (ρ : Type) [ReadPeer ρ] (buffer : Buffer) : Prop where
  fill : ∀ (source : Source ρ) world, ∃ bytes,
    let filled := buffer.fill source world
    buffer.Gathers source world bytes filled.buffer filled.source filled.world ∧
      ∀ count, filled.result = .ok count → count = bytes.length
  /-- The counters are called for what came, once it is there. -/
  fillOnce : ∀ retries counters (source : Source ρ) world filled,
    buffer.fillOnce retries counters source world = some filled → ∃ bytes later,
      buffer.Gathers source world bytes filled.buffer filled.source later ∧
        filled.world = later.count counters bytes.length ∧
        ∀ count, filled.result = .ok count → count = bytes.length
  /-- No more than was wanted is taken, and the fill succeeds just when all of that was. -/
  fillExactly : ∀ retries (source : Source ρ) world wanted filled,
    buffer.fillExactly retries source world wanted = some filled → ∃ bytes,
      buffer.Gathers source world bytes filled.buffer filled.source filled.world ∧
        bytes.length ≤ wanted ∧ (filled.result = .ok wanted ↔ bytes.length = wanted) ∧
        ∀ count, filled.result = .ok count → count = wanted
  /-- Without room for all that is wanted the source is not called. -/
  crowded : ∀ retries (source : Source ρ) world wanted, buffer.freeLen < wanted →
    buffer.fillExactly retries source world wanted =
      some ⟨.error .shortBuffer, buffer, source, world⟩

section

variable {ρ : Type} [ReadPeer ρ] (buffer : Buffer) (source : Source ρ) (world : World)

theorem fill_gathers : ∃ bytes,
    let filled := buffer.fill source world
    buffer.Gathers source world bytes filled.buffer filled.source filled.world ∧
      ∀ count, filled.result = .ok count → count = bytes.length := by
  unfold fill
  by_cases full : buffer.isFull
  · rw [if_pos full]
    exact ⟨[], (Pours.nothing buffer source world).gathers, nofun⟩
  · rw [if_neg full]
    obtain ⟨bytes, pours, counts⟩ := fillLoop_pours buffer source world stallLimit 0
    refine ⟨bytes, pours.gathers, fun count ok => ?_⟩
    rw [counts count ok, Nat.zero_add]

variable {buffer source world} {retries : Nat} {filled : Filled ρ}

theorem fillOnce_gathers {counters : List Counter}
    (ended : buffer.fillOnce retries counters source world = some filled) : ∃ bytes later,
    buffer.Gathers source world bytes filled.buffer filled.source later ∧
      filled.world = later.count counters bytes.length ∧
      ∀ count, filled.result = .ok count → count = bytes.length := by
  unfold fillOnce at ended
  by_cases full : buffer.isFull
  · rw [if_pos full] at ended
    cases ended
    exact ⟨[], world, (Pours.nothing buffer source world).gathers, rfl, nofun⟩
  · rw [if_neg full] at ended
    have pours := fillOnceLoop_pours counters buffer source world retries
    rw [ended] at pours
    obtain ⟨bytes, later, pours, counted, counts⟩ := pours
    exact ⟨bytes, later, pours.gathers, counted, counts⟩

theorem fillExactly_gathers {wanted : Nat}
    (ended : buffer.fillExactly retries source world wanted = some filled) : ∃ bytes,
    buffer.Gathers source world bytes filled.buffer filled.source filled.world ∧
      bytes.length ≤ wanted ∧ (filled.result = .ok wanted ↔ bytes.length = wanted) ∧
      ∀ count, filled.result = .ok count → count = wanted := by
  unfold fillExactly at ended
  by_cases tight : buffer.freeLen < wanted
  · rw [if_pos tight] at ended
    cases ended
    refine ⟨[], (Pours.nothing buffer source world).gathers, Nat.zero_le _, ?_, nofun⟩
    have some : 0 < wanted := Nat.lt_of_le_of_lt (Nat.zero_le _) tight
    exact ⟨nofun, fun none => absurd none.symm (Nat.ne_of_gt some)⟩
  · rw [if_neg tight] at ended
    have pours := fillExactlyLoop_pours retries buffer source world wanted wanted retries
      (Nat.le_of_not_lt tight)
    rw [ended] at pours
    obtain ⟨bytes, pours, within, whole, fewer⟩ := pours
    refine ⟨bytes, pours.gathers, within, ⟨fun ok => (whole _ ok).2, fun all => ?_⟩,
      fun count ok => (whole count ok).1⟩
    cases result : filled.result with
    | ok count => rw [(whole count result).1]
    | error fault => exact absurd all (Nat.ne_of_lt (fewer fault result))

end

theorem fills_conserve (ρ : Type) [ReadPeer ρ] (buffer : Buffer) : buffer.FillsConserve ρ where
  fill := fill_gathers buffer
  fillOnce := fun _ _ _ _ _ ended => fillOnce_gathers ended
  fillExactly := fun _ _ _ _ _ ended => fillExactly_gathers ended
  crowded := fun _ _ _ _ tight => if_pos tight

/-- What holds of every drain of a buffer that comes to an end, whatever the sink answers. -/
structure DrainsConserve (τ : Type) (buffer : Buffer) : Prop where
  /-- A drain that succeeds leaves the buffer empty, and says how much was in it. -/
  drain : ∀ send counters (sink : Accepting τ) world,
    let drained := buffer.drain (Accepting.write send) counters sink world
    drained.sink.accepted ++ drained.buffer.unread = sink.accepted ++ buffer.unread ∧
      ∀ count, drained.result = .ok count →
        drained.buffer.unread = [] ∧ count = buffer.unread.length
  drainOnce : ∀ retries send (sink : Accepting τ) world drained,
    buffer.drainOnce retries (Accepting.write send) sink world = some drained →
      drained.sink.accepted ++ drained.buffer.unread = sink.accepted ++ buffer.unread ∧
        ∀ count, drained.result = .ok count →
          drained.buffer.unread.length + count = buffer.unread.length

section

variable {τ : Type} {send : Writing τ} {counters : List Counter}

theorem Hands.accepted {bytes : Bytes} {sink last : Accepting τ} {world later : World}
    {taken : Nat}
    (hands : Hands (Accepting.write send) counters bytes sink world taken last later) :
    last.accepted = sink.accepted ++ bytes.take taken := by
  induction hands with
  | nothing => exact (List.append_nil _).symm
  | @took sofar taken last later _ _ answer ih =>
    rw [Staged.accepted_write, answer, ih, Sink.accepted, List.append_assoc, List.take_add]
  | @failed sofar last later fault _ _ answer ih =>
    rw [Staged.accepted_write, answer, ih, Sink.accepted, List.append_nil]

theorem Hands.whole {buffer after : Buffer} {sink last : Accepting τ} {world later : World}
    {taken : Nat}
    (hands : Hands (Accepting.write send) counters buffer.unread sink world taken last later)
    (takes : buffer.Takes after taken) :
    last.accepted ++ after.unread = sink.accepted ++ buffer.unread := by
  rw [hands.accepted, takes.unread, List.append_assoc, List.take_append_drop]

variable (counters) (buffer : Buffer) (sink : Accepting τ) (world : World)

theorem drain_conserves :
    let drained := buffer.drain (Accepting.write send) counters sink world
    drained.sink.accepted ++ drained.buffer.unread = sink.accepted ++ buffer.unread ∧
      ∀ count, drained.result = .ok count →
        drained.buffer.unread = [] ∧ count = buffer.unread.length := by
  by_cases none : buffer.unread = []
  · rw [drain_of_empty _ _ _ _ none]
    exact ⟨rfl, nofun⟩
  · obtain ⟨taken, hands, takes, counts⟩ := drain_hands (Accepting.write send) counters buffer sink
      world none
    exact ⟨hands.whole takes, fun count ok => (counts count ok).symm⟩

variable {buffer sink world}

theorem drainOnce_conserves {retries : Nat} {drained : Drained (Accepting τ)}
    (ended : buffer.drainOnce retries (Accepting.write send) sink world = some drained) :
    drained.sink.accepted ++ drained.buffer.unread = sink.accepted ++ buffer.unread ∧
      ∀ count, drained.result = .ok count →
        drained.buffer.unread.length + count = buffer.unread.length := by
  unfold drainOnce at ended
  by_cases empty : buffer.isEmpty
  · rw [if_pos empty] at ended
    cases ended
    exact ⟨rfl, nofun⟩
  · rw [if_neg empty] at ended
    have none : buffer.unread ≠ [] := fun none => empty (List.isEmpty_iff.mpr none)
    have hands := drainOnceLoop_hands (Accepting.write send) buffer sink world retries none
    rw [ended] at hands
    obtain ⟨taken, hands, takes, counts⟩ := hands
    refine ⟨hands.whole takes, fun count ok => ?_⟩
    rw [counts count ok, takes.unread, List.length_drop]
    omega

end

theorem drains_conserve (τ : Type) (buffer : Buffer) : buffer.DrainsConserve τ where
  drain := fun _ counters sink world => drain_conserves counters buffer sink world
  drainOnce := fun _ _ _ _ _ ended => drainOnce_conserves ended

end Buffer

namespace Engine

variable {σ : Type} [WritePeer σ] {depth : Nat}

/-- A cached buffer that was written out without a fault is empty. -/
theorem replay_empties (handle : SharedId) (counters : CounterSet) (course : Course σ depth)
    (ok : (replay handle counters course).result = .ok ()) :
    ((replay handle counters course).after.world.shared handle).isEmpty = true := by
  unfold replay at ok ⊢
  cases result : ((course.world.shared handle).drain Watched.write [] course.sink
      course.world).result with
  | error fault => simp only [result, reduceCtorEq] at ok
  | ok total =>
    simp only [result]
    exact List.isEmpty_iff.mpr
      ((World.held_setShared _ handle _).trans (Buffer.drain_ok_unread result))

end Engine

/-- Fills and drains conserve bytes on every way out, and what a replay leaves behind when it
succeeds is an empty buffer. -/
theorem transfers_conserve (ρ σ τ : Type) [ReadPeer ρ] [WritePeer σ] :
    (∀ buffer : Buffer, buffer.FillsConserve ρ ∧ buffer.DrainsConserve τ) ∧
      ∀ (depth : Nat) (handle : SharedId) (counters : CounterSet) (course : Course σ depth),
        (Engine.replay handle counters course).result = .ok () →
          ((Engine.replay handle counters course).after.world.shared handle).isEmpty = true :=
  ⟨fun buffer => ⟨buffer.fills_conserve ρ, buffer.drains_conserve τ⟩,
    fun _ handle counters course ok => Engine.replay_empties handle counters course ok⟩

end Conduit
