import Conduit.Proofs.Sink.Giving
import Conduit.Proofs.World.Elsewhere

set_option autoImplicit false

namespace Conduit

open World (Elsewhere)

namespace Sink

variable {σ : Type}

/-- The bytes that the far end of a sink received so far; of a shared buffer, those that no one took
out of it. -/
def reached : {depth : Nat} → Sink σ depth → World → Bytes
  | _, .peer _, world => world.written
  | _, .descriptor fd, world => world.kernel.received fd
  | _, .shared handle, world => world.stores.held handle
  | _, .counted _ _ inner, world => inner.reached world
  | _, .plain inner, world => inner.reached world
  | _, .staged _ inner, world => inner.reached world

/-- The bytes that wait in the write buffers of a sink, those of the innermost buffer first. -/
def waiting : {depth : Nat} → Sink σ depth → Bytes
  | _, .peer _ => []
  | _, .descriptor _ => []
  | _, .shared _ => []
  | _, .counted _ _ inner => inner.waiting
  | _, .plain inner => inner.waiting
  | _, .staged buffer inner => inner.waiting ++ buffer.unread

/-- How many bytes the write buffers of a sink hold at most. -/
def room : {depth : Nat} → Sink σ depth → Nat
  | _, .peer _ => 0
  | _, .descriptor _ => 0
  | _, .shared _ => 0
  | _, .counted _ _ inner => inner.room
  | _, .plain inner => inner.room
  | _, .staged buffer inner => inner.room + buffer.size

/-- No write buffer is filled beyond its size. -/
def Fits : {depth : Nat} → Sink σ depth → Prop
  | _, .peer _ => True
  | _, .descriptor _ => True
  | _, .shared _ => True
  | _, .counted _ _ inner => inner.Fits
  | _, .plain inner => inner.Fits
  | _, .staged buffer inner => inner.Fits ∧ buffer.writeAt ≤ buffer.size

theorem length_waiting_le {depth : Nat} (sink : Sink σ depth) (fits : sink.Fits) :
    sink.waiting.length ≤ sink.room := by
  induction sink with
  | peer | descriptor | shared => exact Nat.le_refl 0
  | counted _ _ _ ih => exact ih fits
  | plain _ ih => exact ih fits
  | staged buffer inner ih =>
    have beneath := ih fits.1
    have within := fits.2
    simp only [waiting, room, List.length_append, Buffer.writeAt] at within ⊢
    omega

/-- All bytes that a sink took and did not lose: received, or waiting. -/
def landed {depth : Nat} (sink : Sink σ depth) (world : World) : Bytes :=
  sink.reached world ++ sink.waiting

/-- What happened between two worlds left alone what a sink wrote: nothing was written anywhere, and
the shared buffers in the sink hold what they held. -/
structure Spared {depth : Nat} (sink : Sink σ depth) (world later : World) : Prop where
  elsewhere : Elsewhere world later
  held : ∀ handle ∈ sink.handles, later.stores.held handle = world.stores.held handle

namespace Spared

variable {depth : Nat} {sink : Sink σ depth} {world middle later : World} {handle : SharedId}

theorem trans (first : sink.Spared world middle) (second : sink.Spared middle later) :
    sink.Spared world later where
  elsewhere := first.elsewhere.trans second.elsewhere
  held := fun handle inside => (second.held handle inside).trans (first.held handle inside)

theorem of_stores_eq (elsewhere : Elsewhere world later) (same : later.stores = world.stores) :
    sink.Spared world later :=
  ⟨elsewhere, fun _ _ => by rw [same]⟩

theorem notice (world : World) (notice : Notice) : sink.Spared world (world.notice notice) :=
  .of_stores_eq (world.elsewhere_notice notice) rfl

theorem count (world : World) (counters : List Counter) (bytes : Nat) :
    sink.Spared world (world.count counters bytes) :=
  .of_stores_eq (world.elsewhere_count counters bytes) (by simp)

theorem countBoth (world : World) (counters : CounterSet) (bytes : Nat) :
    sink.Spared world (world.countBoth counters bytes) :=
  (count world counters.read bytes).trans (count _ counters.write bytes)

theorem dropBuffer (world : World) (buffer : Buffer) :
    sink.Spared world (world.dropBuffer buffer) :=
  .of_stores_eq (world.elsewhere_dropBuffer buffer) (by simp)

theorem setShared (outside : handle ∉ sink.handles) (world : World) (buffer : Buffer) :
    sink.Spared world (world.setShared handle buffer) where
  elsewhere := world.elsewhere_setShared handle buffer
  held := by
    intro other inside
    rw [World.stores_setShared]
    exact Stores.held_refilled_other _ _ _ _ fun same => outside (same ▸ inside)

theorem release (outside : handle ∉ sink.handles) (world : World) :
    sink.Spared world (world.release handle) where
  elsewhere := world.elsewhere_release handle
  held := fun other inside =>
    World.held_release_other world handle other fun same => outside (same ▸ inside)

end Spared

/-- What spares a sink leaves its bytes where they were. -/
theorem landed_spared {depth : Nat} (sink : Sink σ depth) {world later : World}
    (spared : sink.Spared world later) : sink.landed later = sink.landed world := by
  have reached : sink.reached later = sink.reached world := by
    induction sink with
    | peer => exact spared.elsewhere.written
    | descriptor fd => exact spared.elsewhere.received fd
    | shared handle => exact spared.held handle List.mem_cons_self
    | counted _ _ _ ih => exact ih ⟨spared.elsewhere, spared.held⟩
    | plain _ ih => exact ih ⟨spared.elsewhere, spared.held⟩
    | staged _ _ ih => exact ih ⟨spared.elsewhere, spared.held⟩
  rw [landed, landed, reached]

theorem elsewhere_drop {depth : Nat} (sink : Sink σ depth) (world : World) :
    Elsewhere world (sink.drop world) := by
  induction sink with
  | peer | descriptor => exact .refl world
  | shared handle => exact world.elsewhere_release handle
  | counted _ _ _ ih => exact ih
  | plain _ ih => exact ih
  | staged buffer _ ih => exact ih.trans (World.elsewhere_dropBuffer _ buffer)

/-- Write buffers that are let go are not written out. -/
theorem reached_drop {depth : Nat} (sink : Sink σ depth) (unshared : sink.handles = [])
    (world : World) : sink.reached (sink.drop world) = sink.reached world := by
  have spared : sink.Spared world (sink.drop world) := by
    refine ⟨sink.elsewhere_drop world, fun handle inside => ?_⟩
    rw [unshared] at inside
    cases inside
  have same := sink.landed_spared spared
  rwa [landed, landed, List.append_left_inj] at same

/-- The bytes that a sink says it took of those it was offered. -/
def accepted (offered : Bytes) : Except IoFault Nat → Bytes
  | .ok taken => offered.take taken
  | .error _ => []

variable {depth : Nat}

/-- What a sink took was added to all that it took before. -/
structure Grows (sink : Sink σ depth) (world : World) (bytes : Bytes) (later : Sink σ depth)
    (after : World) : Prop where
  fits : later.Fits
  landed : later.landed after = sink.landed world ++ bytes
  room : later.room = sink.room
  /-- The far end is still the same one. -/
  far : ∀ world, later.reached world = sink.reached world

namespace Grows

variable {sink middle later : Sink σ depth} {world between after : World}

theorem refl (fits : sink.Fits) (world : World) : Grows sink world [] sink world :=
  ⟨fits, (List.append_nil _).symm, rfl, fun _ => rfl⟩

theorem trans {early late : Bytes} (first : Grows sink world early middle between)
    (second : Grows middle between late later after) :
    Grows sink world (early ++ late) later after where
  fits := second.fits
  landed := by rw [second.landed, first.landed, List.append_assoc]
  room := second.room.trans first.room
  far := fun world => (second.far world).trans (first.far world)

theorem spared {bytes : Bytes} (grows : Grows sink world bytes later between)
    (spared : later.Spared between after) : Grows sink world bytes later after where
  fits := grows.fits
  landed := (later.landed_spared spared).trans grows.landed
  room := grows.room
  far := grows.far

theorem counted {bytes : Bytes} (grows : Grows sink world bytes later after)
    (counters : List Counter) (total sum : Nat) :
    Grows (.counted counters total sink) world bytes (.counted counters sum later) after :=
  ⟨grows.fits, grows.landed, grows.room, grows.far⟩

theorem plain {bytes : Bytes} (grows : Grows sink world bytes later after) :
    Grows (.plain sink) world bytes (.plain later) after :=
  ⟨grows.fits, grows.landed, grows.room, grows.far⟩

/-- A write buffer in front keeps its size, and holds some bytes back. -/
theorem staged {bytes taken : Bytes} {buffer left : Buffer}
    (grows : Grows sink world bytes later after)
    (order : buffer.unread ++ taken = bytes ++ left.unread) (size : left.size = buffer.size)
    (fits : left.writeAt ≤ left.size) :
    Grows (.staged buffer sink) world taken (.staged left later) after where
  fits := ⟨grows.fits, fits⟩
  landed := by
    have beneath := grows.landed
    simp only [Sink.landed, reached, waiting] at beneath ⊢
    calc later.reached after ++ (later.waiting ++ left.unread)
        = (later.reached after ++ later.waiting) ++ left.unread := (List.append_assoc _ _ _).symm
      _ = sink.reached world ++ sink.waiting ++ (bytes ++ left.unread) := by
        rw [beneath, List.append_assoc]
      _ = sink.reached world ++ (sink.waiting ++ buffer.unread) ++ taken := by
        rw [← order]
        simp only [List.append_assoc]
  room := by rw [Sink.room, Sink.room, grows.room, size]
  far := grows.far

end Grows

variable [WritePeer σ]

/-- What one write of a sink comes to. -/
def WriteGrows (sink : Sink σ depth) (bytes : Bytes) (world : World)
    (called : Called (Sink σ depth) Nat) : Prop :=
  Grows sink world (accepted bytes called.answer) called.after called.world

/-- A write buffer that is sent out moves its bytes on to the sink beneath, from the first one on.
-/
theorem settle_grows (inner : Sink σ depth) (buffer : Buffer) (world : World)
    (lasts : inner.Fits) (fits : buffer.writeAt ≤ buffer.size)
    (grows : ∀ sink : Sink σ depth, sink.Fits → ∀ bytes world,
      WriteGrows sink bytes world (sink.write depth bytes world)) :
    let settled := Staged.settle (write depth) ⟨inner, buffer⟩ world
    ∃ sent, Grows inner world sent settled.after.inner settled.world ∧
      buffer.unread = sent ++ settled.after.buffer.unread ∧
      settled.after.buffer.size = buffer.size ∧
      settled.after.buffer.writeAt ≤ settled.after.buffer.size ∧
      (settled.answer = .ok () → settled.after.buffer.unread = []) := by
  unfold Staged.settle
  by_cases empty : buffer.isEmpty = true
  · simp only [empty, if_true]
    exact ⟨[], .refl lasts world, rfl, trivial, fits, fun _ => List.isEmpty_iff.mp empty⟩
  · have rule : Buffer.DrainRule (write depth) [] fun _ left _ sink now =>
        ∃ sent, Grows inner world sent sink now ∧ buffer.unread = sent ++ left := by
      refine .steady ?_ ?_
      · rintro left _ sink now taken ⟨sent, before, order⟩ _ answer
        have wrote := grows sink before.fits left now
        rw [WriteGrows, answer] at wrote
        refine ⟨sent ++ left.take taken, ?_, ?_⟩
        · rw [World.count_nil]
          exact before.trans wrote
        · rw [order, List.append_assoc, List.take_append_drop]
      · rintro left _ sink now fault ⟨sent, before, order⟩ _ answer
        have wrote := grows sink before.fits left now
        rw [WriteGrows, answer] at wrote
        have after := before.trans wrote
        rw [accepted, List.append_nil] at after
        exact ⟨sent, after, order⟩
    have some : buffer.unread ≠ [] := fun none => empty (List.isEmpty_iff.mpr none)
    have ends := rule.drain buffer inner world some ⟨[], .refl lasts world, rfl⟩
    obtain ⟨size, within⟩ := Buffer.drain_frame (write depth) [] buffer inner world
    simp only [empty, Bool.false_eq_true, if_false]
    obtain ⟨_, sent, after, order⟩ := ends.holds
    cases result : (buffer.drain (write depth) [] inner world).result with
    | ok total =>
      have gone := (ends.ok result).1
      rw [gone] at order
      exact ⟨sent, after, order, size, Nat.zero_le _, fun _ => rfl⟩
    | error fault =>
      have held : (buffer.drain (write depth) [] inner world).buffer.writeAt ≤
          (buffer.drain (write depth) [] inner world).buffer.size := by omega
      exact ⟨sent, after, order, size, held, fun absurd => nomatch absurd⟩

theorem staged_grows (inner : Sink σ depth) (buffer : Buffer) (bytes : Bytes) (world : World)
    (lasts : inner.Fits) (fits : buffer.writeAt ≤ buffer.size)
    (grows : ∀ sink : Sink σ depth, sink.Fits → ∀ bytes world,
      WriteGrows sink bytes world (sink.write depth bytes world)) :
    WriteGrows (.staged buffer inner) bytes world
      ((Staged.write (write depth) ⟨inner, buffer⟩ bytes world).through ofStaged) := by
  unfold Staged.write WriteGrows
  by_cases nothing : bytes.isEmpty = true
  · simp only [nothing, if_true]
    exact (Grows.refl lasts world).staged (by simp [accepted, Called.through]) rfl fits
  · simp only [nothing, Bool.false_eq_true, if_false]
    by_cases tight : buffer.freeLen < bytes.length
    · obtain ⟨sent, settles, order, size, within, all⟩ :=
        settle_grows inner buffer world lasts fits grows
      simp only [tight, if_true]
      split
      · rename_i fault failed
        exact settles.staged (by rw [order]; exact List.append_nil _) size within
      · rename_i settled
        -- The buffer is empty, so that bytes which go past it keep their place.
        have gone := all settled
        have wrote := grows _ settles.fits bytes
          (Staged.settle (write depth) ⟨inner, buffer⟩ world).world
        refine (settles.trans wrote).staged ?_ size within
        rw [gone, List.append_nil] at order
        rw [order, gone, List.append_nil]
        rfl
    · simp only [tight, if_false]
      have some : bytes.length ≠ 0 := by simpa using nothing
      have room : buffer.isFull = false := by
        simp only [Buffer.isFull, beq_eq_false_iff_ne]
        omega
      have fitting : min bytes.length buffer.freeLen = bytes.length := by omega
      have whole : bytes.take buffer.freeLen = bytes := List.take_of_length_le (by omega)
      have within := Buffer.writeAt_append buffer bytes
      simp only [Buffer.write, nothing, room, Bool.false_eq_true, if_false, fitting,
        Called.through, accepted, List.take_length]
      refine (Grows.refl lasts world).staged ?_ rfl ?_
      · simp only [Buffer.append, whole, List.nil_append]
      · rw [within]
        simp only [Buffer.append, Buffer.freeLen]
        omega

omit [WritePeer σ] in
/-- A buffer that is written to holds what it says it took, behind what it held. -/
theorem unread_write (buffer : Buffer) (bytes : Bytes) :
    (buffer.write bytes).2.unread = buffer.unread ++ accepted bytes (buffer.write bytes).1 := by
  unfold Buffer.write
  split
  · exact (List.append_nil _).symm
  · split
    · exact (List.append_nil _).symm
    · have whole : bytes.take (min bytes.length buffer.freeLen) = bytes.take buffer.freeLen := by
        rw [Nat.min_comm, ← List.take_take, List.take_length]
      exact congrArg (buffer.unread ++ ·) whole.symm

/-- A write adds what the sink says it took. -/
theorem write_grows : (depth : Nat) → (sink : Sink σ depth) → sink.Fits → (bytes : Bytes) →
    (world : World) → WriteGrows sink bytes world (sink.write depth bytes world)
  | _, .peer writer, _, bytes, world => by
    refine ⟨trivial, ?_, rfl, fun _ => rfl⟩
    simp only [write, landed, reached, waiting, List.append_nil, World.written_record]
    cases (WritePeer.write writer bytes).1 <;> rfl
  | _, .descriptor fd, _, bytes, world => by
    refine ⟨trivial, ?_, rfl, fun _ => rfl⟩
    simp only [write, landed, reached, waiting, List.append_nil]
    cases called : world.kernel.write fd bytes with
    | mk answer kernel =>
      cases answer with
      | ok count =>
        obtain ⟨_, _, _, carries⟩ := Kernel.write_made fd 0 called
        have received := carries.received fd
        rwa [if_pos rfl] at received
      | error error =>
        rw [(Kernel.write_failed called).1]
        exact (List.append_nil _).symm
  | _, .shared handle, _, bytes, world => by
    refine ⟨trivial, ?_, rfl, fun _ => rfl⟩
    simp only [write, landed, reached, waiting, List.append_nil, World.held_setShared]
    exact unread_write (world.shared handle) bytes
  | depth + 1, .counted counters total inner, fits, bytes, world => by
    have beneath := write_grows depth inner fits bytes world
    unfold WriteGrows at beneath ⊢
    simp only [write]
    split
    · rename_i taken answer
      rw [answer] at beneath
      exact (beneath.counted counters total _).spared (.count _ _ _)
    · rename_i fault failed
      rw [failed] at beneath
      exact beneath.counted counters total total
  | depth + 1, .plain inner, fits, bytes, world => (write_grows depth inner fits bytes world).plain
  | depth + 1, .staged buffer inner, fits, bytes, world =>
    staged_grows inner buffer bytes world fits.1 fits.2 (write_grows depth)

end Sink

end Conduit
