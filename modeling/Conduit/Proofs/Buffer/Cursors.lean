import Conduit.Buffer.Basic
import Mathlib.Data.List.Basic

set_option autoImplicit false

namespace Conduit

namespace Buffer

variable {before after : Buffer}

theorem length_storage (buffer : Buffer) : buffer.storage.length = buffer.capacity := by
  simp only [storage, capacity, List.length_append, List.length_reverse]
  omega

theorem take_writeAt (buffer : Buffer) :
    buffer.storage.take buffer.writeAt = buffer.spent.reverse ++ buffer.unread := by
  rw [storage, ← List.append_assoc]
  apply List.take_left'
  rw [List.length_append, List.length_reverse, writeAt]

theorem drop_writeAt (buffer : Buffer) : buffer.storage.drop buffer.writeAt = buffer.spare := by
  rw [storage, ← List.append_assoc]
  apply List.drop_left'
  rw [List.length_append, List.length_reverse, writeAt]

/-- The unread bytes lie between the cursors. -/
theorem unread_eq (buffer : Buffer) :
    buffer.unread = (buffer.storage.take buffer.writeAt).drop buffer.readAt := by
  rw [take_writeAt]
  symm
  apply List.drop_left'
  rw [List.length_reverse, readAt]

/-- The free region lies between the write cursor and the size. -/
theorem freeRegion_eq (buffer : Buffer) :
    buffer.freeRegion = (buffer.storage.take buffer.size).drop buffer.writeAt := by
  rw [List.drop_take, drop_writeAt, freeRegion, freeLen]

theorem storage_cutAt (buffer : Buffer) {read write : Nat} (order : read ≤ write) :
    (buffer.cutAt read write).storage = buffer.storage := by
  have start : buffer.storage.take read = (buffer.storage.take write).take read := by
    rw [List.take_take, Nat.min_eq_left order]
  show (buffer.storage.take read).reverse.reverse ++
    ((buffer.storage.take write).drop read ++ buffer.storage.drop write) = buffer.storage
  rw [List.reverse_reverse, start, ← List.append_assoc, List.take_append_drop,
    List.take_append_drop]

theorem readAt_le_writeAt (buffer : Buffer) : buffer.readAt ≤ buffer.writeAt := by
  rw [readAt, writeAt]
  omega

theorem writeAt_le_capacity (buffer : Buffer) : buffer.writeAt ≤ buffer.capacity := by
  rw [writeAt, capacity]
  omega

/-- Bytes went into the storage at the write cursor, which moved past them. -/
structure Puts (before after : Buffer) (bytes : Bytes) : Prop where
  unread : after.unread = before.unread ++ bytes
  room : bytes.length ≤ before.freeLen
  storage : after.storage =
    before.storage.take before.writeAt ++ bytes ++
      before.storage.drop (before.writeAt + bytes.length)
  read : after.readAt = before.readAt
  size : after.size = before.size
  owner : after.owner = before.owner

/-- The read cursor moved past so many bytes, if there were that many. -/
structure Takes (before after : Buffer) (count : Nat) : Prop where
  unread : after.unread = before.unread.drop count
  storage : after.storage = before.storage
  write : after.writeAt = before.writeAt
  size : after.size = before.size
  owner : after.owner = before.owner

/-- Only the first of the unread bytes were kept. -/
structure Trims (before after : Buffer) (count size : Nat) : Prop where
  unread : after.unread = before.unread.take count
  storage : after.storage = before.storage
  read : after.readAt ≤ before.readAt
  size : after.size = size
  owner : after.owner = before.owner

/-- A storage was written to in the free region only. -/
structure Frames (before after : Buffer) : Prop where
  below : after.storage.take before.writeAt = before.storage.take before.writeAt
  above : after.storage.drop before.size = before.storage.drop before.size
  capacity : after.capacity = before.capacity
  owner : after.owner = before.owner

/-- Bytes went into the free region, as far as they fit, and no cursor moved. -/
structure Stashes (before after : Buffer) (bytes : Bytes) : Prop where
  unread : after.unread = before.unread
  region : after.freeRegion = bytes.take before.freeLen ++ before.freeRegion.drop bytes.length
  read : after.readAt = before.readAt
  size : after.size = before.size
  frames : before.Frames after

namespace Puts

variable {bytes : Bytes}

theorem length_storage (puts : Puts before after bytes) (sound : before.Sound) :
    after.capacity = before.capacity := by
  have room := puts.room
  have write := sound.write_le_size
  have size := sound.size_le_capacity
  rw [freeLen] at room
  rw [← after.length_storage, puts.storage, ← before.length_storage]
  simp only [List.length_append, List.length_take, List.length_drop, before.length_storage]
  omega

theorem write (puts : Puts before after bytes) :
    after.writeAt = before.writeAt + bytes.length := by
  have read := puts.read
  rw [readAt, readAt] at read
  rw [writeAt, writeAt, puts.unread, List.length_append, read, Nat.add_assoc]

theorem sound (puts : Puts before after bytes) (sound : before.Sound) : after.Sound := by
  have room := puts.room
  have write := sound.write_le_size
  rw [freeLen] at room
  constructor
  · rw [puts.write, puts.size]
    omega
  · rw [puts.size, puts.length_storage sound]
    exact sound.size_le_capacity

theorem frames (puts : Puts before after bytes) (sound : before.Sound) : before.Frames after := by
  have room := puts.room
  have write := sound.write_le_size
  rw [freeLen] at room
  have here : (before.storage.take before.writeAt).length = before.writeAt := by
    rw [List.length_take, before.length_storage]
    have within := before.writeAt_le_capacity
    omega
  refine ⟨?_, ?_, puts.length_storage sound, puts.owner⟩
  · rw [puts.storage, List.append_assoc]
    exact List.take_left' here
  · rw [puts.storage, List.drop_append, List.drop_eq_nil_of_le, List.nil_append, List.drop_drop]
    · congr 1
      rw [List.length_append, here]
      omega
    · rw [List.length_append, here]
      omega

theorem append (buffer : Buffer) (bytes : Bytes) (room : bytes.length ≤ buffer.freeLen) :
    buffer.Puts (buffer.append bytes) bytes := by
  have all : bytes.take buffer.freeLen = bytes := List.take_of_length_le room
  refine ⟨?_, room, ?_, rfl, rfl, rfl⟩
  · rw [Buffer.append]
    dsimp only
    rw [all]
  · rw [take_writeAt, ← List.drop_drop, drop_writeAt]
    simp only [Buffer.append, Buffer.storage, all, List.append_assoc]

theorem append_fitting (buffer : Buffer) (bytes : Bytes) :
    buffer.Puts (buffer.append bytes) (bytes.take buffer.freeLen) := by
  have same : buffer.append (bytes.take buffer.freeLen) = buffer.append bytes := by
    simp only [Buffer.append, List.take_take, Nat.min_self]
  rw [← same]
  exact append buffer _ (List.length_take_le _ _)

end Puts

namespace Takes

variable {count : Nat}

theorem sound (takes : Takes before after count) (sound : before.Sound) : after.Sound := by
  constructor
  · rw [takes.write, takes.size]
    exact sound.write_le_size
  · rw [takes.size, ← after.length_storage, takes.storage, before.length_storage]
    exact sound.size_le_capacity

theorem frames (takes : Takes before after count) : before.Frames after where
  below := by rw [takes.storage]
  above := by rw [takes.storage]
  capacity := by rw [← after.length_storage, takes.storage, before.length_storage]
  owner := takes.owner

theorem refl (buffer : Buffer) : buffer.Takes buffer 0 := ⟨rfl, rfl, rfl, rfl, rfl⟩

theorem consume (buffer : Buffer) (count : Nat) : buffer.Takes (buffer.consume count) count where
  unread := rfl
  storage := by
    simp only [Buffer.consume, Buffer.storage, List.reverse_append, List.reverse_reverse]
    rw [List.append_assoc, ← List.append_assoc (buffer.unread.take count),
      List.take_append_drop]
  write := by
    simp only [Buffer.consume, writeAt, List.length_append, List.length_reverse, List.length_take,
      List.length_drop]
    omega
  size := rfl
  owner := rfl

end Takes

namespace Trims

variable {count size : Nat}

theorem sound (trims : Trims before after count size) (within : after.writeAt ≤ size)
    (fits : size ≤ before.capacity) : after.Sound := by
  constructor
  · rw [trims.size]
    exact within
  · rw [trims.size, ← after.length_storage, trims.storage, before.length_storage]
    exact fits

theorem frames (trims : Trims before after count size) : before.Frames after where
  below := by rw [trims.storage]
  above := by rw [trims.storage]
  capacity := by rw [← after.length_storage, trims.storage, before.length_storage]
  owner := trims.owner

/-- Without a new size the write cursor can only have moved back. -/
theorem within (trims : Trims before after count before.size) (sound : before.Sound) :
    after.writeAt ≤ before.size := by
  have read := trims.read
  have write := sound.write_le_size
  rw [readAt, readAt] at read
  rw [writeAt] at write ⊢
  rw [trims.unread, List.length_take]
  omega

theorem truncate (buffer : Buffer) (count : Nat) :
    buffer.Trims (buffer.truncate count) count buffer.size where
  unread := rfl
  storage := by
    simp only [Buffer.truncate, Buffer.storage]
    rw [← List.append_assoc (buffer.unread.take count), List.take_append_drop]
  read := Nat.le_refl _
  size := rfl
  owner := rfl

theorem reset (buffer : Buffer) : buffer.Trims buffer.reset 0 buffer.size where
  unread := rfl
  storage := rfl
  read := Nat.zero_le _
  size := rfl
  owner := rfl

/-- A size cuts off the unread bytes that lie beyond it. -/
theorem resize (buffer : Buffer) (size : Nat) :
    buffer.Trims { buffer.cutAt (min buffer.readAt (min buffer.writeAt size))
      (min buffer.writeAt size) with size := size } (size - buffer.readAt) size where
  unread := by
    have cursors := buffer.readAt_le_writeAt
    show (buffer.storage.take (min buffer.writeAt size)).drop
      (min buffer.readAt (min buffer.writeAt size)) = buffer.unread.take (size - buffer.readAt)
    rw [unread_eq]
    rcases Nat.le_total buffer.readAt size with within | beyond
    · rw [Nat.min_eq_left (Nat.le_min.mpr ⟨cursors, within⟩), ← List.drop_take, List.take_take,
        Nat.min_comm]
    · rw [Nat.sub_eq_zero_of_le beyond, List.take_zero]
      apply List.drop_eq_nil_of_le
      rw [List.length_take]
      omega
  storage := storage_cutAt buffer (Nat.min_le_right _ _)
  read := by
    simp only [cutAt, readAt, List.length_reverse, List.length_take]
    omega
  size := rfl
  owner := rfl

end Trims

namespace Stashes

variable {bytes : Bytes}

theorem sound (stashes : Stashes before after bytes) (sound : before.Sound) : after.Sound := by
  have read := stashes.read
  rw [readAt, readAt] at read
  constructor
  · rw [stashes.size, writeAt, read, stashes.unread]
    exact sound.write_le_size
  · rw [stashes.size, stashes.frames.capacity]
    exact sound.size_le_capacity

theorem stash (buffer : Buffer) (sound : buffer.Sound) (bytes : Bytes) :
    buffer.Stashes (buffer.stash bytes) bytes := by
  have write := sound.write_le_size
  have size := sound.size_le_capacity
  have length : (bytes.take buffer.freeLen).length = min buffer.freeLen bytes.length :=
    List.length_take
  have spare : (buffer.stash bytes).spare =
      bytes.take buffer.freeLen ++ buffer.spare.drop (min buffer.freeLen bytes.length) := by
    rw [← length]
    rfl
  refine ⟨rfl, ?_, rfl, rfl, ?_, ?_, ?_, rfl⟩
  · show (buffer.stash bytes).spare.take buffer.freeLen = _
    rw [spare, List.take_append, length, List.take_take, Nat.min_self, freeRegion, List.drop_take]
    rcases Nat.le_total bytes.length buffer.freeLen with fits | beyond
    · rw [Nat.min_eq_right fits]
    · rw [Nat.min_eq_left beyond, Nat.sub_self, Nat.sub_eq_zero_of_le beyond, List.take_zero,
        List.take_zero]
  · rw [take_writeAt]
    exact (buffer.stash bytes).take_writeAt
  · have parts : buffer.size = buffer.writeAt + buffer.freeLen := by
      rw [freeLen]
      omega
    rw [parts, ← List.drop_drop, ← List.drop_drop, drop_writeAt]
    show ((buffer.stash bytes).storage.drop (buffer.stash bytes).writeAt).drop _ = _
    rw [drop_writeAt, spare, List.drop_append, length, List.drop_drop,
      List.drop_eq_nil_of_le (by rw [length]; omega), List.nil_append]
    congr 1
    omega
  · have within : min buffer.freeLen bytes.length ≤ buffer.spare.length := by
      rw [writeAt] at write
      rw [capacity] at size
      rw [freeLen, writeAt]
      omega
    show buffer.spent.length + buffer.unread.length + (buffer.stash bytes).spare.length =
      buffer.capacity
    rw [spare, List.length_append, List.length_drop, length, capacity]
    omega

end Stashes

/-- What is done to a buffer whose cursors are in order keeps them so, and leaves it over a storage
of the same length and pool. -/
def Stays (before after : Buffer) : Prop :=
  before.Sound → after.Sound ∧ after.capacity = before.capacity ∧ after.owner = before.owner

namespace Stays

theorem refl (buffer : Buffer) : buffer.Stays buffer := fun sound => ⟨sound, rfl, rfl⟩

theorem trans {middle : Buffer} (first : before.Stays middle) (second : middle.Stays after) :
    before.Stays after := by
  intro sound
  obtain ⟨between, capacity, owner⟩ := first sound
  obtain ⟨late, capacities, owners⟩ := second between
  exact ⟨late, capacities.trans capacity, owners.trans owner⟩

theorem of_puts {bytes : Bytes} (puts : Puts before after bytes) : before.Stays after :=
  fun sound => ⟨puts.sound sound, puts.length_storage sound, puts.owner⟩

theorem of_takes {count : Nat} (takes : Takes before after count) : before.Stays after :=
  fun sound => ⟨takes.sound sound, takes.frames.capacity, takes.owner⟩

theorem consume (buffer : Buffer) (count : Nat) : buffer.Stays (buffer.consume count) :=
  of_takes (.consume buffer count)

theorem reset (buffer : Buffer) : buffer.Stays buffer.reset := by
  intro sound
  have trims := Trims.reset buffer
  exact ⟨trims.sound (trims.within sound) sound.size_le_capacity, trims.frames.capacity, rfl⟩

theorem append (buffer : Buffer) (bytes : Bytes) : buffer.Stays (buffer.append bytes) :=
  of_puts (.append_fitting buffer bytes)

theorem write (buffer : Buffer) (bytes : Bytes) : buffer.Stays (buffer.write bytes).2 := by
  unfold Buffer.write
  split
  · exact .refl buffer
  · split
    · exact .refl buffer
    · exact append buffer bytes

end Stays

end Buffer

end Conduit
