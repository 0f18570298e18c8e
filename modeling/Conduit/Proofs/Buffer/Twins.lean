import Conduit.Proofs.Transfer.Likeness
import Conduit.Proofs.World.Residue
import Mathlib.Order.Interval.Set.Basic

set_option autoImplicit false

namespace Conduit

namespace Buffer

/-- The positions of the unread bytes. -/
def span (buffer : Buffer) : Set Nat := Set.Ico buffer.readAt buffer.writeAt

/-- Buffers of one outline over storages that hold the same at these positions. -/
structure Twins (known : Set Nat) (one other : Buffer) : Prop where
  outline : one.outline = other.outline
  storage : ∀ place ∈ known, one.storage[place]? = other.storage[place]?

/-- Bytes that were put over a part of a storage leave the rest. -/
theorem getElem?_overwritten (storage bytes : Bytes) {start : Nat} (within : start ≤ storage.length)
    (place : Nat) :
    (storage.take start ++ bytes ++ storage.drop (start + bytes.length))[place]? =
      if start ≤ place ∧ place < start + bytes.length then bytes[place - start]?
      else storage[place]? := by
  have length : (storage.take start).length = start := List.length_take_of_le within
  rcases Nat.lt_or_ge place start with before | after
  · rw [if_neg (by omega), List.append_assoc, List.getElem?_append_left (by omega),
      List.getElem?_take_of_lt before]
  · rw [List.append_assoc, List.getElem?_append_right (by omega), length]
    by_cases inside : place < start + bytes.length
    · rw [if_pos ⟨after, inside⟩, List.getElem?_append_left (by omega)]
    · rw [if_neg (by omega), List.getElem?_append_right (by omega), List.getElem?_drop]
      congr 1
      omega

theorem outline_eq {one other : Buffer} (unread : one.unread = other.unread)
    (read : one.readAt = other.readAt) (size : one.size = other.size)
    (capacity : one.capacity = other.capacity) (owner : one.owner = other.owner) :
    one.outline = other.outline := by
  rw [outline, unread, read, size, capacity, owner, outline]

/-- An unread byte stands where the cursors say. -/
theorem getElem?_unread (buffer : Buffer) {place : Nat} (inside : place ∈ buffer.span) :
    buffer.storage[place]? = buffer.unread[place - buffer.readAt]? := by
  obtain ⟨from_read, below⟩ := inside
  rw [unread_eq, List.getElem?_drop, List.getElem?_take_of_lt (by omega)]
  congr 1
  omega

namespace Twins

variable {known : Set Nat} {one other : Buffer}

section

variable (twins : Twins known one other)

include twins

theorem unread : one.unread = other.unread := congrArg Outline.unread twins.outline

theorem readAt : one.readAt = other.readAt := congrArg Outline.readAt twins.outline

theorem size : one.size = other.size := congrArg Outline.size twins.outline

theorem capacity : one.capacity = other.capacity := congrArg Outline.capacity twins.outline

theorem owner : one.owner = other.owner := congrArg Outline.owner twins.outline

theorem writeAt : one.writeAt = other.writeAt := by
  have read := twins.readAt
  rw [Buffer.readAt, Buffer.readAt] at read
  rw [Buffer.writeAt, Buffer.writeAt, read, twins.unread]

theorem freeLen : one.freeLen = other.freeLen := by
  rw [Buffer.freeLen, Buffer.freeLen, twins.size, twins.writeAt]

theorem isFull : one.isFull = other.isFull := by
  rw [Buffer.isFull, Buffer.isFull, twins.freeLen]

theorem isEmpty : one.isEmpty = other.isEmpty := by
  rw [Buffer.isEmpty, Buffer.isEmpty, twins.unread]

theorem widen : Twins (known ∪ one.span) one other := by
  refine ⟨twins.outline, fun place inside => ?_⟩
  rcases inside with known | seen
  · exact twins.storage place known
  · have also : place ∈ other.span := by
      rw [span, ← twins.readAt, ← twins.writeAt]
      exact seen
    rw [getElem?_unread one seen, getElem?_unread other also, twins.unread, twins.readAt]

/-- The same bytes, stored at the start of the free region, are known. -/
theorem overwritten {after later : Buffer} {bytes : Bytes}
    (left : after.storage = one.storage.take one.writeAt ++ bytes ++
      one.storage.drop (one.writeAt + bytes.length))
    (right : later.storage = other.storage.take other.writeAt ++ bytes ++
      other.storage.drop (other.writeAt + bytes.length)) :
    ∀ place ∈ known ∪ Set.Ico one.writeAt (one.writeAt + bytes.length),
      after.storage[place]? = later.storage[place]? := by
  intro place inside
  have within := one.length_storage ▸ one.writeAt_le_capacity
  have also := other.length_storage ▸ other.writeAt_le_capacity
  rw [left, right, getElem?_overwritten _ _ within, getElem?_overwritten _ _ also, twins.writeAt]
  split
  · rfl
  · rename_i outside
    rw [twins.writeAt] at inside
    exact twins.storage place (inside.resolve_right outside)

theorem puts {after later : Buffer} {bytes : Bytes} (left : one.Puts after bytes)
    (right : other.Puts later bytes) : Twins known after later := by
  refine ⟨outline_eq ?_ ?_ ?_ ?_ ?_, fun place inside => ?_⟩
  · rw [left.unread, right.unread, twins.unread]
  · rw [left.read, right.read, twins.readAt]
  · rw [left.size, right.size, twins.size]
  · rw [← length_storage, ← length_storage, left.storage, right.storage, twins.writeAt]
    simp only [List.length_append, List.length_take, List.length_drop, length_storage,
      twins.capacity]
  · rw [left.owner, right.owner, twins.owner]
  · exact twins.overwritten left.storage right.storage place (.inl inside)

theorem recut {after later : Buffer} (left : after.storage = one.storage)
    (right : later.storage = other.storage) (unread : after.unread = later.unread)
    (read : after.readAt = later.readAt) (size : after.size = later.size)
    (owner : after.owner = later.owner) : Twins known after later := by
  refine ⟨outline_eq unread read size ?_ owner, fun place inside => ?_⟩
  · rw [← length_storage, ← length_storage, left, right, length_storage, length_storage,
      twins.capacity]
  · rw [left, right]
    exact twins.storage place inside

/-- Twins lose as many of their first unread bytes. -/
theorem takes {after later : Buffer} {count : Nat} (left : one.Takes after count)
    (right : other.Takes later count) : Twins known after later := by
  have unread : after.unread = later.unread := by rw [left.unread, right.unread, twins.unread]
  have write : after.writeAt = later.writeAt := by rw [left.write, right.write, twins.writeAt]
  refine twins.recut left.storage right.storage unread ?_ ?_ ?_
  · rw [Buffer.writeAt, Buffer.writeAt, unread] at write
    exact Nat.add_right_cancel write
  · rw [left.size, right.size, twins.size]
  · rw [left.owner, right.owner, twins.owner]

/-- Twins keep as many of their first unread bytes. -/
theorem trims {after later : Buffer} {count size : Nat} (left : one.Trims after count size)
    (right : other.Trims later count size) (read : after.readAt = later.readAt) :
    Twins known after later := by
  refine twins.recut left.storage right.storage ?_ read (left.size.trans right.size.symm) ?_
  · rw [left.unread, right.unread, twins.unread]
  · rw [left.owner, right.owner, twins.owner]

theorem append (bytes : Bytes) : Twins known (one.append bytes) (other.append bytes) := by
  have left := Puts.append_fitting one bytes
  rw [twins.freeLen] at left
  exact twins.puts left (.append_fitting other bytes)

theorem consume (count : Nat) : Twins known (one.consume count) (other.consume count) :=
  twins.takes (.consume one count) (.consume other count)

theorem write (bytes : Bytes) :
    (one.write bytes).1 = (other.write bytes).1 ∧
      Twins known (one.write bytes).2 (other.write bytes).2 := by
  unfold Buffer.write
  rw [twins.isFull, twins.freeLen]
  split
  · exact ⟨rfl, twins⟩
  · split
    · exact ⟨rfl, twins⟩
    · exact ⟨rfl, twins.append bytes⟩

theorem writeByte (byte : UInt8) :
    (one.writeByte byte).1 = (other.writeByte byte).1 ∧
      Twins known (one.writeByte byte).2 (other.writeByte byte).2 := by
  unfold Buffer.writeByte
  rw [twins.isFull]
  split
  · exact ⟨rfl, twins⟩
  · exact ⟨rfl, twins.append [byte]⟩

theorem writeAll (bytes : Bytes) :
    (one.writeAll bytes).1 = (other.writeAll bytes).1 ∧
      Twins known (one.writeAll bytes).2 (other.writeAll bytes).2 := by
  unfold Buffer.writeAll
  rw [twins.freeLen]
  split
  · exact ⟨rfl, twins⟩
  · exact ⟨rfl, twins.append bytes⟩

theorem readByte :
    one.readByte.1 = other.readByte.1 ∧ Twins known one.readByte.2 other.readByte.2 := by
  unfold Buffer.readByte
  rw [twins.unread]
  split
  · exact ⟨rfl, twins⟩
  · exact ⟨rfl, twins.consume 1⟩

theorem discard (count : Nat) :
    (one.discard count).1 = (other.discard count).1 ∧
      Twins known (one.discard count).2 (other.discard count).2 := by
  unfold Buffer.discard
  rw [twins.isEmpty, twins.unread]
  split
  · exact ⟨rfl, twins⟩
  · exact ⟨rfl, twins.consume count⟩

theorem peek (count : Nat) : one.peek count = other.peek count := by
  rw [Buffer.peek, Buffer.peek, twins.isEmpty, twins.unread]

theorem truncate (count : Nat) : Twins known (one.truncate count) (other.truncate count) :=
  twins.trims (.truncate one count) (twins.size ▸ .truncate other count) twins.readAt

theorem reset : Twins known one.reset other.reset :=
  twins.trims (.reset one) (twins.size ▸ .reset other) rfl

theorem stash (bytes : Bytes) :
    Twins (known ∪ Set.Ico one.writeAt (one.writeAt + min one.freeLen bytes.length))
      (one.stash bytes) (other.stash bytes) := by
  have storage : ∀ buffer : Buffer, (buffer.stash bytes).storage =
      buffer.storage.take buffer.writeAt ++ bytes.take buffer.freeLen ++
        buffer.storage.drop (buffer.writeAt + (bytes.take buffer.freeLen).length) := by
    intro buffer
    rw [← List.drop_drop, take_writeAt, drop_writeAt]
    simp only [Buffer.stash, Buffer.storage, List.append_assoc]
  have left := storage one
  rw [twins.freeLen] at left
  refine ⟨outline_eq twins.unread twins.readAt twins.size ?_ twins.owner, ?_⟩
  · rw [← length_storage, ← length_storage, left, storage other, twins.writeAt]
    simp only [List.length_append, List.length_take, List.length_drop, length_storage,
      twins.capacity]
  · rw [twins.freeLen, ← List.length_take]
    exact twins.overwritten left (storage other)

/-- Bytes that were stored before they are committed are the same in both. -/
theorem commit {count : Nat} (fits : count ≤ one.freeLen)
    (stored : Set.Ico one.writeAt (one.writeAt + count) ⊆ known) :
    ∃ after later, one.commit count = .ok after ∧ other.commit count = .ok later ∧
      Twins known after later := by
  -- The storages need not agree behind the unread bytes, except where bytes were stored.
  have spare : one.spare.take count = other.spare.take count := by
    refine List.ext_getElem? fun place => ?_
    rw [List.getElem?_take, List.getElem?_take]
    split
    · rename_i inside
      have known := twins.storage (one.writeAt + place) (stored (by constructor <;> omega))
      rwa [← List.getElem?_drop, drop_writeAt, twins.writeAt, ← List.getElem?_drop,
        drop_writeAt] at known
    · rfl
  have storage : ∀ buffer : Buffer, Buffer.storage { buffer with
        unread := buffer.unread ++ buffer.spare.take count
        spare := buffer.spare.drop count } = buffer.storage := by
    intro buffer
    simp only [Buffer.storage, List.append_assoc, List.take_append_drop]
  refine ⟨_, _, if_neg (Nat.not_lt.mpr fits), if_neg (Nat.not_lt.mpr (twins.freeLen ▸ fits)), ?_⟩
  refine twins.recut (storage one) (storage other) ?_ twins.readAt twins.size twins.owner
  rw [twins.unread, spare]

theorem resize {size : Nat} (fits : size ≤ one.capacity) :
    ∃ after later, one.resize size = .ok after ∧ other.resize size = .ok later ∧
      Twins known after later := by
  refine ⟨_, _, if_neg (Nat.not_lt.mpr fits), if_neg (Nat.not_lt.mpr (twins.capacity ▸ fits)), ?_⟩
  refine twins.trims (.resize one size) (twins.readAt ▸ .resize other size) ?_
  show (one.storage.take (min one.readAt (min one.writeAt size))).reverse.length =
    (other.storage.take (min other.readAt (min other.writeAt size))).reverse.length
  simp only [List.length_reverse, List.length_take, length_storage, twins.capacity, twins.readAt,
    twins.writeAt]

/-- Twins are freed without a trace of what only one of them held. -/
theorem free {past others : List Event} {world later : World}
    (alike : World.Alike past others world later) :
    Twins known (world.freeBuffer one).1 (later.freeBuffer other).1 ∧
      World.Alike past others (world.freeBuffer one).2 (later.freeBuffer other).2 := by
  obtain ⟨outline, freed⟩ := alike.freeBuffer twins.outline
  have bare : ∀ (world : World) (buffer : Buffer), (world.freeBuffer buffer).1.storage = [] := by
    intro world buffer
    rw [← List.length_eq_zero_iff, length_storage, World.capacity_freed]
  exact ⟨⟨outline, fun place _ => by rw [bare, bare]⟩, freed⟩

end

end Twins

end Buffer

end Conduit
