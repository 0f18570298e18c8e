set_option autoImplicit false

namespace Conduit

/-- A string of bytes, first byte first. -/
abbrev Bytes := List UInt8

/-- The digits of a number to the base sixteen, with zeros in front up to a width. -/
def hexDigits (width value : Nat) : String :=
  let digits := Nat.toDigits 16 value
  String.ofList (List.replicate (width - digits.length) '0' ++ digits)

/-- The value of a digit; capital letters count as small ones. -/
def hexValue? (c : Char) : Option Nat :=
  if '0' ≤ c ∧ c ≤ '9' then some (c.toNat - 48)
  else if 'a' ≤ c ∧ c ≤ 'f' then some (c.toNat - 87)
  else if 'A' ≤ c ∧ c ≤ 'F' then some (c.toNat - 55)
  else none

namespace Bytes

def ofText (text : String) : Bytes := text.toUTF8.toList

/-- Sample bytes that step by seven, so that neighbouring windows differ. -/
def patterned (count : Nat) : Bytes :=
  (List.range count).map fun index => UInt8.ofNat ((index * 7 + 13) % 256)

def sequential (count : Nat) : Bytes :=
  (List.range count).map fun index => UInt8.ofNat (index % 256)

@[simp] theorem length_patterned (count : Nat) : (patterned count).length = count := by
  simp [patterned]

@[simp] theorem length_sequential (count : Nat) : (sequential count).length = count := by
  simp [sequential]

def hex : Bytes → List Char
  | [] => []
  | byte :: rest => Nat.digitChar (byte.toNat / 16) :: Nat.digitChar (byte.toNat % 16) :: hex rest

/-- The bytes that pairs of digits stand for. -/
def ofHex? : List Char → Option Bytes
  | [] => some []
  | high :: low :: rest =>
    match hexValue? high, hexValue? low, ofHex? rest with
    | some high, some low, some bytes => some (UInt8.ofNat (high * 16 + low) :: bytes)
    | _, _, _ => none
  | _ => none

theorem hexValue?_digitChar (value : Fin 16) :
    hexValue? (Nat.digitChar value) = some value.val := by
  revert value
  decide

theorem ofHex?_hex (bytes : Bytes) : ofHex? bytes.hex = some bytes := by
  induction bytes with
  | nil => rfl
  | cons byte rest ih =>
    have below : byte.toNat < 256 := byte.toNat_lt
    have high := hexValue?_digitChar ⟨byte.toNat / 16, by omega⟩
    have low := hexValue?_digitChar ⟨byte.toNat % 16, by omega⟩
    have whole : byte.toNat / 16 * 16 + byte.toNat % 16 = byte.toNat := Nat.div_add_mod' _ _
    simp only at high low
    simp [hex, ofHex?, high, low, ih, whole]

end Bytes

end Conduit
