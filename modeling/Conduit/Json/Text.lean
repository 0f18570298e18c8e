import Conduit.Bytes

set_option autoImplicit false

namespace Conduit

/-- A natural number rounded to 53 binary digits, a half to the even neighbour. It is the nearest
binary number of 64 bits as long as it is below `1 <<< 1024`. -/
def roundBinary (value : Nat) : Nat :=
  let unit := 1 <<< (value.log2 - 52)
  let (whole, part) := (value / unit, value % unit)
  let up := unit < 2 * part ∨ (2 * part = unit ∧ whole % 2 = 1)
  (if up then whole + 1 else whole) * unit

/-- A number of at most 53 binary digits stays as it is. -/
theorem roundBinary_of_lt {value : Nat} (small : value < 1 <<< 53) : roundBinary value = value := by
  rw [Nat.one_shiftLeft] at small
  have whole : value.log2 - 52 = 0 := by
    by_cases nothing : value = 0
    · simp [nothing]
    · have short := (Nat.log2_lt nothing).2 small
      omega
  simp [roundBinary, whole, Nat.mod_one]

/-- Rounding moves a number by at most half a unit of its last digit. -/
theorem roundBinary_near (value : Nat) :
    2 * (roundBinary value - value) ≤ 1 <<< (value.log2 - 52) ∧
      2 * (value - roundBinary value) ≤ 1 <<< (value.log2 - 52) := by
  unfold roundBinary
  have positive : 0 < 1 <<< (value.log2 - 52) := by
    rw [Nat.one_shiftLeft]
    exact Nat.two_pow_pos _
  generalize 1 <<< (value.log2 - 52) = unit at positive ⊢
  have parts := Nat.div_add_mod value unit
  have bounded := Nat.mod_lt value positive
  rw [Nat.mul_comm] at parts
  dsimp only
  split
  · have carried : (value / unit + 1) * unit = value / unit * unit + unit := Nat.succ_mul _ _
    omega
  · omega

namespace Json

def escaped (c : Char) : String :=
  if c = '"' then "\\\""
  else if c = '\\' then "\\\\"
  else if c = '\n' then "\\n"
  else if c = '\r' then "\\r"
  else if c = '\t' then "\\t"
  else if c.toNat = 8 then "\\b"
  else if c.toNat = 12 then "\\f"
  else if c.toNat < 32 then "\\u" ++ hexDigits 4 c.toNat
  else c.toString

def quoted (text : String) : String :=
  text.toList.foldl (fun written c => written ++ escaped c) "\"" ++ "\""

inductive ReadFault where
  /-- The text is no JSON at this place. -/
  | malformed
  /-- The value is not of the shape wanted here. -/
  | unfit
  | cutShort
  deriving DecidableEq, Repr

/-- A way to read a value off the front of a text. -/
abbrev Reader (α : Type) := Bytes → Except ReadFault (α × Bytes)

def ascii (c : Char) : UInt8 := UInt8.ofNat c.toNat

/-- Bytes that may stand between values. -/
def isSpace (byte : UInt8) : Bool := byte == 32 || byte == 9 || byte == 10 || byte == 13

def isDigit (byte : UInt8) : Bool := 48 ≤ byte && byte ≤ 57

def skipSpace (text : Bytes) : Bytes := text.dropWhile isSpace

def digitsValue (digits : Bytes) : Nat :=
  digits.foldl (fun value digit => value * 10 + (digit.toNat - 48)) 0

def readWord : List Char → Reader Unit
  | [], text => .ok ((), text)
  | _ :: _, [] => .error .cutShort
  | c :: rest, byte :: text =>
    if byte = ascii c then readWord rest text else .error .malformed

/-- Reads four hexadecimal digits. -/
def readHex : Reader Nat
  | a :: b :: c :: d :: text =>
    let value? (byte : UInt8) : Option Nat := hexValue? (Char.ofNat byte.toNat)
    match value? a, value? b, value? c, value? d with
    | some a, some b, some c, some d => .ok (((a * 16 + b) * 16 + c) * 16 + d, text)
    | _, _, _, _ => .error .malformed
  | _ => .error .cutShort

def encodeChar (code : Nat) : Bytes := Bytes.ofText (String.singleton (Char.ofNat code))

/-- Reads what follows a backslash and a `u`: one unit, or a pair of them for a character beyond the
first plane. A unit of a pair does not stand alone. -/
def readUnicode (text : Bytes) : Except ReadFault (Bytes × Bytes) := do
  let (first, text) ← readHex text
  if 0xDC00 ≤ first ∧ first ≤ 0xDFFF then .error .malformed
  else if first < 0xD800 ∨ 0xDBFF < first then .ok (encodeChar first, text)
  else match text with
    | [] => .error .cutShort
    | [backslash] => if backslash = 92 then .error .cutShort else .error .malformed
    | backslash :: u :: text =>
      if backslash = 92 ∧ u = 117 then do
        let (second, text) ← readHex text
        if second < 0xDC00 ∨ 0xDFFF < second then .error .malformed
        else .ok (encodeChar (0x10000 + (first - 0xD800) * 0x400 + (second - 0xDC00)), text)
      else .error .malformed

/-- The byte that a backslash and a letter stand for. -/
def simpleEscape? (byte : UInt8) : Option UInt8 :=
  if byte = ascii '"' ∨ byte = ascii '\\' ∨ byte = ascii '/' then some byte
  else if byte = ascii 'b' then some 8
  else if byte = ascii 'f' then some 12
  else if byte = ascii 'n' then some 10
  else if byte = ascii 'r' then some 13
  else if byte = ascii 't' then some 9
  else none

/-- Reads a string up to its closing quotation mark. `steps` bounds its length. -/
def readStringBody : (steps : Nat) → (read : Bytes) → Reader Bytes
  | 0, _, _ => .error .cutShort
  | _ + 1, _, [] => .error .cutShort
  | steps + 1, read, byte :: text =>
    if byte = ascii '"' then .ok (read.reverse, text)
    else if byte = ascii '\\' then
      match text with
      | [] => .error .cutShort
      | letter :: text =>
        if letter = ascii 'u' then
          match readUnicode text with
          | .error fault => .error fault
          | .ok (bytes, text) => readStringBody steps (bytes.reverse ++ read) text
        else match simpleEscape? letter with
          | some byte => readStringBody steps (byte :: read) text
          | none => .error .malformed
    else if byte < 32 then .error .malformed
    else readStringBody steps (byte :: read) text

/-- Reads a string behind its opening quotation mark. -/
def readString : Reader Bytes := fun text => readStringBody (text.length + 1) [] text

/-- A number, as far as settings tell numbers apart. -/
inductive Number where
  /-- A natural number of at most 64 bits. -/
  | natural (value : Nat)
  | other
  deriving DecidableEq, Repr

/-- A decimal number is too large for a binary one of 64 bits. The significand and the power of ten
are rounded before they are multiplied, and the product is rounded again. -/
def isOutOfRange (significand : Nat) (exponent : Int) : Bool :=
  if significand = 0 ∨ exponent < 0 then false
  else if 308 < exponent then true
  else decide
    (1 <<< 1024 ≤ roundBinary (roundBinary significand * roundBinary (Nat.pow 10 exponent.toNat)))

/-- The number, unless it is too large. -/
def ranged (significand : Nat) (exponent : Int) (text : Bytes) :
    Except ReadFault (Number × Bytes) :=
  if isOutOfRange significand exponent then .error .malformed else .ok (.other, text)

/-- Appends digits to a significand as long as it stays within 64 bits, and gives the digits from
which on it does not. -/
def appendDigits (significand : Nat) : Bytes → Nat × Bytes
  | [] => (significand, [])
  | digit :: rest =>
    let value := significand * 10 + (digit.toNat - 48)
    if value < 1 <<< 64 then appendDigits value rest else (significand, digit :: rest)

def readExponent (significand : Nat) (exponent : Int) (text : Bytes) :
    Except ReadFault (Number × Bytes) :=
  let (negative, text) := match text with
    | byte :: rest =>
      if byte = ascii '-' then (true, rest)
      else if byte = ascii '+' then (false, rest) else (false, text)
    | [] => (false, [])
  let digits := text.takeWhile isDigit
  if text.isEmpty then .error .cutShort
  else if digits.isEmpty then .error .malformed
  else
    let shift : Int := digitsValue digits
    ranged significand (if negative then exponent - shift else exponent + shift)
      (text.dropWhile isDigit)

def readScale (significand : Nat) (exponent : Int) (text : Bytes) :
    Except ReadFault (Number × Bytes) :=
  match text with
  | byte :: rest =>
    if byte = ascii 'e' ∨ byte = ascii 'E' then readExponent significand exponent rest
    else ranged significand exponent text
  | [] => ranged significand exponent []

/-- Reads the digits behind a decimal point and what follows them. Digits for which the significand
has no room are left out. -/
def readFraction (significand : Nat) (exponent : Int) (text : Bytes) :
    Except ReadFault (Number × Bytes) :=
  let digits := text.takeWhile isDigit
  if text.isEmpty then .error .cutShort
  else if digits.isEmpty then .error .malformed
  else
    let (significand, excess) := appendDigits significand digits
    readScale significand (exponent - digits.length + excess.length) (text.dropWhile isDigit)

/-- Reads a number that begins with these digits: a fraction, an exponent, or neither may follow.
Each digit for which the significand has no room raises the exponent. -/
def readTail (positive : Bool) (digits text : Bytes) : Except ReadFault (Number × Bytes) :=
  let (significand, excess) := appendDigits 0 digits
  let whole := if positive && excess.isEmpty then .ok (.natural significand, text)
    else ranged significand excess.length text
  match text with
  | byte :: rest =>
    if byte = ascii '.' then readFraction significand excess.length rest
    else if byte = ascii 'e' ∨ byte = ascii 'E' then readExponent significand excess.length rest
    else whole
  | [] => whole

/-- Reads a number, behind its sign if it has one. A zero at the front stands alone. -/
def readNumber (positive : Bool) (text : Bytes) : Except ReadFault (Number × Bytes) :=
  match text with
  | [] => .error .cutShort
  | first :: rest =>
    if !isDigit first then .error .malformed
    else if first = ascii '0' then
      match rest with
      | next :: _ => if isDigit next then .error .malformed else readTail positive [first] rest
      | [] => readTail positive [first] []
    else readTail positive (text.takeWhile isDigit) (text.dropWhile isDigit)

def skipDigits : Reader Unit := fun text =>
  if (text.takeWhile isDigit).isEmpty then .error .malformed
  else .ok ((), text.dropWhile isDigit)

def skipExponent : Reader Unit
  | byte :: rest =>
    if byte = ascii '-' ∨ byte = ascii '+' then skipDigits rest else skipDigits (byte :: rest)
  | [] => .error .malformed

/-- Skips a number behind its sign. A number that breaks off is malformed. -/
def skipNumber : Reader Unit := fun text => do
  let text ← match text with
    | first :: rest =>
      if first = ascii '0' then
        match rest with
        | next :: _ => if isDigit next then .error .malformed else .ok rest
        | [] => .ok []
      else if isDigit first then .ok (rest.dropWhile isDigit)
      else .error .malformed
    | [] => .error .malformed
  let text ← match text with
    | byte :: rest => if byte = ascii '.' then (skipDigits rest).map (·.2) else .ok text
    | [] => .ok []
  match text with
  | byte :: rest =>
    if byte = ascii 'e' ∨ byte = ascii 'E' then skipExponent rest else .ok ((), text)
  | [] => .ok ((), [])

/-- Skips a string up to its closing quotation mark, whatever its escapes stand for. -/
def skipString : (steps : Nat) → Reader Unit
  | 0, _ => .error .cutShort
  | _ + 1, [] => .error .cutShort
  | steps + 1, byte :: text =>
    if byte = ascii '"' then .ok ((), text)
    else if byte = ascii '\\' then
      match text with
      | [] => .error .cutShort
      | letter :: text =>
        if letter = ascii 'u' then
          match readHex text with
          | .error fault => .error fault
          | .ok (_, text) => skipString steps text
        else if (simpleEscape? letter).isSome then skipString steps text
        else .error .malformed
    else if byte < 32 then .error .malformed
    else skipString steps text

inductive Skipping where
  | value
  /-- The first element of a list, or its end. -/
  | firstElement
  /-- A comma before the next element of a list, or its end. -/
  | nextElement
  /-- The first member of an object, or its end. -/
  | firstMember
  | member
  /-- A comma before the next member of an object, or its end. -/
  | nextMember
  deriving DecidableEq, Repr

/-- Skips values until nothing is left to do. `todo` lists what is still to be met, the next
first; `steps` bounds the work. -/
def skipAll : (steps : Nat) → (todo : List Skipping) → Reader Unit
  | _, [], text => .ok ((), text)
  | 0, _ :: _, _ => .error .cutShort
  | steps + 1, .value :: todo, text =>
    match skipSpace text with
    | [] => .error .cutShort
    | byte :: text =>
      let simple : Except ReadFault (Unit × Bytes) :=
        if byte = ascii 'n' then readWord ['u', 'l', 'l'] text
        else if byte = ascii 't' then readWord ['r', 'u', 'e'] text
        else if byte = ascii 'f' then readWord ['a', 'l', 's', 'e'] text
        else if byte = ascii '-' then skipNumber text
        else if isDigit byte then skipNumber (byte :: text)
        else if byte = ascii '"' then skipString (text.length + 1) text
        else .error .malformed
      if byte = ascii '[' then skipAll steps (.firstElement :: todo) text
      else if byte = ascii '\x7b' then skipAll steps (.firstMember :: todo) text
      else match simple with
        | .error fault => .error fault
        | .ok (_, text) => skipAll steps todo text
  | steps + 1, .firstElement :: todo, text =>
    match skipSpace text with
    | [] => .error .cutShort
    | byte :: rest =>
      if byte = ascii ']' then skipAll steps todo rest
      else skipAll steps (.value :: .nextElement :: todo) (byte :: rest)
  | steps + 1, .nextElement :: todo, text =>
    match skipSpace text with
    | [] => .error .cutShort
    | byte :: rest =>
      if byte = ascii ']' then skipAll steps todo rest
      else if byte = ascii ',' then skipAll steps (.value :: .nextElement :: todo) rest
      else .error .malformed
  | steps + 1, .firstMember :: todo, text =>
    match skipSpace text with
    | [] => .error .cutShort
    | byte :: rest =>
      if byte = ascii '\x7d' then skipAll steps todo rest
      else skipAll steps (.member :: todo) (byte :: rest)
  | steps + 1, .member :: todo, text =>
    match skipSpace text with
    | [] => .error .cutShort
    | byte :: rest =>
      if byte = ascii '"' then
        match skipString (rest.length + 1) rest with
        | .error fault => .error fault
        | .ok (_, rest) =>
          match skipSpace rest with
          | [] => .error .cutShort
          | byte :: rest =>
            if byte = ascii ':' then skipAll steps (.value :: .nextMember :: todo) rest
            else .error .malformed
      else .error .malformed
  | steps + 1, .nextMember :: todo, text =>
    match skipSpace text with
    | [] => .error .cutShort
    | byte :: rest =>
      if byte = ascii '\x7d' then skipAll steps todo rest
      else if byte = ascii ',' then skipAll steps (.member :: todo) rest
      else .error .malformed

def skipValue : Reader Unit := fun text => skipAll (3 * text.length + 3) [.value] text

/-- The fault of a value, whose first byte is next, that is not of the shape wanted here. A scalar
that is itself malformed is reported as that. -/
def wrongShape (text : Bytes) : ReadFault :=
  let judged {α : Type} (read : Except ReadFault α) : ReadFault :=
    match read with
    | .ok _ => .unfit
    | .error fault => fault
  match text with
  | [] => .cutShort
  | byte :: text =>
    if byte = ascii 'n' then judged (readWord ['u', 'l', 'l'] text)
    else if byte = ascii 't' then judged (readWord ['r', 'u', 'e'] text)
    else if byte = ascii 'f' then judged (readWord ['a', 'l', 's', 'e'] text)
    else if byte = ascii '-' then judged (readNumber false text)
    else if isDigit byte then judged (readNumber true (byte :: text))
    else if byte = ascii '"' then judged (readString text)
    else if byte = ascii '[' ∨ byte = ascii '\x7b' then .unfit
    else .malformed

def natBelow (limit : Nat) : Reader Nat := fun text =>
  let text := skipSpace text
  match text with
  | [] => .error .cutShort
  | byte :: rest =>
    let read := if byte = ascii '-' then readNumber false rest
      else if isDigit byte then readNumber true text else .error (wrongShape text)
    match read with
    | .error fault => .error fault
    | .ok (.natural value, rest) => if value < limit then .ok (value, rest) else .error .unfit
    | .ok (.other, _) => .error .unfit

def bool : Reader Bool := fun text =>
  let text := skipSpace text
  match text with
  | [] => .error .cutShort
  | byte :: rest =>
    if byte = ascii 't' then (readWord ['r', 'u', 'e'] rest).map fun (_, rest) => (true, rest)
    else if byte = ascii 'f' then
      (readWord ['a', 'l', 's', 'e'] rest).map fun (_, rest) => (false, rest)
    else .error (wrongShape text)

def null : Reader Unit := fun text =>
  let text := skipSpace text
  match text with
  | [] => .error .cutShort
  | byte :: rest =>
    if byte = ascii 'n' then readWord ['u', 'l', 'l'] rest else .error (wrongShape text)

/-- Looks for the next element of a list: none at the closing bracket, which stays, and else the
text at which the element begins. -/
def nextElement (first : Bool) (text : Bytes) : Except ReadFault (Option Bytes) :=
  match skipSpace text with
  | [] => .error .cutShort
  | byte :: rest =>
    if byte = ascii ']' then .ok none
    else if first then .ok (some (byte :: rest))
    else if byte = ascii ',' then
      match skipSpace rest with
      | [] => .error .cutShort
      | next :: rest =>
        if next = ascii ']' then .error .malformed else .ok (some (next :: rest))
    else .error .malformed

def closeWith (bracket : Char) : Reader Unit := fun text =>
  match skipSpace text with
  | [] => .error .cutShort
  | byte :: rest => if byte = ascii bracket then .ok ((), rest) else .error .malformed

/-- Reads the elements of a list behind its opening bracket. -/
def elements {α : Type} (element : Reader α) : (steps : Nat) → (first : Bool) → Reader (List α)
  | 0, _, _ => .error .cutShort
  | steps + 1, first, text =>
    match nextElement first text with
    | .error fault => .error fault
    | .ok none => (closeWith ']' text).map fun (_, rest) => ([], rest)
    | .ok (some text) =>
      match element text with
      | .error fault => .error fault
      | .ok (value, text) =>
        (elements element steps false text).map fun (values, rest) => (value :: values, rest)

def list {α : Type} (element : Reader α) : Reader (List α) := fun text =>
  let text := skipSpace text
  match text with
  | [] => .error .cutShort
  | byte :: rest =>
    if byte = ascii '[' then elements element (rest.length + 1) true rest
    else .error (wrongShape text)

structure Field (α : Type) where
  name : String
  /-- Reads the value and stores it. -/
  read : α → Reader α

def Field.of {α β : Type} (name : String) (value : Reader β) (store : α → β → α) : Field α :=
  ⟨name, fun record text => (value text).map fun (value, rest) => (store record value, rest)⟩

/-- Reads the fields of a record as the elements of a list, in their order. Fields that are missing
at the end keep what the record holds; elements beyond the fields are malformed. -/
def recordElements {α : Type} : List (Field α) → (first : Bool) → α → Reader α
  | [], _, record, text => (closeWith ']' text).map fun (_, rest) => (record, rest)
  | field :: fields, first, record, text =>
    match nextElement first text with
    | .error fault => .error fault
    | .ok none => (closeWith ']' text).map fun (_, rest) => (record, rest)
    | .ok (some text) =>
      match field.read record text with
      | .error fault => .error fault
      | .ok (record, text) => recordElements fields false record text

/-- Looks for the next key of an object: none at the closing bracket, which stays, and else the key
and the text behind it. -/
def nextKey (first : Bool) (text : Bytes) : Except ReadFault (Option (Bytes × Bytes)) :=
  let key (text : Bytes) : Except ReadFault (Option (Bytes × Bytes)) :=
    match text with
    | byte :: rest =>
      if byte = ascii '"' then (readString rest).map some else .error .malformed
    | [] => .error .cutShort
  match skipSpace text with
  | [] => .error .cutShort
  | byte :: rest =>
    if byte = ascii '\x7d' then .ok none
    else if first then key (byte :: rest)
    else if byte = ascii ',' then key (skipSpace rest)
    else .error .malformed

/-- Reads the members of a record's object behind its opening bracket. A field that comes twice does
not fit; members of other names are skipped. -/
def recordMembers {α : Type} (fields : List (Field α)) : (steps : Nat) → (first : Bool) →
    (seen : List String) → α → Reader α
  | 0, _, _, _, _ => .error .cutShort
  | steps + 1, first, seen, record, text =>
    match nextKey first text with
    | .error fault => .error fault
    | .ok none => (closeWith '\x7d' text).map fun (_, rest) => (record, rest)
    | .ok (some (key, text)) =>
      match fields.find? fun field => Bytes.ofText field.name == key with
      | none =>
        match closeWith ':' text with
        | .error fault => .error fault
        | .ok (_, text) =>
          match skipValue text with
          | .error fault => .error fault
          | .ok (_, text) => recordMembers fields steps false seen record text
      | some field =>
        if field.name ∈ seen then .error .unfit
        else match closeWith ':' text with
          | .error fault => .error fault
          | .ok (_, text) =>
            match field.read record text with
            | .error fault => .error fault
            | .ok (record, text) =>
              recordMembers fields steps false (field.name :: seen) record text

/-- Reads a record from an object, or from a list of its fields in order. Fields that are missing
keep what `usual` holds. -/
def record {α : Type} (fields : List (Field α)) (usual : α) : Reader α := fun text =>
  let text := skipSpace text
  match text with
  | [] => .error .cutShort
  | byte :: rest =>
    if byte = ascii '[' then recordElements fields true usual rest
    else if byte = ascii '\x7b' then recordMembers fields (rest.length + 1) true [] usual rest
    else .error (wrongShape text)

def oneOf {α : Type} (ofName? : Bytes → Option α) : Reader α := fun text =>
  let text := skipSpace text
  match text with
  | [] => .error .cutShort
  | byte :: rest =>
    if byte = ascii '"' then
      match readString rest with
      | .error fault => .error fault
      | .ok (name, rest) =>
        match ofName? name with
        | some value => .ok (value, rest)
        | none => .error .unfit
    else .error (wrongShape text)

/-- Reads one of several choices without content: its name, or an object whose only key is the name
and whose value is `null`. -/
def choice {α : Type} (ofName? : Bytes → Option α) : Reader α := fun text =>
  let text := skipSpace text
  match text with
  | [] => .error .cutShort
  | byte :: rest =>
    if byte = ascii '"' then oneOf ofName? text
    else if byte = ascii '\x7b' then
      match skipSpace rest with
      | [] => .error .cutShort
      | byte :: rest =>
        if byte = ascii '"' then do
          let (value, rest) ← oneOf ofName? (byte :: rest)
          let (_, rest) ← closeWith ':' rest
          let (_, rest) ← null rest
          let (_, rest) ← closeWith '\x7d' rest
          .ok (value, rest)
        else .error .malformed
    else .error .malformed

/-- Reads a whole text, behind which only space may follow. -/
def readText {α : Type} (reader : Reader α) (text : String) : Except ReadFault α := do
  let (value, rest) ← reader (Bytes.ofText text)
  if (skipSpace rest).isEmpty then .ok value else .error .malformed

end Json

end Conduit
