import Conduit.Bytes
import Conduit.Journal

set_option autoImplicit false

namespace Conduit

namespace Bytes

/-- The 64-bit digest that mixes each byte in by exclusive or, then multiplies by a fixed prime. -/
def fnv (bytes : Bytes) : UInt64 :=
  bytes.foldl (fun hash byte => (hash ^^^ byte.toUInt64) * 0x100000001b3) 0xcbf29ce484222325

def digest (bytes : Bytes) : String := hexDigits 16 bytes.fnv.toNat

/-- The longest string that is written in full. -/
def briefLimit : Nat := 64

/-- All digits of a short string; of a longer one the length, the digest and both ends. -/
def brief (bytes : Bytes) : String :=
  if bytes.length ≤ briefLimit then String.ofList bytes.hex
  else
    "#" ++ toString bytes.length ++ ":" ++ bytes.digest ++ ":" ++
      String.ofList (hex (bytes.take 8)) ++ ":" ++
      String.ofList (hex (bytes.drop (bytes.length - 8)))

theorem fnv_append_singleton (bytes : Bytes) (byte : UInt8) :
    fnv (bytes ++ [byte]) = (bytes.fnv ^^^ byte.toUInt64) * 0x100000001b3 := by
  simp [fnv]

end Bytes

namespace Event

def outcome {α : Type} (count : α → Nat) : Except IoFault α → String
  | .ok value => toString (count value)
  | .error fault => fault.kind.name

/-- The line of a record. Live readers and writers without a name, counters that only keep a total,
and notices have none. -/
def line? (name? : PeerId → Option String) (isSilent : Counter → Bool) : Event → Option String
  | .read peer wanted answer => (name? peer).map fun name =>
    "r " ++ name ++ " " ++ toString wanted ++ " " ++ outcome List.length answer
  | .wrote peer offered answer => (name? peer).map fun name =>
    "w " ++ name ++ " " ++ toString offered.length ++ " " ++ outcome id answer
  | .flushed peer _ => (name? peer).map ("flush " ++ ·)
  | .greeted peer _ => (name? peer).map ("hs " ++ ·)
  | .fed peer offered answer => (name? peer).map fun name =>
    "hs " ++ name ++ " " ++ toString offered.length ++ " " ++ outcome id answer
  | .pulling peer => (name? peer).map ("bulk " ++ ·)
  | .pulled _ _ => none
  | .closed peer => (name? peer).map ("close " ++ ·)
  | .counted counter bytes =>
    if isSilent counter then none else some ("c " ++ counter.name ++ " " ++ toString bytes)
  | .noticed _ => none

end Event

/-- Equal neighbours together, with their number. -/
def runs : List String → List (String × Nat)
  | [] => []
  | line :: rest =>
    match runs rest with
    | (next, times) :: more =>
      if line = next then (next, times + 1) :: more else (line, 1) :: (next, times) :: more
    | [] => [(line, 1)]

/-- A line that came several times in a row. -/
def repeated : String × Nat → String
  | (line, times) => if times = 1 then line else line ++ " x" ++ toString times

/-- Nothing is lost when equal neighbours are put together. -/
theorem flatMap_runs (lines : List String) :
    (runs lines).flatMap (fun (line, times) => List.replicate times line) = lines := by
  induction lines with
  | nil => rfl
  | cons line rest ih =>
    unfold runs
    split
    · rename_i next times more found
      rw [found] at ih
      split
      · rename_i same
        subst same
        simpa [List.replicate_succ] using ih
      · simpa using ih
    · rename_i nothing
      rw [nothing] at ih
      simpa using ih

end Conduit
