set_option autoImplicit false

namespace Conduit

structure Table (α : Type) where
  rows : List α

namespace Table

variable {α : Type}

def empty : Table α := ⟨[]⟩

instance : Inhabited (Table α) := ⟨empty⟩

/-- The number that the next new row gets. -/
def next (table : Table α) : Nat := table.rows.length

variable [Inhabited α]

/-- The row of a number, blank where no row was made. -/
def get (table : Table α) (index : Nat) : α := table.rows.getD index default

/-- Replaces one row of a list, making blank rows up to it where needed. -/
def putRow : List α → Nat → α → List α
  | [], 0, row => [row]
  | [], index + 1, row => default :: putRow [] index row
  | _ :: rest, 0, row => row :: rest
  | first :: rest, index + 1, row => first :: putRow rest index row

def put (table : Table α) (index : Nat) (row : α) : Table α := ⟨putRow table.rows index row⟩

def update (table : Table α) (index : Nat) (change : α → α) : Table α :=
  table.put index (change (table.get index))

/-- Makes a new row, whose number is `table.next`. -/
def add (table : Table α) (row : α) : Table α := ⟨table.rows ++ [row]⟩

theorem getD_putRow (rows : List α) (index other : Nat) (row : α) :
    (putRow rows index row).getD other default =
      if other = index then row else rows.getD other default := by
  induction rows, index, row using putRow.induct generalizing other with
  | case1 row => cases other <;> simp [putRow]
  | case2 index row ih =>
    cases other with
    | zero => simp [putRow]
    | succ other => simpa [putRow] using ih other
  | case3 first rest row => cases other <;> simp [putRow]
  | case4 first rest index row ih =>
    cases other with
    | zero => simp [putRow]
    | succ other => simpa [putRow] using ih other

/-- A row reads back as it was put, and the others stay. -/
theorem get_put (table : Table α) (index other : Nat) (row : α) :
    (table.put index row).get other = if other = index then row else table.get other :=
  getD_putRow table.rows index other row

@[simp] theorem get_put_same (table : Table α) (index : Nat) (row : α) :
    (table.put index row).get index = row := by
  simp [get_put]

theorem get_put_other (table : Table α) (index other : Nat) (row : α) (apart : other ≠ index) :
    (table.put index row).get other = table.get other := by
  simp [get_put, apart]

theorem get_update (table : Table α) (index other : Nat) (change : α → α) :
    (table.update index change).get other =
      if other = index then change (table.get index) else table.get other :=
  get_put table index other _

/-- A new row reads back under its number, and the others stay. -/
theorem get_add (table : Table α) (row : α) (index : Nat) :
    (table.add row).get index = if index = table.next then row else table.get index := by
  simp only [get, add, next, List.getD_eq_getElem?_getD, List.getElem?_append]
  split
  · rename_i inside
    have apart : index ≠ table.rows.length := by omega
    simp [apart]
  · rename_i outside
    by_cases same : index = table.rows.length
    · simp [same]
    · have beyond : index - table.rows.length ≠ 0 := by omega
      have blank : table.rows[index]? = none := List.getElem?_eq_none (by omega)
      simp [same, blank, beyond]

end Table

/-- Values with their names; the first entry of a name is the one that counts. -/
structure Named (α : Type) where
  entries : List (String × α)

namespace Named

variable {α : Type}

def empty : Named α := ⟨[]⟩

def get? (named : Named α) (name : String) : Option α :=
  (named.entries.find? fun entry => entry.1 == name).map Prod.snd

/-- The same values without one name. -/
def erase (named : Named α) (name : String) : Named α :=
  ⟨named.entries.filter fun entry => entry.1 != name⟩

def put (named : Named α) (name : String) (value : α) : Named α :=
  ⟨(name, value) :: (named.erase name).entries⟩

theorem get?_erase (named : Named α) (name other : String) :
    (named.erase name).get? other = if other = name then none else named.get? other := by
  simp only [get?, erase, List.find?_filter]
  split
  · rename_i same
    have nothing : (fun entry : String × α => entry.1 != name && entry.1 == other) =
        fun _ => false := by
      funext entry
      by_cases here : entry.1 = name <;> simp [here, same]
    rw [List.find?_eq_none.2]
    · rfl
    · intro entry _
      have := congrFun nothing entry
      simpa using this
  · rename_i apart
    congr 2
    funext entry
    by_cases here : entry.1 = other <;> simp [here, apart]

/-- A name has the value it was last given, and the others keep theirs. -/
theorem get?_put (named : Named α) (name other : String) (value : α) :
    (named.put name value).get? other =
      if other = name then some value else named.get? other := by
  by_cases same : name = other
  · simp [put, get?, same]
  · have rest := get?_erase named name other
    simp only [get?] at rest
    have apart : ¬other = name := fun same' => same same'.symm
    simp [put, get?, same, rest, apart]

end Named

end Conduit
