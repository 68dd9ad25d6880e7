import TextTemplate.Unicode.Case

/-!
# Tables of names

A table binds names to values in the order in which the names were first bound. Names that differ
only in case are one name, and a table remembers the spelling of the latest binding.
-/

namespace TextTemplate

/-- A binding: the folded name, its latest spelling and the value. -/
structure NameTable.Entry (α : Type) where
  key : String
  spelling : String
  value : α

/-- Bindings in the order of their names' first binding. -/
structure NameTable (α : Type) where
  entries : List (NameTable.Entry α)

namespace NameTable

open Unicode (foldName)

variable {α : Type}

/-- The table without bindings. -/
def empty : NameTable α :=
  ⟨[]⟩

/-- The binding of a name under any spelling. -/
def find? (table : NameTable α) (name : String) : Option (Entry α) :=
  let key := foldName name
  table.entries.find? fun entry => entry.key == key

/-- The value that a name is bound to. -/
def get? (table : NameTable α) (name : String) : Option α :=
  (table.find? name).map Entry.value

/-- The name is bound. -/
def contains (table : NameTable α) (name : String) : Bool :=
  (table.find? name).isSome

/-- Puts a binding in the place of the one with the same folded name, or at the end. -/
def place (binding : Entry α) : List (Entry α) → List (Entry α)
  | [] => [binding]
  | entry :: others =>
    if entry.key = binding.key then binding :: others else entry :: place binding others

/-- Binds a name, keeping the place of an earlier binding. -/
def insert (table : NameTable α) (name : String) (value : α) : NameTable α :=
  ⟨place ⟨foldName name, name, value⟩ table.entries⟩

/-- Removes the binding of a name; the others keep their order. -/
def erase (table : NameTable α) (name : String) : NameTable α :=
  let key := foldName name
  ⟨table.entries.filter fun entry => entry.key != key⟩

/-- The bound names in order, as they were last spelled. -/
def names (table : NameTable α) : List String :=
  table.entries.map Entry.spelling

theorem find?_place_same (binding : Entry α) (entries : List (Entry α)) :
    (place binding entries).find? (fun entry => entry.key == binding.key) = some binding := by
  induction entries with
  | nil => simp [place]
  | cons entry others ih =>
    unfold place
    split
    · simp
    · rename_i different
      simpa [List.find?_cons, different] using ih

theorem find?_place_of_ne {binding : Entry α} {key : String} (different : key ≠ binding.key)
    (entries : List (Entry α)) :
    (place binding entries).find? (fun entry => entry.key == key) =
      entries.find? fun entry => entry.key == key := by
  induction entries with
  | nil => simp [place, Ne.symm different]
  | cons entry others ih =>
    unfold place
    split
    · rename_i here
      simp [here, Ne.symm different]
    · by_cases found : entry.key = key
      · simp [found]
      · simpa [List.find?_cons, found] using ih

/-- A name has the value of its latest binding, under every spelling that differs only in case. -/
theorem get?_insert (table : NameTable α) (name other : String) (value : α) :
    (table.insert name value).get? other =
      if foldName other = foldName name then some value else table.get? other := by
  simp only [get?, find?, insert]
  split
  · rename_i alike
    simp [alike, find?_place_same ⟨foldName name, name, value⟩]
  · rename_i different
    rw [find?_place_of_ne different]

/-- A name that was removed has no value. -/
theorem get?_erase (table : NameTable α) (name other : String) :
    (table.erase name).get? other =
      if foldName other = foldName name then none else table.get? other := by
  simp only [get?, find?, erase, List.find?_filter]
  split
  · rename_i alike
    simp [alike]
  · rename_i different
    congr 2
    funext entry
    by_cases here : entry.key = foldName other
    · simp [here, different]
    · simp [here]

end NameTable

end TextTemplate
