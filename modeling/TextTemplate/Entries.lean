/-!
# Ordered entries

Maps keep the order of their keys. Putting an entry whose key is there already replaces the value
in its place.
-/

namespace TextTemplate.Entries

variable {α : Type}

/-- Puts a value under a key: in the place of the entry with that key, or at the end. -/
def put (key : String) (value : α) : List (String × α) → List (String × α)
  | [] => [(key, value)]
  | entry :: others =>
    if entry.1 = key then (key, value) :: others else entry :: put key value others

/-- The entries of a sequence in which a repeated key keeps its first place and its last value. -/
def ofSequence (sequence : List (String × α)) : List (String × α) :=
  sequence.foldl (fun entries entry => put entry.1 entry.2 entries) []

/-- The value under exactly this key. -/
def get? (key : String) (entries : List (String × α)) : Option α :=
  (entries.find? fun entry => entry.1 == key).map Prod.snd

theorem mem_of_get? {key : String} {value : α} {entries : List (String × α)}
    (found : get? key entries = some value) : (key, value) ∈ entries := by
  rcases Option.map_eq_some_iff.mp found with ⟨entry, listed, rfl⟩
  have here := List.find?_some listed
  rw [beq_iff_eq] at here
  rw [← here]
  exact List.mem_of_find?_eq_some listed

@[simp]
theorem get?_put_same (key : String) (value : α) (entries : List (String × α)) :
    get? key (put key value entries) = some value := by
  induction entries with
  | nil => simp [put, get?]
  | cons entry others ih =>
    unfold put
    split
    · simp [get?]
    · rename_i different
      simpa [get?, List.find?_cons, different] using ih

theorem get?_put_of_ne {key other : String} (different : other ≠ key) (value : α)
    (entries : List (String × α)) :
    get? other (put key value entries) = get? other entries := by
  induction entries with
  | nil => simp [put, get?, Ne.symm different]
  | cons entry others ih =>
    unfold put
    split
    · rename_i here
      simp [get?, here, Ne.symm different]
    · by_cases found : entry.1 = other
      · simp [get?, found]
      · simpa [get?, List.find?_cons, found] using ih

/-- The keys of entries among which a value was put: a new key is the last one. -/
theorem keys_put (key : String) (value : α) (entries : List (String × α)) :
    (put key value entries).map Prod.fst =
      if key ∈ entries.map Prod.fst then entries.map Prod.fst
      else entries.map Prod.fst ++ [key] := by
  induction entries with
  | nil => simp [put]
  | cons entry others ih =>
    unfold put
    split
    · rename_i here
      simp [here]
    · rename_i different
      simp only [List.map_cons, ih, List.mem_cons, Ne.symm different, false_or]
      split <;> simp

end TextTemplate.Entries
