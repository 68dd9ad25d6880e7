import TextTemplate.Entries

/-!
# Entries with distinct keys

Entries that are put one after the other have distinct keys at the end, and if their keys are
distinct from the start, they stay as they are. In any case a key stands where it came first
(`Entries.keys_ofSequence`) and has the value that came last (`Entries.get?_ofSequence`).
-/

namespace TextTemplate.Entries

/-! ## Repeated keys -/

theorem eraseDups_of_nodup {listed : List String} (distinct : listed.Nodup) :
    listed.eraseDups = listed := by
  induction listed with
  | nil => rfl
  | cons name others ih =>
      rw [List.nodup_cons] at distinct
      rcases distinct with ⟨fresh, distinct⟩
      have apart : others.filter (fun other => !other == name) = others := by
        rw [List.filter_eq_self]
        intro other listed
        have different : other ≠ name := by
          rintro rfl
          exact fresh listed
        simpa using different
      rw [List.eraseDups_cons, apart, ih distinct]

theorem eraseDups_append_cons_of_mem {listed : List String} {name : String} (rest : List String)
    (there : name ∈ listed) :
    (listed ++ name :: rest).eraseDups = (listed ++ rest).eraseDups := by
  have removed : (name :: rest).removeAll listed = rest.removeAll listed := by
    simp [List.cons_removeAll, there]
  rw [List.eraseDups_append, List.eraseDups_append, removed]

/-! ## Entries put one after the other -/

variable {α : Type}

theorem nodup_put {entries : List (String × α)} (distinct : (entries.map Prod.fst).Nodup)
    (key : String) (value : α) : ((put key value entries).map Prod.fst).Nodup := by
  rw [keys_put]
  split
  · exact distinct
  · rename_i fresh
    rw [List.nodup_append]
    refine ⟨distinct, by simp, ?_⟩
    intro other listed last isKey same
    rw [List.mem_singleton.mp isKey] at same
    exact fresh (same ▸ listed)

theorem put_of_notMem {key : String} {entries : List (String × α)}
    (fresh : key ∉ entries.map Prod.fst) (value : α) :
    put key value entries = entries ++ [(key, value)] := by
  induction entries with
  | nil => rfl
  | cons entry others ih =>
      simp only [List.map_cons, List.mem_cons, not_or] at fresh
      simp [put, Ne.symm fresh.1, ih fresh.2]

theorem foldl_put_of_nodup {sequence entries : List (String × α)}
    (distinct : ((entries ++ sequence).map Prod.fst).Nodup) :
    sequence.foldl (fun entries entry => put entry.1 entry.2 entries) entries =
      entries ++ sequence := by
  induction sequence generalizing entries with
  | nil => simp
  | cons entry others ih =>
      have fresh : entry.1 ∉ entries.map Prod.fst := by
        rw [List.map_append, List.nodup_append] at distinct
        intro listed
        exact distinct.2.2 _ listed _ (by simp) rfl
      have shifted : entries ++ entry :: others = (entries ++ [entry]) ++ others := by simp
      rw [shifted] at distinct ⊢
      rw [List.foldl_cons, put_of_notMem fresh]
      exact ih distinct

theorem ofSequence_of_nodup {sequence : List (String × α)}
    (distinct : (sequence.map Prod.fst).Nodup) : ofSequence sequence = sequence :=
  foldl_put_of_nodup distinct

theorem nodup_foldl_put {entries : List (String × α)} (distinct : (entries.map Prod.fst).Nodup)
    (sequence : List (String × α)) :
    ((sequence.foldl (fun entries entry => put entry.1 entry.2 entries) entries).map
      Prod.fst).Nodup := by
  induction sequence generalizing entries with
  | nil => exact distinct
  | cons entry others ih => exact ih (nodup_put distinct entry.1 entry.2)

/-- A key that is repeated keeps the place where it came first. -/
theorem keys_foldl_put {entries : List (String × α)} (distinct : (entries.map Prod.fst).Nodup)
    (sequence : List (String × α)) :
    (sequence.foldl (fun entries entry => put entry.1 entry.2 entries) entries).map Prod.fst =
      (entries.map Prod.fst ++ sequence.map Prod.fst).eraseDups := by
  induction sequence generalizing entries with
  | nil =>
      rw [List.map_nil, List.append_nil]
      exact (eraseDups_of_nodup distinct).symm
  | cons entry others ih =>
      rw [List.foldl_cons, ih (nodup_put distinct entry.1 entry.2), keys_put, List.map_cons]
      split
      · rename_i there
        rw [eraseDups_append_cons_of_mem _ there]
      · rw [List.append_assoc, List.singleton_append]

theorem keys_ofSequence (sequence : List (String × α)) :
    (ofSequence sequence).map Prod.fst = (sequence.map Prod.fst).eraseDups := by
  have nothing : (([] : List (String × α)).map Prod.fst).Nodup := List.nodup_nil
  exact keys_foldl_put nothing sequence

theorem isSome_get? {key : String} {entries : List (String × α)} :
    (get? key entries).isSome = true ↔ key ∈ entries.map Prod.fst := by
  simp [get?, List.find?_isSome]

theorem get?_append (key : String) (front behind : List (String × α)) :
    get? key (front ++ behind) = (get? key front).or (get? key behind) := by
  simp [get?, List.find?_append, Option.map_or]

/-- A key that is repeated has the value that came last. -/
theorem get?_foldl_put (key : String) (sequence entries : List (String × α)) :
    get? key (sequence.foldl (fun entries entry => put entry.1 entry.2 entries) entries) =
      (get? key sequence.reverse).or (get? key entries) := by
  induction sequence generalizing entries with
  | nil => rfl
  | cons entry others ih =>
      have written : get? key (put entry.1 entry.2 entries) =
          (get? key [entry]).or (get? key entries) := by
        by_cases here : entry.1 = key
        · rw [← here, get?_put_same]
          simp [get?]
        · rw [get?_put_of_ne (Ne.symm here)]
          simp [get?, here]
      rw [List.foldl_cons, ih, written, List.reverse_cons, get?_append, Option.or_assoc]

theorem get?_ofSequence (key : String) (sequence : List (String × α)) :
    get? key (ofSequence sequence) = get? key sequence.reverse := by
  rw [ofSequence, get?_foldl_put]
  exact Option.or_none

theorem nodup_ofSequence (sequence : List (String × α)) :
    ((ofSequence sequence).map Prod.fst).Nodup := by
  apply nodup_foldl_put
  simp

end TextTemplate.Entries
