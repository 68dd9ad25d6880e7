import TextTemplate.Scope
import TextTemplate.Proofs.Entries
import TextTemplate.Proofs.Variables.History

/-!
# Runs of a scope

A scope is worked on by operations: variables are bound one by one or merged from another scope,
cursors come and go, services are registered, and a child takes the place of its parent. Each of
them writes to the variables or leaves them alone, so a run has a history of writes, and the
variables at its end are what that history leaves.

`Scope.run_shows_history` is the law for all runs from a new scope, with what a merge at their end
does to the variables.
-/

namespace TextTemplate

open Unicode (foldName)

variable {σ : Type}

/-! ## Operations -/

/-- What can be done to a scope and shows in its variables, its services or its cursors. -/
inductive Scope.Operation (σ : Type) where
  | set (name : String) (value : Value σ)
  | merge (other : Scope σ) (names : List String)
  | push (cursor : Cursor σ)
  | pop
  | register (name : String) (handle : σ)
  | child (key : Option String)

namespace Scope

/-- A new scope, with or without a key of its own. -/
def root : Option String → Scope σ
  | none => .empty
  | some key => .withKey key

/-- The scope behind an operation. A child takes the place of its parent. -/
def Operation.apply (scope : Scope σ) : Operation σ → Scope σ
  | .set name value => scope.set name value
  | .merge other names => scope.merge other names
  | .push cursor => scope.pushCursor cursor
  | .pop => scope.popCursor
  | .register name handle => scope.register name handle
  | .child key => scope.child key

/-- The scope behind operations that follow each other. -/
def run (scope : Scope σ) (operations : List (Operation σ)) : Scope σ :=
  operations.foldl Operation.apply scope

/-- What the topmost cursor writes to the variables that follow it. -/
def cursorWrites : Option (Cursor σ) → List (NameTable.Write (Value σ))
  | some cursor =>
    [.bind currentName cursor.item, .bind currentIndexName (.ofCount cursor.index),
      .bind currentKeyName (keyValue cursor.key)]
  | none => [.unbind currentName, .unbind currentIndexName, .unbind currentKeyName]

/-- What a merge writes: the names that the other scope has, in the order in which they are
named. -/
def mergeWrites (other : Scope σ) (names : List String) : List (NameTable.Write (Value σ)) :=
  names.filterMap fun name => (other.get? name).map (.bind name)

/-- What an operation on a scope writes to the variables. -/
def Operation.writes (scope : Scope σ) : Operation σ → List (NameTable.Write (Value σ))
  | .set name value => [.bind name value]
  | .merge other names => mergeWrites other names
  | .push cursor => cursorWrites (some cursor)
  | .pop => cursorWrites scope.cursors.tail.head?
  | .register _ _ => []
  | .child _ => []

/-- The writes of a run one after the other. -/
def history (scope : Scope σ) : List (Operation σ) → List (NameTable.Write (Value σ))
  | [] => []
  | operation :: others => operation.writes scope ++ (operation.apply scope).history others

/-! ## Writes of operations -/

theorem bindings_syncCursor (scope : Scope σ) :
    (syncCursor scope).bindings = scope.bindings.writeAll (cursorWrites scope.cursors.head?) := by
  rcases scope with ⟨key, parent, bindings, services, cursors⟩
  cases cursors <;> rfl

@[simp]
theorem merge_nil (scope other : Scope σ) : scope.merge other [] = scope :=
  rfl

theorem merge_cons (scope other : Scope σ) (name : String) (names : List String) :
    scope.merge other (name :: names) =
      match other.get? name with
      | some value => (scope.set name value).merge other names
      | none => scope.merge other names := by
  simp only [merge, List.foldl_cons]
  cases other.get? name <;> rfl

theorem bindings_merge (scope other : Scope σ) (names : List String) :
    (scope.merge other names).bindings = scope.bindings.writeAll (mergeWrites other names) := by
  induction names generalizing scope with
  | nil => rfl
  | cons name names ih =>
      rw [merge_cons, mergeWrites, List.filterMap_cons]
      cases other.get? name with
      | none => exact ih scope
      | some value => exact ih (scope.set name value)

theorem bindings_apply (scope : Scope σ) (operation : Operation σ) :
    (operation.apply scope).bindings = scope.bindings.writeAll (operation.writes scope) := by
  cases operation with
  | set name value => rfl
  | merge other names => exact bindings_merge scope other names
  | push cursor => exact bindings_syncCursor { scope with cursors := cursor :: scope.cursors }
  | pop => exact bindings_syncCursor { scope with cursors := scope.cursors.tail }
  | register name handle => rfl
  | child key => rfl

theorem bindings_run (scope : Scope σ) (operations : List (Operation σ)) :
    (scope.run operations).bindings = scope.bindings.writeAll (scope.history operations) := by
  induction operations generalizing scope with
  | nil => rfl
  | cons operation others ih =>
      rw [history, NameTable.writeAll_append, ← bindings_apply]
      exact ih (operation.apply scope)

/-- The variables at the end of a run from a new scope are what its history leaves. -/
theorem bindings_root_run (key : Option String) (operations : List (Operation σ)) :
    ((root key).run operations).bindings = .replay ((root key).history operations) := by
  have start : (root key : Scope σ).bindings = .empty := by
    cases key <;> rfl
  rw [bindings_run, start]
  rfl

/-! ## What a scope shows -/

/-- The variables of a scope as its history determines them. -/
structure Shows (scope : Scope σ) (history : List (NameTable.Write (Value σ))) : Prop where
  keyed : ∀ entry ∈ scope.bindings.entries, entry.key = foldName entry.spelling
  distinct : (scope.bindings.entries.map NameTable.Entry.key).Nodup
  value : ∀ name value, scope.get? name = some value ↔
    ∃ spelling, NameTable.Current history ⟨foldName name, spelling, value⟩
  bound : ∀ name, scope.has name = true ↔ (scope.get? name).isSome = true
  listed : ∀ name, scope.has name = true ↔
    ∃ listed ∈ scope.names, foldName listed = foldName name
  once : (scope.names.map foldName).Nodup
  spelled : ∀ spelling, spelling ∈ scope.names ↔
    ∃ value, NameTable.Current history ⟨foldName spelling, spelling, value⟩
  since : ∀ spelling ∈ scope.names, ∃! position,
    NameTable.BoundSince history (foldName spelling) position
  ordered : scope.names.Pairwise fun first second =>
    NameTable.BoundBefore history (foldName first) (foldName second)

/-- The variables of a scope after some names were merged from another one. What the other scope
has is bound as it is spelled last among the names, new names come behind the old ones in the order
of the names, and nothing else changes. -/
structure Merges (scope other : Scope σ) (names : List String) (merged : Scope σ) : Prop where
  taken : ∀ front name back value, names = front ++ name :: back →
    (∀ later ∈ back, foldName later ≠ foldName name) → other.get? name = some value →
    merged.bindings.find? name = some ⟨foldName name, name, value⟩
  kept : ∀ name, (∀ taken ∈ names, foldName taken = foldName name → other.get? taken = none) →
    merged.bindings.find? name = scope.bindings.find? name
  order : merged.names.map foldName =
    (scope.names.map foldName ++ (names.filter other.has).map foldName).eraseDups
  rest : merged = { scope with bindings := merged.bindings }

theorem has_eq_isSome (scope : Scope σ) (name : String) :
    scope.has name = (scope.get? name).isSome := by
  rw [get?, NameTable.get?, Option.isSome_map]
  rfl

theorem keys_of_keyed {scope : Scope σ}
    (keyed : ∀ entry ∈ scope.bindings.entries, entry.key = foldName entry.spelling) :
    scope.names.map foldName = scope.bindings.keys := by
  rw [names, NameTable.names, NameTable.keys, List.map_map]
  apply List.map_congr_left
  intro entry listed
  exact (keyed entry listed).symm

theorem shows_of_records {scope : Scope σ} {history : List (NameTable.Write (Value σ))}
    (records : NameTable.Records history scope.bindings) : scope.Shows history := by
  have keyed : ∀ entry ∈ scope.bindings.entries, entry.key = foldName entry.spelling := by
    intro entry listed
    rcases (records.entries entry).mp listed with ⟨before, after, -, keyed, -⟩
    exact keyed
  have keys := keys_of_keyed keyed
  refine ⟨keyed, records.distinct, ?_, ?_, ?_, ?_, ?_, ?_, ?_⟩
  · intro name value
    exact records.get?_eq_some
  · intro name
    rw [has_eq_isSome]
  · intro name
    rw [has, NameTable.contains_eq_true, ← keys, List.mem_map]
  · rw [keys]
    exact records.distinct
  · intro spelling
    rw [names, NameTable.names, List.mem_map]
    constructor
    · rintro ⟨entry, listed, rfl⟩
      refine ⟨entry.value, ?_⟩
      rw [← keyed entry listed, ← records.entries]
      exact listed
    · rintro ⟨value, current⟩
      exact ⟨_, (records.entries _).mpr current, rfl⟩
  · intro spelling listed
    have key : foldName spelling ∈ scope.names.map foldName := List.mem_map_of_mem listed
    rw [keys] at key
    rcases records.since _ key with ⟨position, since⟩
    refine ⟨position, since, ?_⟩
    intro other also
    exact also.unique since
  · have ordered := records.ordered
    rw [← keys, List.pairwise_map] at ordered
    exact ordered

/-! ## Merging -/

theorem find?_set (scope : Scope σ) (name other : String) (value : Value σ) :
    (scope.set name value).bindings.find? other =
      if foldName other = foldName name then some ⟨foldName name, name, value⟩
      else scope.bindings.find? other := by
  simp only [set, NameTable.insert, NameTable.find?]
  split
  · rename_i alike
    rw [alike]
    exact NameTable.find?_place_same ⟨foldName name, name, value⟩ _
  · rename_i different
    exact NameTable.find?_place_of_ne different _

theorem find?_merge_of_missing (scope other : Scope σ) {names : List String} {name : String}
    (missing : ∀ taken ∈ names, foldName taken = foldName name → other.get? taken = none) :
    (scope.merge other names).bindings.find? name = scope.bindings.find? name := by
  induction names generalizing scope with
  | nil => rfl
  | cons first names ih =>
      have later := fun scope => ih scope fun taken listed => missing taken (by simp [listed])
      rw [merge_cons]
      cases found : other.get? first with
      | none => exact later scope
      | some value =>
          have apart : foldName name ≠ foldName first := by
            intro alike
            rw [missing first (by simp) alike.symm] at found
            contradiction
          calc _ = (scope.set first value).bindings.find? name := later _
            _ = scope.bindings.find? name := by rw [find?_set, if_neg apart]

theorem find?_merge_of_last (scope other : Scope σ) {front back : List String} {name : String}
    {value : Value σ} (last : ∀ later ∈ back, foldName later ≠ foldName name)
    (found : other.get? name = some value) :
    (scope.merge other (front ++ name :: back)).bindings.find? name =
      some ⟨foldName name, name, value⟩ := by
  induction front generalizing scope with
  | nil =>
      -- No later name is the same, so the binding that is made here stays.
      have untouched : ∀ taken ∈ back, foldName taken = foldName name →
          other.get? taken = none := by
        intro taken listed alike
        exact absurd alike (last taken listed)
      rw [List.nil_append, merge_cons, found]
      simp only
      rw [find?_merge_of_missing _ other untouched, find?_set, if_pos rfl]
  | cons first front ih =>
      rw [List.cons_append, merge_cons]
      cases other.get? first with
      | none => exact ih scope
      | some earlier => exact ih (scope.set first earlier)

theorem keys_merge (scope other : Scope σ) (names : List String)
    (distinct : scope.bindings.keys.Nodup) :
    (scope.merge other names).bindings.keys =
      (scope.bindings.keys ++ (names.filter other.has).map foldName).eraseDups := by
  induction names generalizing scope with
  | nil =>
      rw [merge_nil, List.filter_nil, List.map_nil, List.append_nil]
      exact (Entries.eraseDups_of_nodup distinct).symm
  | cons first names ih =>
      rw [merge_cons]
      cases found : other.get? first with
      | none =>
          rw [List.filter_cons_of_neg (by simp [has_eq_isSome, found])]
          exact ih scope distinct
      | some value =>
          have keys : (scope.set first value).bindings.keys =
              if foldName first ∈ scope.bindings.keys then scope.bindings.keys
              else scope.bindings.keys ++ [foldName first] :=
            NameTable.keys_insert scope.bindings first value
          rw [List.filter_cons_of_pos (by simp [has_eq_isSome, found]), List.map_cons]
          have apart := NameTable.nodup_keys_insert distinct first value
          refine (ih (scope.set first value) apart).trans ?_
          rw [keys]
          split
          · rename_i there
            rw [Entries.eraseDups_append_cons_of_mem _ there]
          · rw [List.append_assoc, List.singleton_append]

theorem rest_merge (scope other : Scope σ) (names : List String) :
    scope.merge other names = { scope with bindings := (scope.merge other names).bindings } := by
  induction names generalizing scope with
  | nil => rfl
  | cons first names ih =>
      rw [merge_cons]
      cases other.get? first with
      | none => exact ih scope
      | some value => exact ih (scope.set first value)

theorem merges {scope : Scope σ} {history : List (NameTable.Write (Value σ))}
    (records : NameTable.Records history scope.bindings) (other : Scope σ) (names : List String) :
    scope.Merges other names (scope.merge other names) := by
  have merged := records.writeAll (mergeWrites other names)
  rw [← bindings_merge] at merged
  refine ⟨?_, ?_, ?_, rest_merge scope other names⟩
  · rintro front name back value rfl last found
    exact find?_merge_of_last scope other last found
  · intro name missing
    exact find?_merge_of_missing scope other missing
  · rw [keys_of_keyed (shows_of_records records).keyed,
      keys_of_keyed (shows_of_records merged).keyed]
    exact keys_merge scope other names records.distinct

/-- A run from a new scope ends with the variables that its history determines, and a merge at its
end binds what it takes and nothing else. -/
theorem run_shows_history (key : Option String) (operations : List (Operation σ)) :
    ((root key).run operations).Shows ((root key).history operations) ∧
      ∀ other names, ((root key).run operations).Merges other names
        (((root key).run operations).merge other names) := by
  have records := NameTable.records_replay ((root key).history operations)
  rw [← bindings_root_run] at records
  refine ⟨shows_of_records records, ?_⟩
  intro other names
  exact merges records other names

end Scope

end TextTemplate
