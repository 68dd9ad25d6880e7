import TextTemplate.Helper.Registry
import TextTemplate.Proofs.Entries
import TextTemplate.Proofs.LowerCase

/-!
# Registrations

A registry is asked in three ways: whether a helper is known, which helpers there are, and what the
helper of a name does to a value. All three answers are determined by the registrations that a new
registry has seen, and they agree with each other (`Registry.shows_registrations`): the helpers that
are listed are the ones that are known, and the helper that is applied is the latest of its name.
-/

namespace TextTemplate.Registry

open Unicode (foldName)

variable {σ : Type}

/-- The registry after helpers were registered on a new one. -/
def ofRegistrations (registrations : List (String × Helper σ)) : Registry σ :=
  registrations.foldl (fun registry entry => registry.register entry.1 entry.2) builtin

/-- The helper that was registered last under a name, whatever its case. -/
def latest? (name : String) (registrations : List (String × Helper σ)) : Option (Helper σ) :=
  (registrations.reverse.find? fun entry => foldName entry.1 == foldName name).map Prod.snd

/-- The names of the built-in helpers. -/
def builtinNames : List String :=
  (Builtin.table (σ := Empty)).map Prod.fst

/-! ## What a registry holds -/

theorem added_foldl (registry : Registry σ) (registrations : List (String × Helper σ)) :
    (registrations.foldl (fun registry entry => registry.register entry.1 entry.2) registry).added =
      (registrations.map fun entry => (foldName entry.1, entry.2)).foldl
        (fun entries entry => Entries.put entry.1 entry.2 entries) registry.added := by
  induction registrations generalizing registry with
  | nil => rfl
  | cons entry others ih => exact ih (registry.register entry.1 entry.2)

theorem added_ofRegistrations (registrations : List (String × Helper σ)) :
    (ofRegistrations registrations).added =
      Entries.ofSequence (registrations.map fun entry => (foldName entry.1, entry.2)) :=
  added_foldl builtin registrations

theorem get?_added (name : String) (registrations : List (String × Helper σ)) :
    Entries.get? (foldName name) (ofRegistrations registrations).added =
      latest? name registrations := by
  rw [added_ofRegistrations, Entries.get?_ofSequence, Entries.get?, latest?, ← List.map_reverse,
    List.find?_map, Option.map_map]
  rfl

theorem keys_added (registrations : List (String × Helper σ)) :
    (ofRegistrations registrations).added.map Prod.fst =
      (registrations.map fun entry => foldName entry.1).eraseDups := by
  rw [added_ofRegistrations, Entries.keys_ofSequence, List.map_map]
  rfl

theorem nodup_added (registrations : List (String × Helper σ)) :
    ((ofRegistrations registrations).added.map Prod.fst).Nodup := by
  rw [added_ofRegistrations]
  exact Entries.nodup_ofSequence _

/-! ## Names -/

theorem nodup_builtinNames : builtinNames.Nodup := by
  decide

theorem foldName_builtinNames : ∀ name ∈ builtinNames, foldName name = name := by
  decide +kernel

theorem names_eq (registry : Registry σ) :
    registry.names =
      builtinNames ++ (registry.added.map Prod.fst).filter fun name => !builtinNames.contains name :=
  rfl

theorem mem_names {registry : Registry σ} {name : String} :
    name ∈ registry.names ↔ name ∈ builtinNames ∨ name ∈ registry.added.map Prod.fst := by
  simp only [names_eq, List.mem_append, List.mem_filter, Bool.not_eq_true', List.contains_eq_mem,
    decide_eq_false_iff_not]
  tauto

theorem exists?_iff {registry : Registry σ} {name : String} :
    registry.exists? name = true ↔ foldName name ∈ registry.names := by
  have builtin : (Entries.get? (foldName name) (Builtin.table (σ := σ))).isSome = true ↔
      foldName name ∈ builtinNames :=
    Entries.isSome_get?
  rw [exists?, Bool.or_eq_true, builtin, Entries.isSome_get?, mem_names, or_comm]

/-- The names of all helpers are folded. -/
theorem foldName_of_mem_names {registrations : List (String × Helper σ)} {name : String}
    (listed : name ∈ (ofRegistrations registrations).names) : foldName name = name := by
  rcases mem_names.mp listed with isBuiltin | wasAdded
  · exact foldName_builtinNames name isBuiltin
  · rw [keys_added, List.mem_eraseDups] at wasAdded
    rcases List.mem_map.mp wasAdded with ⟨entry, -, rfl⟩
    exact Unicode.foldName_foldName entry.1

theorem nodup_names (registrations : List (String × Helper σ)) :
    (ofRegistrations registrations).names.Nodup := by
  rw [names_eq, List.nodup_append]
  refine ⟨nodup_builtinNames, (nodup_added registrations).filter _, ?_⟩
  intro name isBuiltin other wasAdded same
  rw [List.mem_filter, ← same] at wasAdded
  simp [isBuiltin] at wasAdded

/-- What a new registry answers after registrations. A name is known if its folded form is listed;
the list has no repetitions, goes from the built-in helpers to the others in the order in which they
were first registered, and names only known helpers. The helper that is applied is the one that was
registered last, a built-in one if there is none, and a name that neither knows leaves the value as
it is. -/
theorem shows_registrations (registrations : List (String × Helper σ)) :
    let registry := ofRegistrations registrations
    (∀ name, registry.exists? name = true ↔ foldName name ∈ registry.names) ∧
      registry.names.Nodup ∧
      registry.names = builtinNames ++
        (registrations.map fun entry => foldName entry.1).eraseDups.filter
          (!builtinNames.contains ·) ∧
      registry.names.all registry.exists? = true ∧
      ∀ value name argument, registry.apply value name argument =
        match latest? name registrations, Entries.get? (foldName name) Builtin.table with
        | some helper, _ => Attempt.ofExcept (helper value argument)
        | none, some helper => pure (helper value argument)
        | none, none => (do
          Attempt.ofTraced (Traced.report (.helperMissing name))
          pure value) := by
  intro registry
  refine ⟨fun name => exists?_iff, nodup_names registrations, ?_, ?_, ?_⟩
  · rw [names_eq, keys_added]
  · rw [List.all_eq_true]
    intro name listed
    rw [exists?_iff, foldName_of_mem_names listed]
    exact listed
  · intro value name argument
    rw [apply, get?_added]
    cases latest? name registrations with
    | some helper => rfl
    | none => cases Entries.get? (foldName name) Builtin.table <;> rfl

/-- A built-in helper and one of the host that come back under other spellings. -/
example :
    (ofRegistrations (σ := Empty)
      [("ΑΣ", fun value _ => .ok value), ("UPPER", fun value _ => .ok value),
        ("slug", fun value _ => .ok value), ("ας", fun _ _ => .ok .null)]).names =
      builtinNames ++ ["ας", "slug"] := by
  decide +kernel

end TextTemplate.Registry
