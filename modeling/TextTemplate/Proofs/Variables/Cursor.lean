import TextTemplate.Proofs.Variables.Run

/-!
# Cursors and their variables

The topmost cursor of a scope is visible in three variables. As long as nothing else writes to
these, they hold what the topmost cursor holds, and without a cursor they are not bound.

Cursors leave no trace: what a run does to all other variables does not depend on its cursors, so
the variables are the same with and without them once all cursors are gone. Both facts are about
every interleaving of pushes and pops with writes to other variables, and `Scope.run_cursors` states
them.
-/

namespace TextTemplate.Scope

open Unicode (foldName)

variable {σ : Type}

/-- The variables of the topmost cursor. -/
def cursorNames : List String :=
  [currentName, currentIndexName, currentKeyName]

/-- A folded name is none of a cursor's variables. -/
def isApart (key : String) : Bool :=
  !(cursorNames.map foldName).contains key

/-- An operation of the scope itself that names no variable of the cursors. -/
def Operation.SparesCursors : Operation σ → Prop
  | .set name _ => isApart (foldName name) = true
  | .merge _ names => ∀ name ∈ names, isApart (foldName name) = true
  | .push _ => True
  | .pop => True
  | .register _ _ => True
  | .child _ => False

/-- The operation pushes a cursor or pops one. -/
def Operation.movesCursor : Operation σ → Bool
  | .push _ => true
  | .pop => true
  | _ => false

/-- The variables of the topmost cursor hold its item, its index as far as an integer reaches, and
its key or null. Without a cursor none of them is bound. -/
def Mirrors (scope : Scope σ) : Prop :=
  match scope.cursors with
  | cursor :: _ =>
    scope.get? currentName = some cursor.item ∧
      (∃ shown : Int64, scope.get? currentIndexName = some (.int shown) ∧
        shown.toInt = min (cursor.index : Int) Int64.maxValue.toInt) ∧
      scope.get? currentKeyName = some (keyValue cursor.key)
  | [] => ∀ name ∈ cursorNames, scope.get? name = none

theorem isApart_foldName {name : String} :
    isApart (foldName name) = true ↔ ∀ other ∈ cursorNames, foldName name ≠ foldName other := by
  simp [isApart, cursorNames]

theorem cursorNames_distinct : (cursorNames.map foldName).Nodup := by
  decide

/-! ## The variables of the topmost cursor -/

theorem toInt_ofCount (n : Nat) :
    ∃ shown : Int64, (Value.ofCount n : Value σ) = .int shown ∧
      shown.toInt = min (n : Int) Int64.maxValue.toInt := by
  have nonneg : (0 : Int) ≤ n := Int.natCast_nonneg n
  have power : (Nat.pow 2 63 : Int) = 9223372036854775808 := rfl
  have greatest : Int64.maxValue.toInt = 9223372036854775807 := rfl
  refine ⟨Int64.ofInt (min n (Nat.pow 2 63 - 1)), rfl, ?_⟩
  rw [power, greatest, Int64.toInt_ofInt_of_le]
  · omega
  · omega
  · omega

theorem mirrors_syncCursor (scope : Scope σ) : (syncCursor scope).Mirrors := by
  rcases scope with ⟨key, parent, bindings, services, cursors⟩
  have distinct := cursorNames_distinct
  simp only [cursorNames, List.map_cons, List.map_nil, List.nodup_cons, List.mem_cons,
    List.not_mem_nil, or_false, not_or] at distinct
  rcases distinct with ⟨⟨itemIndex, itemKey⟩, indexKey, -⟩
  cases cursors with
  | nil =>
      intro name listed
      simp only [cursorNames, List.mem_cons, List.not_mem_nil, or_false] at listed
      rcases listed with rfl | rfl | rfl <;>
        simp [syncCursor, get?, NameTable.get?_erase]
  | cons cursor others =>
      refine ⟨?_, ?_, ?_⟩
      · simp [syncCursor, get?, NameTable.get?_insert, itemIndex, itemKey]
      · rcases toInt_ofCount (σ := σ) cursor.index with ⟨shown, value, saturated⟩
        refine ⟨shown, ?_, saturated⟩
        simp [syncCursor, get?, NameTable.get?_insert, indexKey, value]
      · simp [syncCursor, get?, NameTable.get?_insert]

theorem Mirrors.congr {scope other : Scope σ} (mirrors : scope.Mirrors)
    (cursors : other.cursors = scope.cursors)
    (same : ∀ name ∈ cursorNames, other.get? name = scope.get? name) : other.Mirrors := by
  have item := same currentName (by simp [cursorNames])
  have index := same currentIndexName (by simp [cursorNames])
  have key := same currentKeyName (by simp [cursorNames])
  unfold Mirrors at mirrors ⊢
  rw [cursors]
  split
  · rename_i cursor others topmost
    rw [topmost] at mirrors
    rw [item, index, key]
    exact mirrors
  · rename_i none
    rw [none] at mirrors
    intro name listed
    rw [same name listed]
    exact mirrors name listed

theorem get?_set_of_ne (scope : Scope σ) {name other : String} (value : Value σ)
    (different : foldName other ≠ foldName name) :
    (scope.set name value).get? other = scope.get? other := by
  rw [get?, set, NameTable.get?_insert, if_neg different]
  rfl

theorem get?_merge_of_ne (scope other : Scope σ) {names : List String} {name : String}
    (different : ∀ taken ∈ names, foldName taken ≠ foldName name) :
    (scope.merge other names).get? name = scope.get? name := by
  have missing : ∀ taken ∈ names, foldName taken = foldName name → other.get? taken = none := by
    intro taken listed alike
    exact absurd alike (different taken listed)
  rw [get?, NameTable.get?, find?_merge_of_missing scope other missing]
  rfl

theorem cursors_merge (scope other : Scope σ) (names : List String) :
    (scope.merge other names).cursors = scope.cursors := by
  rw [rest_merge]

theorem Mirrors.apply {scope : Scope σ} (mirrors : scope.Mirrors) {operation : Operation σ}
    (spares : operation.SparesCursors) : (operation.apply scope).Mirrors := by
  cases operation with
  | set name value =>
      have same : ∀ other ∈ cursorNames, (scope.set name value).get? other = scope.get? other := by
        intro other listed
        exact get?_set_of_ne scope value (Ne.symm (isApart_foldName.mp spares other listed))
      exact mirrors.congr rfl same
  | merge other names =>
      apply mirrors.congr (cursors_merge scope other names)
      intro name listed
      apply get?_merge_of_ne
      intro taken named
      exact isApart_foldName.mp (spares taken named) name listed
  | push cursor => exact mirrors_syncCursor { scope with cursors := cursor :: scope.cursors }
  | pop => exact mirrors_syncCursor { scope with cursors := scope.cursors.tail }
  | register name handle => exact mirrors
  | child key => contradiction

theorem Mirrors.run {scope : Scope σ} (mirrors : scope.Mirrors) {operations : List (Operation σ)}
    (spares : ∀ operation ∈ operations, operation.SparesCursors) :
    (scope.run operations).Mirrors := by
  induction operations generalizing scope with
  | nil => exact mirrors
  | cons operation others ih =>
      have first := mirrors.apply (spares operation (by simp))
      apply ih first
      intro later listed
      exact spares later (by simp [listed])

theorem mirrors_root (key : Option String) : (root key : Scope σ).Mirrors := by
  cases key with
  | none =>
      intro name listed
      rfl
  | some key =>
      intro name listed
      rfl

/-! ## The other variables -/

theorem cursorWrites_apart (cursor : Option (Cursor σ)) :
    (cursorWrites cursor).filter (fun write => isApart write.key) = [] := by
  have followed : ∀ name ∈ cursorNames, isApart (foldName name) = false := by
    intro name listed
    simp [isApart, List.mem_map_of_mem listed]
  have item := followed currentName (by simp [cursorNames])
  have index := followed currentIndexName (by simp [cursorNames])
  have key := followed currentKeyName (by simp [cursorNames])
  cases cursor <;> simp [cursorWrites, NameTable.Write.key, item, index, key]

theorem mergeWrites_apart (other : Scope σ) {names : List String}
    (spares : ∀ name ∈ names, isApart (foldName name) = true) :
    (mergeWrites other names).filter (fun write => isApart write.key) =
      mergeWrites other names := by
  rw [List.filter_eq_self]
  intro write written
  rcases List.mem_filterMap.mp written with ⟨name, named, found⟩
  rcases Option.map_eq_some_iff.mp found with ⟨value, -, rfl⟩
  exact spares name named

/-- The writes of a run to other variables are the writes of the run without its cursors, whatever
scopes both start from. -/
theorem history_apart (scope other : Scope σ) {operations : List (Operation σ)}
    (spares : ∀ operation ∈ operations, operation.SparesCursors) :
    (scope.history operations).filter (fun write => isApart write.key) =
      other.history (operations.filter fun operation => !operation.movesCursor) := by
  induction operations generalizing scope other with
  | nil => rfl
  | cons operation others ih =>
      have here := spares operation (by simp)
      have later (scope other : Scope σ) := ih scope other fun operation listed =>
        spares operation (by simp [listed])
      rw [history, List.filter_append]
      cases operation with
      | set name value =>
          have kept : isApart (foldName name) = true := here
          rw [List.filter_cons_of_pos rfl, history, later _ ((Operation.set name value).apply other)]
          simp [Operation.writes, NameTable.Write.key, kept]
      | merge source names =>
          rw [List.filter_cons_of_pos rfl, history,
            later _ ((Operation.merge source names).apply other)]
          exact congrArg (· ++ _) (mergeWrites_apart source here)
      | push cursor =>
          rw [List.filter_cons_of_neg (by simp [Operation.movesCursor]), later _ other]
          exact congrArg (· ++ _) (cursorWrites_apart (some cursor))
      | pop =>
          rw [List.filter_cons_of_neg (by simp [Operation.movesCursor]), later _ other]
          exact congrArg (· ++ _) (cursorWrites_apart _)
      | register name handle =>
          rw [List.filter_cons_of_pos rfl, history,
            later _ ((Operation.register name handle).apply other)]
          rfl
      | child key => contradiction

theorem restrict_of_mirrors {scope : Scope σ} (mirrors : scope.Mirrors)
    (none : scope.cursors = []) : scope.bindings.restrict isApart = scope.bindings := by
  have unbound : ∀ name ∈ cursorNames, scope.get? name = .none := by
    unfold Mirrors at mirrors
    rw [none] at mirrors
    exact mirrors
  apply congrArg NameTable.mk
  rw [List.filter_eq_self]
  intro entry listed
  by_contra follows
  simp only [isApart, Bool.not_eq_true, Bool.not_eq_false', List.contains_iff_mem,
    List.mem_map] at follows
  rcases follows with ⟨name, named, here⟩
  have missing := unbound name named
  rw [get?, NameTable.get?, Option.map_eq_none_iff, NameTable.find?, List.find?_eq_none] at missing
  exact missing entry listed (by simp [here])

/-- As long as nothing else writes to them, the variables of the topmost cursor follow it, and
when no cursor is left the variables are those of the same run without cursors. -/
theorem run_cursors (key : Option String) (operations : List (Operation σ))
    (spares : ∀ operation ∈ operations, operation.SparesCursors) :
    ((root key).run operations).Mirrors ∧
      (((root key).run operations).cursors = [] →
        ((root key).run operations).bindings =
          ((root key).run (operations.filter fun operation => !operation.movesCursor)).bindings) := by
  have mirrors := (mirrors_root key).run spares
  -- Cursors write to their own variables only, and at the end none of these is bound.
  refine ⟨mirrors, ?_⟩
  intro none
  calc ((root key).run operations).bindings
      = ((root key).run operations).bindings.restrict isApart :=
        (restrict_of_mirrors mirrors none).symm
    _ = .replay (((root key).history operations).filter fun write => isApart write.key) := by
        rw [bindings_root_run]
        exact NameTable.restrict_writeAll isApart .empty _
    _ = .replay ((root key).history (operations.filter fun operation =>
          !operation.movesCursor)) := by
        rw [history_apart (root key) (root key) spares]
    _ = _ := (bindings_root_run key _).symm

/-- A run in which cursors overlap with other writes and one pop finds no cursor. -/
def overlapping : List (Operation Empty) :=
  [.pop, .set "b" (.int 1), .push ⟨.string "x", 0, none⟩, .set "a" .null, .push ⟨.null, 7, some "k"⟩,
    .merge ((withKey "m").set "B" (.bool true)) ["B", "c"], .pop, .pop]

theorem run_cursors_overlapping :
    (∀ operation ∈ overlapping, operation.SparesCursors) ∧
      ((root none).run overlapping).cursors = [] ∧
      ((root none).run overlapping).Mirrors ∧
      ((root none).run overlapping).bindings =
        ((root none).run (overlapping.filter fun operation => !operation.movesCursor)).bindings := by
  have spares : ∀ operation ∈ overlapping, operation.SparesCursors := by
    intro operation listed
    simp only [overlapping, List.mem_cons, List.not_mem_nil, or_false] at listed
    rcases listed with rfl | rfl | rfl | rfl | rfl | rfl | rfl | rfl <;>
      simp only [Operation.SparesCursors, List.mem_cons, List.not_mem_nil, or_false,
        forall_eq_or_imp, forall_eq] <;>
      decide
  have law := run_cursors none overlapping spares
  exact ⟨spares, rfl, law.1, law.2 rfl⟩

end TextTemplate.Scope
