import TextTemplate.Proofs.Variables.Assignments
import TextTemplate.Proofs.Variables.Documents
import TextTemplate.Proofs.Variables.History

/-!
# Layers of variables

A document is laid over a scope, and assignments are laid over the document. Each layer is a list of
entries, and a name is bound by the last entry of the topmost layer that is about it, however the
entries spell it. Names that are bound already keep their places.
-/

namespace TextTemplate.Scope

open Assignment (Denotes Malformed)
open Unicode (foldName)

variable {σ : Type}

/-- The value of the last entry under a name, whatever its case. -/
def latest (name : String) (entries : List (String × Value σ)) : Option (Value σ) :=
  (entries.reverse.find? fun entry => foldName entry.1 == foldName name).map Prod.snd

theorem latest_cons (name : String) (entry : String × Value σ)
    (others : List (String × Value σ)) :
    latest name (entry :: others) = (latest name others).or
      (if foldName name = foldName entry.1 then some entry.2 else none) := by
  simp only [latest, List.reverse_cons, List.find?_append, List.find?_singleton, Option.map_or,
    beq_iff_eq, eq_comm (a := foldName name)]
  split <;> rfl

theorem get?_setAll (scope : Scope σ) (entries : List (String × Value σ)) (name : String) :
    (scope.setAll entries).get? name = (latest name entries).or (scope.get? name) := by
  induction entries generalizing scope with
  | nil => rfl
  | cons entry others ih =>
      have bound : (scope.set entry.1 entry.2).get? name =
          (if foldName name = foldName entry.1 then some entry.2 else none).or
            (scope.get? name) := by
        rw [get?, set, NameTable.get?_insert]
        split <;> rfl
      calc ((scope.set entry.1 entry.2).setAll others).get? name
        _ = (latest name others).or ((scope.set entry.1 entry.2).get? name) := ih _
        _ = (latest name (entry :: others)).or (scope.get? name) := by
          rw [bound, latest_cons, Option.or_assoc]

theorem setAll_append (scope : Scope σ) (first second : List (String × Value σ)) :
    scope.setAll (first ++ second) = (scope.setAll first).setAll second := by
  simp [setAll]

/-- Entries change the variables of a scope and nothing else. -/
theorem setAll_eq (scope : Scope σ) (entries : List (String × Value σ)) :
    scope.setAll entries = { scope with bindings := (scope.setAll entries).bindings } := by
  induction entries generalizing scope with
  | nil => rfl
  | cons entry others ih => exact ih (scope.set entry.1 entry.2)

theorem keys_setAll (scope : Scope σ) (entries : List (String × Value σ)) :
    scope.bindings.keys <+: (scope.setAll entries).bindings.keys := by
  induction entries generalizing scope with
  | nil => exact List.prefix_refl _
  | cons entry others ih =>
      have kept : scope.bindings.keys <+: (scope.set entry.1 entry.2).bindings.keys := by
        rw [set, NameTable.keys_insert]
        split
        · exact List.prefix_refl _
        · exact List.prefix_append _ _
      exact kept.trans (ih _)

/-- What assignments are laid over a document, and the document over a scope. -/
theorem get?_layers (scope : Scope σ) (document : Text) (assigned : List (String × Value σ))
    (name : String) :
    ((scope.takeDocument document).1.setAll assigned).get? name =
      ((latest name assigned).or (latest name (documentEntries document))).or
        (scope.get? name) := by
  rw [get?_setAll, takeDocument_fst, get?_setAll, Option.or_assoc]

/-- A document that is refused or blank changes nothing, and the entries of any other one are bound
in their order. Assignments are laid over what the document binds; they are applied up to the first
that is not well formed. -/
theorem layering (scope : Scope σ) (document : Text) (written : List String) :
    let loaded := scope.takeDocument document
    let assigned := (loaded.1.assign written).value
    (∀ fault, loaded.2 = .error fault → loaded.1 = scope) ∧
      (Text.isBlankText document = true → loaded = (scope, .ok ())) ∧
      (∀ entries, Json.readObject? document = some entries →
        (entries.map Prod.fst).Nodup ∧
          (∃ members, Json.tokens? document = some (Json.Tree.object members).tokens ∧
            entries = Entries.ofSequence (Json.Tree.memberValues members)) ∧
          loaded =
            (scope.setAll (entries.map fun entry => (entry.1, .ofJson entry.2)), .ok ())) ∧
      (∀ entries, Text.isBlankText document = false → Json.bindings? document = some entries →
        (entries.map Prod.fst).Nodup ∧
          loaded =
            (scope.setAll (entries.map fun entry => (entry.1, .ofJson entry.2)), .ok ())) ∧
      (assigned.2 = .ok () →
        ∃ assignments, List.Forall₂ Denotes written assignments ∧
          (∀ name, assigned.1.get? name =
            ((latest name (assignments.map Assignment.entry)).or
              (latest name (documentEntries document))).or (scope.get? name)) ∧
          scope.bindings.keys <+: loaded.1.bindings.keys ∧
          loaded.1.bindings.keys <+: assigned.1.bindings.keys) ∧
      ∀ fault, assigned.2 = .error fault →
        ∃ front first back, written = front ++ first :: back ∧ Malformed first fault ∧
          (∃ assignments : List (Assignment σ), List.Forall₂ Denotes front assignments) ∧
          (loaded.1.assign front).value = (assigned.1, .ok ()) := by
  intro loaded assigned
  refine ⟨fun fault refused => takeDocument_of_error refused, ?_, ?_, ?_, ?_, ?_⟩
  · intro blank
    simp [loaded, takeDocument, blank]
  · intro entries read
    rcases Json.readObject?_eq_some.mp read with ⟨members, lexed, -, order⟩
    exact ⟨Json.nodup_readObject? read, ⟨members, lexed, order⟩,
      takeDocument_of_readObject? read scope⟩
  · intro entries visible bound
    exact ⟨Json.nodup_bindings? bound, takeDocument_of_bindings? visible bound scope⟩
  · intro accepted
    rcases denote_of_assign_ok accepted with ⟨assignments, denote, reached⟩
    refine ⟨assignments, denote, ?_, ?_, ?_⟩
    · intro name
      rw [show assigned.1 = _ from reached]
      exact get?_layers scope document _ name
    · rw [show loaded.1 = _ from takeDocument_fst scope document]
      exact keys_setAll scope _
    · rw [show assigned.1 = _ from reached]
      exact keys_setAll loaded.1 _
  · intro fault refused
    rcases malformed_of_assign_error refused with
      ⟨front, first, back, assignments, shape, denote, malformed, reached⟩
    refine ⟨front, first, back, shape, malformed, ⟨assignments, denote⟩, ?_⟩
    rw [assign_of_denotes denote, ← reached]

/-- A document with two keys that are one name and one that is bound, an assignment to that name,
and assignments of which the third has no key. -/
theorem layering_collisions :
    let scope : Scope Empty := .set .empty "b" .null
    let document := "\x7b\"A\": null, \"B\": true, \"a\": \"x\"\x7d".toList
    let loaded := scope.takeDocument document
    let assigned := (loaded.1.assign [" B =y", "c=d"]).value
    loaded = (scope.setAll [("A", .null), ("B", .bool true), ("a", .string "x")], .ok ()) ∧
      loaded.1.get? "A" = some (.string "x") ∧ loaded.1.get? "b" = some (.bool true) ∧
      assigned.2 = .ok () ∧
      (∃ assignments, List.Forall₂ Denotes [" B =y", "c=d"] assignments ∧
        assigned.1.get? "A" = ((latest "A" (assignments.map Assignment.entry)).or
          (latest "A" (documentEntries document))).or (scope.get? "A")) ∧
      assigned.1.get? "A" = some (.string "x") ∧ assigned.1.get? "b" = some (.string "y") ∧
      scope.bindings.keys <+: loaded.1.bindings.keys ∧
      ∃ front first back, ["b=2", "b=3=4", " =e", "f=g"] = front ++ first :: back ∧
        Malformed first (.context (.missingKey " =e")) := by
  intro scope document loaded assigned
  have read : Json.readObject? document =
      some [("A", .null), ("B", .bool true), ("a", .string "x")] := rfl
  have accepted : assigned.2 = .ok () := rfl
  have refused : (loaded.1.assign ["b=2", "b=3=4", " =e", "f=g"]).value.2 =
      .error (.context (.missingKey " =e")) := rfl
  have law := layering scope document [" B =y", "c=d"]
  have entries : loaded =
      (scope.setAll [("A", .null), ("B", .bool true), ("a", .string "x")], .ok ()) :=
    (law.2.2.1 _ read).2.2
  have reached : assigned.1 =
      (scope.setAll [("A", .null), ("B", .bool true), ("a", .string "x")]).setAll
        [("B", .string "y"), ("c", .string "d")] := by
    change (loaded.1.assign [" B =y", "c=d"]).value.1 = _
    rw [entries]
    rfl
  rcases law.2.2.2.2.1 accepted with ⟨assignments, denote, bound, kept, -⟩
  rcases (layering scope document ["b=2", "b=3=4", " =e", "f=g"]).2.2.2.2.2 _ refused with
    ⟨front, first, back, shape, malformed, -⟩
  refine ⟨entries, ?_, ?_, accepted, ⟨assignments, denote, bound "A"⟩, ?_, ?_, kept,
    front, first, back, shape, malformed⟩
  · rw [entries]
    rfl
  · rw [entries]
    rfl
  · rw [reached]
    rfl
  · rw [reached]
    rfl

end TextTemplate.Scope
