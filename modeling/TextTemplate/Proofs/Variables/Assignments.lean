import Mathlib.Data.List.Forall2
import TextTemplate.Proofs.Cutting
import TextTemplate.Variables.Assignment
import TextTemplate.Variables.Document

/-!
# Well-formed assignments

A string is an assignment if it has an equals sign with more than blanks in front of the first one.
A list of strings is applied up to the first that is none, and what is applied is a list of entries.
-/

namespace TextTemplate

namespace Assignment

variable {σ : Type}

/-- The key is what stands in front of the first equals sign, without the blanks around it. -/
def Denotes (written : String) (assignment : Assignment σ) : Prop :=
  ∃ front value, written.toList = front ++ '=' :: value ∧ '=' ∉ front ∧ Text.trim front ≠ [] ∧
    assignment = ⟨String.ofList (Text.trim front), valueOf value⟩

/-- There is no equals sign, or there are only blanks in front of it. -/
inductive Malformed (written : String) : Error → Prop where
  | noEquals (absent : '=' ∉ written.toList) :
    Malformed written (.context (.notAnAssignment written))
  | noKey (front value : Text) (shape : written.toList = front ++ '=' :: value)
    (absent : '=' ∉ front) (blank : Text.trim front = []) :
    Malformed written (.context (.missingKey written))

theorem ofString_eq_ok {written : String} {assignment : Assignment σ} :
    ofString written = .ok assignment ↔ Denotes written assignment := by
  constructor
  · intro read
    unfold ofString at read
    split at read
    · contradiction
    · rename_i front value cut
      split at read
      · contradiction
      · rename_i named
        rw [Text.cutAt?_eq_some] at cut
        exact ⟨front, value, cut.1, cut.2, named, (Except.ok.inj read).symm⟩
  · rintro ⟨front, value, shape, absent, named, rfl⟩
    simp [ofString, shape, Text.cutAt?_append absent, named]

theorem ofString_eq_error {written : String} {fault : Error} :
    (ofString written : Except Error (Assignment σ)) = .error fault ↔ Malformed written fault := by
  constructor
  · intro refused
    unfold ofString at refused
    split at refused
    · rename_i cut
      rw [← Except.error.inj refused]
      exact .noEquals (Text.cutAt?_eq_none.mp cut)
    · rename_i front value cut
      split at refused
      · rename_i blank
        rw [Text.cutAt?_eq_some] at cut
        rw [← Except.error.inj refused]
        exact .noKey front value cut.1 cut.2 blank
      · contradiction
  · intro malformed
    cases malformed with
    | noEquals absent => simp [ofString, Text.cutAt?_eq_none.mpr absent]
    | noKey front value shape absent blank =>
        simp [ofString, shape, Text.cutAt?_append absent, blank]

/-- The name of an assignment with its value. -/
def entry (assignment : Assignment σ) : String × Value σ :=
  (assignment.key, assignment.value)

end Assignment

/-! ## Runs of assignments -/

namespace Scope

open Assignment (Denotes Malformed)

variable {σ : Type}

theorem assign_cons_ok {written : String} {assignment : Assignment σ}
    (denotes : Denotes written assignment) (scope : Scope σ) (others : List String) :
    (scope.assign (written :: others)).value =
      ((scope.set assignment.key assignment.value).assign others).value := by
  simp [assign, Assignment.ofString_eq_ok.mpr denotes]

theorem assign_cons_error {written : String} {fault : Error} (malformed : Malformed written fault)
    (scope : Scope σ) (others : List String) :
    (scope.assign (written :: others)).value = (scope, .error fault) := by
  simp [assign, Assignment.ofString_eq_error.mpr malformed]

/-- Assignments that are well formed are applied in front of the others. -/
theorem assign_append {front : List String} {assignments : List (Assignment σ)}
    (denote : List.Forall₂ Denotes front assignments) (scope : Scope σ) (others : List String) :
    (scope.assign (front ++ others)).value =
      ((scope.setAll (assignments.map Assignment.entry)).assign others).value := by
  induction denote generalizing scope with
  | nil => rfl
  | cons denotes _ ih =>
      rw [List.cons_append, assign_cons_ok denotes, ih]
      rfl

theorem assign_of_denotes {written : List String} {assignments : List (Assignment σ)}
    (denote : List.Forall₂ Denotes written assignments) (scope : Scope σ) :
    (scope.assign written).value = (scope.setAll (assignments.map Assignment.entry), .ok ()) := by
  have applied := assign_append denote scope []
  rwa [List.append_nil] at applied

theorem assign_of_malformed {front : List String} {assignments : List (Assignment σ)}
    (denote : List.Forall₂ Denotes front assignments) {first : String} {fault : Error}
    (malformed : Malformed first fault) (scope : Scope σ) (back : List String) :
    (scope.assign (front ++ first :: back)).value =
      (scope.setAll (assignments.map Assignment.entry), .error fault) := by
  rw [assign_append denote, assign_cons_error malformed]

/-- Either all strings are assignments, or there is a first one that is none. -/
theorem denote_or_malformed (σ : Type) (written : List String) :
    (∃ assignments : List (Assignment σ), List.Forall₂ Denotes written assignments) ∨
      ∃ front first back fault, ∃ assignments : List (Assignment σ),
        written = front ++ first :: back ∧ List.Forall₂ Denotes front assignments ∧
          Malformed first fault := by
  induction written with
  | nil => exact .inl ⟨[], .nil⟩
  | cons string others ih =>
      cases read : (Assignment.ofString string : Except Error (Assignment σ)) with
      | error fault =>
          rw [Assignment.ofString_eq_error] at read
          exact .inr ⟨[], string, others, fault, [], rfl, .nil, read⟩
      | ok assignment =>
          rw [Assignment.ofString_eq_ok] at read
          rcases ih with ⟨assignments, denote⟩ |
            ⟨front, first, back, fault, assignments, rfl, denote, malformed⟩
          · exact .inl ⟨assignment :: assignments, .cons read denote⟩
          · exact .inr ⟨string :: front, first, back, fault, assignment :: assignments, rfl,
              .cons read denote, malformed⟩

theorem denote_of_assign_ok {scope : Scope σ} {written : List String}
    (accepted : (scope.assign written).value.2 = .ok ()) :
    ∃ assignments, List.Forall₂ Denotes written assignments ∧
      (scope.assign written).value.1 = scope.setAll (assignments.map Assignment.entry) := by
  rcases denote_or_malformed σ written with ⟨assignments, denote⟩ |
    ⟨front, first, back, fault, assignments, rfl, denote, malformed⟩
  · exact ⟨assignments, denote, by rw [assign_of_denotes denote]⟩
  · rw [assign_of_malformed denote malformed] at accepted
    contradiction

theorem malformed_of_assign_error {scope : Scope σ} {written : List String} {fault : Error}
    (refused : (scope.assign written).value.2 = .error fault) :
    ∃ front first back, ∃ assignments : List (Assignment σ), written = front ++ first :: back ∧
      List.Forall₂ Denotes front assignments ∧ Malformed first fault ∧
      (scope.assign written).value.1 = scope.setAll (assignments.map Assignment.entry) := by
  rcases denote_or_malformed σ written with ⟨assignments, denote⟩ |
    ⟨front, first, back, cause, assignments, rfl, denote, malformed⟩
  · rw [assign_of_denotes denote] at refused
    contradiction
  · have applied := assign_of_malformed denote malformed scope back
    rw [applied] at refused
    rw [← Except.error.inj refused]
    exact ⟨front, first, back, assignments, rfl, denote, malformed, by rw [applied]⟩

end Scope

end TextTemplate
