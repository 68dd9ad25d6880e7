import TextTemplate.Json.Reading
import TextTemplate.Scope
import TextTemplate.Value.Json

/-!
# Assignments

An assignment is a key, an equals sign and a value. The value is a JSON document or, if it is none,
the text as it stands. Assignments are applied one after the other up to the first that is not well
formed, and those before it stay applied.
-/

namespace TextTemplate

/-- A variable and the value that it is to have. -/
structure Assignment (σ : Type) where
  key : String
  value : Value σ

namespace Assignment

variable {σ : Type}

/-- The value that is written behind the equals sign. -/
def valueOf (written : Text) : Value σ :=
  ((Json.read? written).map Value.ofJson).getD (.ofText written)

/-- The assignment that a string denotes. -/
def ofString (written : String) : Except Error (Assignment σ) :=
  match Text.cutAt? '=' written.toList with
  | none => .error (.context (.notAnAssignment written))
  | some (key, value) =>
    if Text.trim key = [] then .error (.context (.missingKey written))
    else .ok ⟨String.ofList (Text.trim key), valueOf value⟩

end Assignment

namespace Scope

variable {σ : Type}

/-- Applies assignments in their order. The scope is what has been reached, also when one of them
is not well formed. -/
def assign (scope : Scope σ) : List String → Traced (Scope σ × Except Error Unit)
  | [] => pure (scope, .ok ())
  | written :: others =>
    match Assignment.ofString written with
    | .error fault => pure (scope, .error fault)
    | .ok assignment => do
      Traced.report (.overriding assignment.key)
      assign (scope.set assignment.key assignment.value) others

end Scope

end TextTemplate
