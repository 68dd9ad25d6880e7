import TextTemplate.Expression
import TextTemplate.Scope
import TextTemplate.Value.Field

/-!
# Resolving expressions

An expression is resolved from its root along its steps. Nothing fails on the way: a missing
member, a call of what is no function and a call that fails all lead to null, and from null no step
leads further.
-/

namespace TextTemplate.Expression

open Unicode (sameName)

variable {σ : Type}

/-- The value that a path starts from: a variable, the directory of services, or a service. -/
def root (scope : Scope σ) (name : String) : Traced (Value σ) :=
  match scope.get? name with
  | some value => pure value
  | none =>
    if sameName name "Services" then pure (.function scope.directory)
    else if scope.hasService name then Value.function <$> scope.service name
    else pure .null

/-- The value that a call leaves, a failure being reported. -/
def settle (function : Function σ) (result : Except Error (Value σ)) : Traced (Value σ) :=
  match result with
  | .ok value => pure value
  | .error cause => do
    Traced.report (.callFailed function.name cause)
    pure .null

mutual

/-- The value of an expression. -/
def resolve [Host σ] (scope : Scope σ) (text : Text) : Traced (Value σ) :=
  match _found : ofText text with
  | .blank => pure .null
  | .lookup key steps => follow scope ((scope.get? (String.ofList key)).getD .null) steps
  | .path name steps => do
    let start ← root scope (String.ofList name)
    follow scope start steps
termination_by (2 * text.length + 1, 0)
decreasing_by
  all_goals
    have bound := weight_steps_ofText_le text
    rw [_found] at bound
    simp only [Expression.steps] at bound
    exact Prod.Lex.left _ _ (by omega)

/-- The value that steps lead to. -/
def follow [Host σ] (scope : Scope σ) (current : Value σ) (steps : List Path.Step) :
    Traced (Value σ) :=
  match steps with
  | [] => pure current
  | step :: others =>
    if current.isNull then pure .null
    else
      match step with
      | .member name => follow scope ((current.field? (String.ofList name)).getD .null) others
      | .call (.literal text) =>
        match current with
        | .function function => do
          let result ← function.call (.ofText text)
          let next ← settle function result
          follow scope next others
        | _ => do
          Traced.report (.notCallable current.toString)
          pure .null
      | .call (.expression text) =>
        match current with
        | .function function => do
          let argument ← resolve scope text
          let result ← function.call argument
          let next ← settle function result
          follow scope next others
        | _ => do
          Traced.report (.notCallable current.toString)
          pure .null
termination_by (2 * Path.weight steps, steps.length)
decreasing_by
  all_goals
    simp only [Path.weight, Path.Step.weight, List.length_cons, Nat.zero_add]
    first
      | exact Prod.Lex.left _ _ (by omega)
      | exact Prod.Lex.right _ (by omega)

end

end TextTemplate.Expression
