import TextTemplate.Expression.Resolve
import TextTemplate.Value.Order

/-!
# Conditions

A condition is a path whose value has to be truthy, a comparison of a path with an operand, or the
negation of a condition. An operator stands between two single spaces; the operators are looked
for in a fixed order, not from left to right. The right operand is a path if it mentions the root
scope and else a literal. Every text is a condition.
-/

namespace TextTemplate

/-- The operators of comparisons. -/
inductive Comparison where
  | atLeast
  | atMost
  | above
  | below
  | equal
  | unequal
deriving DecidableEq

/-- A literal operand. -/
inductive Literal where
  | null
  | bool (b : Bool)
  | int (n : Int64)
  | float (x : Float)
  | string (s : String)

/-- The right operand of a comparison. -/
inductive Operand where
  | path (text : Text)
  | literal (value : Literal)

/-- A condition. -/
inductive Condition where
  | negation (inner : Condition)
  | comparison (operator : Comparison) (left : Text) (right : Operand)
  | path (text : Text)

namespace Comparison

/-- The operators in the order in which they are looked for. -/
def all : List Comparison :=
  [.atLeast, .atMost, .above, .below, .equal, .unequal]

/-- The sign of an operator. -/
def sign : Comparison → String
  | .atLeast => ">="
  | .atMost => "<="
  | .above => ">"
  | .below => "<"
  | .equal => "=="
  | .unequal => "!="

/-- An operator as it stands in a condition, with a space on each side. -/
def token (operator : Comparison) : Text :=
  ' ' :: operator.sign.toList ++ [' ']

/-- The comparison holds between two values. -/
def holds {σ : Type} (operator : Comparison) (left right : Value σ) : Bool :=
  match operator with
  | .atLeast => left.compare right != .lt
  | .atMost => left.compare right != .gt
  | .above => left.compare right == .gt
  | .below => left.compare right == .lt
  | .equal => left.equals right
  | .unequal => !left.equals right

end Comparison

namespace Literal

/-- The literal that a text denotes: an integer, a number with a digit in it, a truth value, null,
and else the text without quotes around it. -/
def ofText (text : Text) : Literal :=
  if let some n := Digits.int64? text then .int n
  else if let some x := if text.any Char.isDigit then FloatText.read? text else none then .float x
  else if Unicode.sameFolded text "true".toList then .bool true
  else if Unicode.sameFolded text "false".toList then .bool false
  else if text = "null".toList then .null
  else .string (String.ofList (Text.unquote text))

/-- The value of a literal. -/
def value {σ : Type} : Literal → Value σ
  | .null => .null
  | .bool b => .bool b
  | .int n => .int n
  | .float x => .float x
  | .string s => .string s

end Literal

namespace Operand

/-- The operand that a text denotes. -/
def ofText (text : Text) : Operand :=
  if Text.mentions Expression.scopeWord text then .path text else .literal (Literal.ofText text)

/-- The value of an operand, paths being resolved. -/
def value {σ : Type} (resolve : Text → Traced (Value σ)) : Operand → Traced (Value σ)
  | .path text => resolve text
  | .literal written => pure written.value

end Operand

namespace Condition

/-- The text without one pair of parentheses around it. -/
def withoutParentheses (text : Text) : Text :=
  ((Text.after? ['('] text).bind (Text.before? [')'])).getD text

/-- The first operator that occurs in a condition, with the texts on both sides. -/
def findOperator? (text : Text) : Option (Comparison × Text × Text) :=
  Comparison.all.findSome? fun operator =>
    (Text.cut? operator.token text).map fun sides => (operator, sides)

theorem length_withoutParentheses_le (text : Text) :
    (withoutParentheses text).length ≤ text.length := by
  unfold withoutParentheses
  cases opened : Text.after? ['('] text with
  | none => simp
  | some rest =>
    have whole := Text.after?_eq_some opened
    cases closed : Text.before? [')'] rest with
    | none => simp [closed]
    | some inner =>
      simp only [Text.before?, Option.map_eq_some_iff] at closed
      rcases closed with ⟨reversed, found, rfl⟩
      have bound := congrArg List.length (Text.after?_eq_some found)
      have lengths := congrArg List.length whole
      simp only [List.length_append, List.length_reverse, List.length_singleton] at bound lengths
      rw [Option.bind_some, Text.before?, found]
      simp only [Option.map_some, Option.getD_some, List.length_reverse]
      omega

/-- The condition that a text denotes. -/
def ofText (text : Text) : Condition :=
  match _trimmed : Text.trim text with
  | '!' :: rest => .negation (ofText (withoutParentheses (Text.trim rest)))
  | trimmed =>
    match findOperator? trimmed with
    | some (operator, left, right) =>
      .comparison operator (Text.trim left) (.ofText (Text.trim right))
    | none => .path trimmed
termination_by text.length
decreasing_by
  have := length_withoutParentheses_le (Text.trim rest)
  have := Text.length_trim_le rest
  have := Text.length_trim_le text
  rw [_trimmed, List.length_cons] at this
  omega

variable {σ : Type}

/-- The value of a condition: a truth value, or the value of its path. -/
def evaluate (resolve : Text → Traced (Value σ)) : Condition → Traced (Value σ)
  | .negation inner => do
    let value ← inner.evaluate resolve
    pure (.bool (!value.isTruthy))
  | .comparison operator left right => do
    let left ← resolve left
    let right ← right.value resolve
    pure (.bool (operator.holds left right))
  | .path text => resolve text

/-- The condition holds if its value is truthy. -/
def holds (resolve : Text → Traced (Value σ)) (condition : Condition) : Traced Bool :=
  Value.isTruthy <$> condition.evaluate resolve

/-- The condition that a text denotes holds in a scope. -/
def holdsIn [Host σ] (scope : Scope σ) (text : Text) : Traced Bool :=
  (ofText text).holds (Expression.resolve scope)

end Condition

end TextTemplate
