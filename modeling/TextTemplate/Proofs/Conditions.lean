import TextTemplate.Condition
import TextTemplate.Proofs.Cutting
import TextTemplate.Proofs.Digits
import TextTemplate.Proofs.LetterCase
import TextTemplate.Proofs.Quotes

/-!
# Conditions as they are written

A condition that is written out is read back (`Condition.reads_written`). The operators are looked
for one after the other in the whole text, so the point is that only the operator between the
operands occurs: an operator has a space on each side and none within it, so it lies between two
spaces of the text, and these are spaces of one operand or the ones around the operator written.

The operands are trimmed when they are read. Literals are told apart by trying to read them as
numbers first, so what is written in quotes must not be a number or a truth value.
-/

namespace TextTemplate

/-! ## Operators -/

namespace Comparison

theorem mem_all (operator : Comparison) : operator ∈ all := by
  cases operator <;> decide

theorem space_notMem_sign (operator : Comparison) : ' ' ∉ operator.sign.toList := by
  cases operator <;> decide

theorem sign_injective {operator other : Comparison}
    (same : operator.sign.toList = other.sign.toList) : operator = other := by
  revert same
  cases operator <;> cases other <;> decide

theorem token_infix_iff {operator : Comparison} {text : Text} :
    operator.token <:+: text ↔ operator.sign.toList ∈ Text.spaced text :=
  Text.spaced_infix_iff operator.space_notMem_sign

end Comparison

namespace Condition

/-- No operator occurs in the text. -/
def OperatorFree (text : Text) : Prop :=
  ∀ operator : Comparison, ¬operator.token <:+: text

theorem operatorFree_iff {text : Text} :
    OperatorFree text ↔ ∀ operator ∈ Comparison.all, ¬Text.mentions operator.token text := by
  simp only [Text.mentions_iff]
  constructor
  · intro free operator _
    exact free operator
  · intro free operator
    exact free operator operator.mem_all

instance (text : Text) : Decidable (OperatorFree text) :=
  decidable_of_iff' _ operatorFree_iff

theorem findOperator?_eq_none {text : Text} (free : OperatorFree text) :
    findOperator? text = none := by
  rw [findOperator?, List.findSome?_eq_none_iff]
  intro operator _
  rw [Option.map_eq_none_iff, Text.cut?_eq_none]
  exact free operator

theorem findSome?_of_unique {α β : Type} {find : α → Option β} {items : List α} {item : α}
    {result : β} (listed : item ∈ items) (found : find item = some result)
    (others : ∀ other, other ≠ item → find other = none) : items.findSome? find = some result := by
  induction items with
  | nil => contradiction
  | cons first items ih =>
      rw [List.findSome?_cons]
      by_cases here : first = item
      · rw [here, found]
      · rw [others first here]
        apply ih
        rcases List.mem_cons.mp listed with same | later
        · exact absurd same.symm here
        · exact later

/-- The only operator between operands without one is the one that was written. -/
theorem findOperator?_between (operator : Comparison) {left right : Text}
    (leftFree : OperatorFree (left ++ [' '])) (rightFree : OperatorFree (' ' :: right)) :
    findOperator? (left ++ operator.token ++ right) = some (operator, left, right) := by
  have solid := operator.space_notMem_sign
  apply findSome?_of_unique operator.mem_all
  · have first : ¬operator.token <:+: left ++ operator.token.dropLast := by
      have front : left ++ operator.token.dropLast = left ++ ' ' :: operator.sign.toList := by
        rw [Comparison.token, List.dropLast_concat]
      rw [front, Comparison.token_infix_iff, Text.spaced_append_word solid,
        ← Comparison.token_infix_iff]
      exact leftFree operator
    rw [Text.cut?_append (by simp [Comparison.token]) first, Option.map_some]
  · intro other different
    have whole : left ++ operator.token ++ right =
        left ++ ' ' :: (operator.sign.toList ++ ' ' :: right) := by
      simp [Comparison.token]
    rw [Option.map_eq_none_iff, Text.cut?_eq_none, whole, Comparison.token_infix_iff,
      Text.spaced_append solid, List.mem_append, List.mem_cons, ← Comparison.token_infix_iff,
      ← Comparison.token_infix_iff]
    rintro (inLeft | same | inRight)
    · exact leftFree other inLeft
    · exact different (Comparison.sign_injective same)
    · exact rightFree other inRight

end Condition

/-! ## Literals -/

namespace Literal

/-- A literal as it is written. -/
inductive Written where
  | null
  | bool (b : Bool)
  | int (n : Int64)
  | string (quote : Quote) (s : String)

namespace Written

/-- The literal as it is written, an integer in decimal digits and a string within its quotes. -/
def text : Written → Text
  | null => "null".toList
  | bool true => "true".toList
  | bool false => "false".toList
  | int n => Digits.ofInt n.toInt
  | string quote s => quote.enclose s.toList

/-- The literal that is meant. -/
def literal : Written → Literal
  | null => .null
  | bool b => .bool b
  | int n => .int n
  | string _ s => .string s

end Written

theorem int64?_enclose (quote : Quote) (text : Text) :
    Digits.int64? (quote.enclose text) = none := by
  cases quote <;>
    simp [Quote.enclose, Quote.mark, Digits.int64?, Digits.natural?, Digits.value?]

theorem read?_enclose (quote : Quote) (text : Text) :
    FloatText.read? (quote.enclose text) = none := by
  cases quote <;> simp [Quote.enclose, Quote.mark, FloatText.read?, FloatText.unsigned?]

/-- A quote is its own lower case. -/
theorem not_sameFolded_enclose (quote : Quote) (text : Text) {word : Text}
    (other : (Unicode.lower word).head? ≠ some quote.mark) :
    Unicode.sameFolded (quote.enclose text) word = false := by
  rw [← Bool.not_eq_true, Unicode.sameFolded_iff]
  intro same
  apply other
  have fixed : Unicode.lowerChar quote.mark = [quote.mark] ∧ quote.mark ≠ 'Σ' := by
    cases quote <;> decide +kernel
  rw [← same, Quote.enclose, List.cons_append, Unicode.lower, Unicode.lowerAfter, if_neg fixed.2,
    fixed.1]
  rfl

theorem ofText_enclose (quote : Quote) (text : Text) :
    ofText (quote.enclose text) = .string (String.ofList text) := by
  have notTrue : Unicode.sameFolded (quote.enclose text) "true".toList = false := by
    apply not_sameFolded_enclose
    cases quote <;> decide +kernel
  have notFalse : Unicode.sameFolded (quote.enclose text) "false".toList = false := by
    apply not_sameFolded_enclose
    cases quote <;> decide +kernel
  have notNull : quote.enclose text ≠ "null".toList := by
    cases quote <;> simp [Quote.enclose, Quote.mark]
  simp only [ofText, int64?_enclose, read?_enclose, ite_self, notTrue, notFalse, if_neg notNull,
    Bool.false_eq_true, if_false, quote.unquote_enclose]

theorem ofText_written (written : Written) : ofText written.text = written.literal := by
  cases written with
  | null => rfl
  | bool b => cases b <;> rfl
  | int n => simp [ofText, Written.text, Written.literal, Digits.int64?_ofInt]
  | string quote s =>
      rw [Written.text, ofText_enclose, String.ofList_toList]
      rfl

theorem Written.trim_text (written : Written) : Text.trim written.text = written.text := by
  cases written with
  | null => decide
  | bool b => cases b <;> decide
  | int n => exact Text.trim_of_visible fun c inside => Digits.ofInt_visible inside
  | string quote s => exact quote.trim_enclose s.toList

theorem Written.text_nonempty (written : Written) : written.text ≠ [] := by
  cases written with
  | null => decide
  | bool b => cases b <;> decide
  | int n => exact Digits.ofInt_nonempty n.toInt
  | string quote s => simp [Written.text, Quote.enclose]

end Literal

/-! ## Operands -/

namespace Operand

/-- A right operand as it is written. What mentions the root scope is a path. -/
inductive Written where
  | path (text : Text) (trimmed : Text.trim text = text) (mentions : Expression.scopeWord <:+: text)
  | literal (written : Literal.Written) (unscoped : ¬Expression.scopeWord <:+: written.text)

namespace Written

/-- The operand as it is written. -/
def text : Written → Text
  | path text _ _ => text
  | literal written _ => written.text

/-- The operand that is meant. -/
def operand : Written → Operand
  | path text _ _ => .path text
  | literal written _ => .literal written.literal

theorem trim_text (written : Written) : Text.trim written.text = written.text := by
  cases written with
  | path text trimmed mentions => exact trimmed
  | literal written unscoped => exact written.trim_text

theorem text_nonempty (written : Written) : written.text ≠ [] := by
  cases written with
  | path text trimmed mentions =>
      rintro rfl
      rw [List.infix_nil] at mentions
      contradiction
  | literal written unscoped => exact written.text_nonempty

end Written

theorem ofText_written (written : Written) : ofText written.text = written.operand := by
  cases written with
  | path text trimmed mentions =>
      rw [Written.text, ofText, if_pos (Text.mentions_iff.mpr mentions)]
      rfl
  | literal written unscoped =>
      rw [Written.text, ofText, if_neg (mt Text.mentions_iff.mp unscoped),
        Literal.ofText_written]
      rfl

end Operand

/-! ## Conditions -/

namespace Condition

/-- A path whose value is tested, as it is written. -/
structure PathTest where
  path : Text
  trimmed : Text.trim path = path
  notNegated : path.head? ≠ some '!'
  free : OperatorFree path

/-- A comparison as it is written. The spaces of the operator may be the last of the one and the
first of another operator. -/
structure ComparisonTest where
  operator : Comparison
  left : Text
  right : Operand.Written
  trimmed : Text.trim left = left
  nonempty : left ≠ []
  notNegated : left.head? ≠ some '!'
  leftFree : OperatorFree (left ++ [' '])
  rightFree : OperatorFree (' ' :: right.text)

/-- A condition as it is written. -/
inductive Written where
  | path (test : PathTest)
  | comparison (test : ComparisonTest)
  | negation (inner : Written)

namespace Written

/-- The condition as it is written: the operands around the operator, and a negation with
parentheses. -/
def text : Written → Text
  | path test => test.path
  | comparison test => test.left ++ test.operator.token ++ test.right.text
  | negation inner => '!' :: '(' :: inner.text ++ [')']

/-- The condition that is meant. -/
def condition : Written → Condition
  | path test => .path test.path
  | comparison test => .comparison test.operator test.left test.right.operand
  | negation inner => .negation inner.condition

end Written

theorem withoutParentheses_between (text : Text) :
    withoutParentheses ('(' :: text ++ [')']) = text := by
  have opened := Text.after?_append ['('] (text ++ [')'])
  have closed := Text.after?_append [')'] text.reverse
  simp only [List.singleton_append] at opened closed
  simp [withoutParentheses, Text.before?, opened, closed]

theorem ofText_of_negated {text rest : Text} (negated : Text.trim text = '!' :: rest) :
    ofText text = .negation (ofText (withoutParentheses (Text.trim rest))) := by
  rw [ofText]
  split <;> simp_all

theorem ofText_of_trimmed {text : Text} (trimmed : Text.trim text = text)
    (notNegated : text.head? ≠ some '!') :
    ofText text =
      match findOperator? text with
      | some (operator, left, right) =>
        .comparison operator (Text.trim left) (.ofText (Text.trim right))
      | none => .path text := by
  rw [ofText]
  split
  · rename_i rest negated
    rw [trimmed] at negated
    simp [negated] at notNegated
  · rcases found : findOperator? text with _ | ⟨operator, left, right⟩ <;>
      simp only [trimmed, found]

theorem ofText_negation (text : Text) :
    ofText ('!' :: '(' :: text ++ [')']) = .negation (ofText text) := by
  have negated : Text.trim ('!' :: '(' :: text ++ [')']) = '!' :: ('(' :: text ++ [')']) :=
    Text.trim_between (by decide) (by decide) ('(' :: text)
  have inner : Text.trim ('(' :: text ++ [')']) = '(' :: text ++ [')'] :=
    Text.trim_between (by decide) (by decide) text
  rw [ofText_of_negated negated, inner, withoutParentheses_between]

theorem ofText_pathTest (test : PathTest) : ofText test.path = .path test.path := by
  rw [ofText_of_trimmed test.trimmed test.notNegated, findOperator?_eq_none test.free]

/-- The test of a path holds if its value is truthy. -/
theorem holdsIn_pathTest {σ : Type} [Host σ] (scope : Scope σ) (test : PathTest) :
    holdsIn scope test.path = Value.isTruthy <$> Expression.resolve scope test.path := by
  rw [holdsIn, ofText_pathTest]
  rfl

theorem ofText_comparisonTest (test : ComparisonTest) :
    ofText (test.left ++ test.operator.token ++ test.right.text) =
      .comparison test.operator test.left test.right.operand := by
  have rightTrimmed := test.right.trim_text
  rcases Text.head_visible test.trimmed test.nonempty with ⟨c, rest, shape, visible⟩
  have trimmed : Text.trim (test.left ++ test.operator.token ++ test.right.text) =
      test.left ++ test.operator.token ++ test.right.text := by
    have ending := (Text.trimStart_trimEnd_of_trim rightTrimmed).2
    rw [shape]
    exact Text.trim_cons_append visible (rest ++ test.operator.token) ending
      test.right.text_nonempty
  have notNegated : (test.left ++ test.operator.token ++ test.right.text).head? ≠ some '!' := by
    have first := test.notNegated
    rw [shape] at first ⊢
    exact first
  rw [ofText_of_trimmed trimmed notNegated,
    findOperator?_between test.operator test.leftFree test.rightFree]
  simp only [test.trimmed, rightTrimmed, Operand.ofText_written]

/-- What is written is read back, and whatever is written within `!(…)` is negated. -/
theorem reads_written :
    (∀ written : Written, ofText written.text = written.condition) ∧
      ∀ text : Text, ofText ('!' :: '(' :: text ++ [')']) = .negation (ofText text) := by
  refine ⟨?_, ofText_negation⟩
  intro written
  induction written with
  | path test => exact ofText_pathTest test
  | comparison test => exact ofText_comparisonTest test
  | negation inner ih =>
      rw [Written.text, ofText_negation, ih]
      rfl

/-- A comparison with a string that begins like an operator and has a quote of the other kind,
negated twice. -/
theorem reads_written_negatedTwice :
    ∃ written : Written,
      written.text = "!(!(Context.n >= '= \"!=> '))".toList ∧
      written.condition = .negation (.negation
        (.comparison .atLeast "Context.n".toList (.literal (.string "= \"!=> ")))) ∧
      ofText written.text = written.condition := by
  let test : ComparisonTest :=
    { operator := .atLeast
      left := "Context.n".toList
      right := .literal (.string .single "= \"!=> ") (by decide)
      trimmed := by decide
      nonempty := by decide
      notNegated := by decide
      leftFree := by decide
      rightFree := by decide }
  let written : Written := .negation (.negation (.comparison test))
  have spelled : written.text = "!(!(Context.n >= '= \"!=> '))".toList := by decide
  exact ⟨written, spelled, rfl, reads_written.1 written⟩

end Condition

end TextTemplate
