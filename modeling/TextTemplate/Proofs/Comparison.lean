import TextTemplate.Command.Run
import TextTemplate.Proofs.LetterCase

/-!
# Order and equality

Two values that are not both numbers are equal if their lower cases are, and in order with each
other if their upper cases are. These are two notions of a text without its case:
`Value.compare_equals` says what each of them is and on which texts they agree, and
`Value.compare_equals_kelvin` shows that they differ in both directions.
-/

namespace TextTemplate

namespace Comparison

variable {σ : Type}

theorem atLeast_and_atMost {left right : Value σ} :
    (atLeast.holds left right = true ∧ atMost.holds left right = true) ↔
      left.compare right = .eq := by
  rw [holds, holds]
  cases left.compare right <;> decide

end Comparison

namespace Value

theorem compareTexts_eq_eq {left right : Text} : compareTexts left right = .eq ↔ left = right := by
  induction left generalizing right with
  | nil => cases right <;> simp [compareTexts]
  | cons c left ih =>
      cases right with
      | nil => simp [compareTexts]
      | cons d right =>
          rw [compareTexts, List.cons.injEq, ← ih, ← Char.toNat_inj]
          split
          · simp
            omega
          · split
            · simp
              omega
            · have same : c.toNat = d.toNat := by omega
              simp [same]

variable {σ : Type}

theorem isNumeric_of_toFloat? {value : Value σ} {x : Float} (number : value.toFloat? = some x) :
    value.isNumeric = true := by
  cases value with
  | int n => rfl
  | float x => rfl
  | decimal d => rfl
  | _ => contradiction

/-- Two values that are not both numbers and of which none is null are compared by their texts. -/
theorem compare_texts {left right : Value σ} (leftNotNull : left.isNull = false)
    (rightNotNull : right.isNull = false)
    (notNumbers : ¬(left.isNumeric = true ∧ right.isNumeric = true)) :
    left.compare right =
        compareTexts (Unicode.upper left.display) (Unicode.upper right.display) ∧
      left.equals right = Unicode.sameFolded left.display right.display := by
  have leftOther : left ≠ null := by
    rintro rfl
    contradiction
  have rightOther : right ≠ null := by
    rintro rfl
    contradiction
  rw [compare, equals]
  · cases leftNumber : left.toFloat? with
    | none => exact ⟨rfl, rfl⟩
    | some x =>
        cases rightNumber : right.toFloat? with
        | none => exact ⟨rfl, rfl⟩
        | some y =>
            exact absurd ⟨isNumeric_of_toFloat? leftNumber, isNumeric_of_toFloat? rightNumber⟩
              notNumbers
  all_goals simp_all

theorem isNull_eq_true {value : Value σ} : value.isNull = true ↔ value = null := by
  cases value <;> simp [isNull]

theorem compare_null {left right : Value σ} (oneNull : left.isNull = true ∨ right.isNull = true) :
    (left.compare right = .eq ↔ left.isNull = right.isNull) ∧
      (left.equals right = true ↔ left.isNull = right.isNull) ∧
      (left.isNull = right.isNull → left.display = right.display) := by
  rcases oneNull with leftNull | rightNull
  · rcases isNull_eq_true.mp leftNull with rfl
    cases right <;> simp [compare, equals, isNull]
  · rcases isNull_eq_true.mp rightNull with rfl
    cases left <;> simp [compare, equals, isNull]

theorem display_ofText (text : Text) : (ofText text : Value σ).display = text := by
  rw [ofText, display, String.toList_ofList]

theorem not_isNumeric_ofText (left right : Text) :
    ¬((ofText left : Value σ).isNumeric = true ∧ (ofText right : Value σ).isNumeric = true) := by
  rintro ⟨number, -⟩
  contradiction

theorem compare_eq_eq {left right : Value σ}
    (notNumbers : ¬(left.isNumeric = true ∧ right.isNumeric = true)) :
    left.compare right = .eq ↔
      left.isNull = right.isNull ∧ Unicode.upper left.display = Unicode.upper right.display := by
  by_cases oneNull : left.isNull = true ∨ right.isNull = true
  · rcases compare_null oneNull with ⟨inOrder, -, shown⟩
    rw [inOrder, iff_self_and]
    intro alike
    rw [shown alike]
  · rw [not_or, Bool.not_eq_true, Bool.not_eq_true] at oneNull
    rw [(compare_texts oneNull.1 oneNull.2 notNumbers).1, compareTexts_eq_eq, oneNull.1, oneNull.2]
    exact (and_iff_right rfl).symm

theorem equals_eq_true {left right : Value σ}
    (notNumbers : ¬(left.isNumeric = true ∧ right.isNumeric = true)) :
    left.equals right = true ↔
      left.isNull = right.isNull ∧ Unicode.lower left.display = Unicode.lower right.display := by
  by_cases oneNull : left.isNull = true ∨ right.isNull = true
  · rcases compare_null oneNull with ⟨-, equal, shown⟩
    rw [equal, iff_self_and]
    intro alike
    rw [shown alike]
  · rw [not_or, Bool.not_eq_true, Bool.not_eq_true] at oneNull
    rw [(compare_texts oneNull.1 oneNull.2 notNumbers).2, Unicode.sameFolded_iff, oneNull.1,
      oneNull.2]
    exact (and_iff_right rfl).symm

/-- What order and equality of two values depend on that are not both numbers, and where they
agree. -/
theorem compare_equals {left right : Value σ}
    (notNumbers : ¬(left.isNumeric = true ∧ right.isNumeric = true)) :
    (left.compare right = .eq ↔
        left.isNull = right.isNull ∧ Unicode.upper left.display = Unicode.upper right.display) ∧
      (left.equals right = true ↔
        left.isNull = right.isNull ∧ Unicode.lower left.display = Unicode.lower right.display) ∧
      (Unicode.Reversible left.display → Unicode.Reversible right.display →
        (left.compare right = .eq ↔ left.equals right = true) ∧
          (Comparison.equal.holds left right = true ↔
            Comparison.atLeast.holds left right = true ∧
              Comparison.atMost.holds left right = true)) := by
  refine ⟨compare_eq_eq notNumbers, equals_eq_true notNumbers, ?_⟩
  intro leftReversible rightReversible
  have agree : left.compare right = .eq ↔ left.equals right = true := by
    rw [compare_eq_eq notNumbers, equals_eq_true notNumbers,
      leftReversible.upper_eq_iff rightReversible]
  refine ⟨agree, ?_⟩
  rw [Comparison.atLeast_and_atMost, Comparison.holds]
  exact agree.symm

theorem compare_equals_umlaut :
    ¬((ofText ['Ä', 'b'] : Value Empty).isNumeric = true ∧
        (ofText ['ä', 'B'] : Value Empty).isNumeric = true) ∧
      ((ofText ['Ä', 'b'] : Value Empty).compare (ofText ['ä', 'B']) = .eq ↔
        (ofText ['Ä', 'b'] : Value Empty).equals (ofText ['ä', 'B']) = true) := by
  have texts := not_isNumeric_ofText (σ := Empty) ['Ä', 'b'] ['ä', 'B']
  have left : Unicode.Reversible (ofText ['Ä', 'b'] : Value Empty).display := by
    rw [display_ofText]
    exact .of_all (by decide +kernel) (by simp)
  have right : Unicode.Reversible (ofText ['ä', 'B'] : Value Empty).display := by
    rw [display_ofText]
    exact .of_all (by decide +kernel) (by simp)
  exact ⟨texts, ((compare_equals texts).2.2 left right).1⟩

/-- The Kelvin sign has the lower case of a basic letter and another upper case, and the sharp s
has the upper case of two basic letters and another lower case. -/
theorem compare_equals_kelvin :
    ((ofText ['\u212a'] : Value Empty).equals (ofText ['k']) = true ∧
        (ofText ['\u212a'] : Value Empty).compare (ofText ['k']) ≠ .eq) ∧
      (ofText ['ß'] : Value Empty).equals (ofText ['S', 'S']) ≠ true ∧
        (ofText ['ß'] : Value Empty).compare (ofText ['S', 'S']) = .eq := by
  have texts := not_isNumeric_ofText (σ := Empty)
  simp only [ne_eq, compare_eq_eq (texts _ _), equals_eq_true (texts _ _), display_ofText]
  decide +kernel

end Value

end TextTemplate
