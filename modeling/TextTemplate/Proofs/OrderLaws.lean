import TextTemplate.Proofs.Comparison
import Mathlib.Data.Char

/-!
# The laws of order and equality

Order and equality of two values that are not both numbers go through keys. The key of the order is
the text in upper case, and null has none, which puts it below all texts (`Value.compare_eq_sortKey`);
texts are in the lexicographic order of their characters. Whatever values are compared, their order is
that of their keys and inherits its laws (`Value.order_laws`). Numbers fit in with other values one at a
time only: as texts `9` comes behind `10`.
-/

namespace TextTemplate.Value

variable {σ : Type}

theorem compare_toNat (c d : Char) : Ord.compare c d = Ord.compare c.toNat d.toNat := by
  rcases lt_trichotomy c d with below | rfl | above
  · have points : c.toNat < d.toNat := UInt32.lt_iff_toNat_lt.mp below
    rw [compare_lt_iff_lt.mpr below, compare_lt_iff_lt.mpr points]
  · rw [compare_eq_iff_eq.mpr rfl, compare_eq_iff_eq.mpr rfl]
  · have points : d.toNat < c.toNat := UInt32.lt_iff_toNat_lt.mp above
    rw [compare_gt_iff_gt.mpr above, compare_gt_iff_gt.mpr points]

/-- Texts are in the lexicographic order of their characters. -/
theorem compareTexts_eq_compare (left right : Text) :
    compareTexts left right = Ord.compare left right := by
  induction left generalizing right with
  | nil => cases right <;> rfl
  | cons c left ih =>
      cases right with
      | nil => rfl
      | cons d right =>
          rw [compareTexts, List.compare_cons_cons, compare_toNat, ih, Nat.compare_eq_ite_lt]
          split
          · rfl
          · split <;> rfl

/-- What values that are not both numbers are ordered by. -/
def sortKey (value : Value σ) : Option Text :=
  if value.isNull then none else some (Unicode.upper value.display)

theorem compare_eq_sortKey {left right : Value σ}
    (notNumbers : ¬(left.isNumeric = true ∧ right.isNumeric = true)) :
    left.compare right = Ord.compare left.sortKey right.sortKey := by
  cases leftNull : left.isNull with
  | true =>
      rcases isNull_eq_true.mp leftNull with rfl
      cases right <;> rfl
  | false =>
      cases rightNull : right.isNull with
      | true =>
          rcases isNull_eq_true.mp rightNull with rfl
          cases left <;> rfl
      | false =>
          have leftKey : left.sortKey = some (Unicode.upper left.display) := by
            simp [sortKey, leftNull]
          have rightKey : right.sortKey = some (Unicode.upper right.display) := by
            simp [sortKey, rightNull]
          rw [(compare_texts leftNull rightNull notNumbers).1, compareTexts_eq_compare, leftKey,
            rightKey]
          rfl

theorem equals_comm {left right : Value σ}
    (notNumbers : ¬(left.isNumeric = true ∧ right.isNumeric = true)) :
    right.equals left = left.equals right := by
  have turned : ¬(right.isNumeric = true ∧ left.isNumeric = true) := by
    rwa [and_comm]
  rw [Bool.eq_iff_iff, equals_eq_true notNumbers, equals_eq_true turned, eq_comm,
    @eq_comm _ (Unicode.lower right.display)]

/-- A value that is no number: null, a truth value, a text, a date, a collection, an object or a
function. -/
abbrev Unnumbered (σ : Type) : Type :=
  {value : Value σ // value.isNumeric = false}

theorem Unnumbered.notNumbers (left : Unnumbered σ) (right : Value σ) :
    ¬(left.1.isNumeric = true ∧ right.isNumeric = true) := by
  rintro ⟨number, -⟩
  rw [left.2] at number
  contradiction

/-- The order of values that are no numbers is a total preorder (turning the values round reverses the
answer, and the answers are transitive), in which null stands alone at the bottom, and their equality is
an equivalence. A number and a value of another kind can be turned round as well. -/
theorem order_laws :
    Std.TransCmp (fun left right : Unnumbered σ => left.1.compare right.1) ∧
      (∀ value : Value σ, value ≠ null → null.compare value = .lt ∧ value.compare null = .gt) ∧
      Equivalence (fun left right : Unnumbered σ => left.1.equals right.1 = true) ∧
      ∀ left right : Value σ, ¬(left.isNumeric = true ∧ right.isNumeric = true) →
        right.compare left = (left.compare right).swap ∧
          right.equals left = left.equals right := by
  have keyed : ∀ left right : Unnumbered σ,
      left.1.compare right.1 = Ord.compare left.1.sortKey right.1.sortKey := by
    intro left right
    exact compare_eq_sortKey (left.notNumbers right.1)
  have folded : ∀ left right : Unnumbered σ, left.1.equals right.1 = true ↔
      left.1.isNull = right.1.isNull ∧
        Unicode.lower left.1.display = Unicode.lower right.1.display := by
    intro left right
    exact equals_eq_true (left.notNumbers right.1)
  refine ⟨?_, ?_, ?_, ?_⟩
  · simp only [keyed]
    exact inferInstanceAs (Std.TransCmp (compareOn fun value : Unnumbered σ => value.1.sortKey))
  · intro value notNull
    cases value with
    | null => contradiction
    | _ => exact ⟨rfl, rfl⟩
  · simp only [folded]
    constructor
    · intro value
      exact ⟨rfl, rfl⟩
    · rintro left right ⟨nulls, texts⟩
      exact ⟨nulls.symm, texts.symm⟩
    · rintro left middle right ⟨nulls, texts⟩ ⟨laterNulls, laterTexts⟩
      exact ⟨nulls.trans laterNulls, texts.trans laterTexts⟩
  · intro left right notNumbers
    have turned : ¬(right.isNumeric = true ∧ left.isNumeric = true) := by
      rwa [and_comm]
    refine ⟨?_, equals_comm notNumbers⟩
    rw [compare_eq_sortKey notNumbers, compare_eq_sortKey turned]
    exact Std.OrientedCmp.eq_swap

/-- The number nine and the text that comes before it. -/
theorem order_laws_mixed :
    ¬((int 9 : Value Empty).isNumeric = true ∧ (ofText ['1', '0']).isNumeric (σ := Empty) = true) ∧
      (int 9 : Value Empty).compare (ofText ['1', '0']) = .gt ∧
      (ofText ['1', '0'] : Value Empty).compare (int 9) = .lt := by
  have notNumbers : ¬((int 9 : Value Empty).isNumeric = true ∧
      (ofText ['1', '0']).isNumeric (σ := Empty) = true) := by
    rintro ⟨-, number⟩
    contradiction
  have behind : (int 9 : Value Empty).compare (ofText ['1', '0']) = .gt := by
    decide +kernel
  refine ⟨notNumbers, behind, ?_⟩
  rw [(order_laws.2.2.2 _ _ notNumbers).1, behind]
  rfl

end TextTemplate.Value
