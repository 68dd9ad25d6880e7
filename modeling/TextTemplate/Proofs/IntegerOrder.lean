import TextTemplate.Condition
import TextTemplate.Proofs.Floats.Conversion

/-!
# The order of integers

Integers are compared as floating-point numbers, which have 53 binary digits. The conversion is all that
is lost: two integers are compared exactly as the nearest integers of that many digits
(`Value.compare_ints`). The difference of two of these is a whole number, so that the tolerance of the
equality separates what is not equal (`Value.lt_tolerance`).
-/

namespace TextTemplate

open Binary
open Float.Model (UnpackedFloat)

namespace Comparison

/-- What the operator says of two integers. -/
def decides (operator : Comparison) (a b : ℤ) : Bool :=
  match operator with
  | .atLeast => b ≤ a
  | .atMost => a ≤ b
  | .above => b < a
  | .below => a < b
  | .equal => a = b
  | .unequal => a ≠ b

end Comparison

namespace Value

variable {σ : Type} {left right : Value σ} {x y : Float} {a b : ℤ}

/-- Order, equality and conditions treat two values as two integers. -/
structure ComparedAs (left right : Value σ) (a b : ℤ) : Prop where
  order : left.compare right = Ord.compare a b
  equality : left.equals right = true ↔ a = b
  conditions : ∀ operator : Comparison, operator.holds left right = operator.decides a b

theorem comparedAs (order : left.compare right = Ord.compare a b)
    (equality : left.equals right = true ↔ a = b) : ComparedAs left right a b := by
  refine ⟨order, equality, ?_⟩
  intro operator
  rw [Bool.eq_iff_iff]
  cases operator with
  | atLeast => simp [Comparison.holds, Comparison.decides, order, compare_ge_iff_ge]
  | atMost => simp [Comparison.holds, Comparison.decides, order, compare_le_iff_le]
  | above => simp [Comparison.holds, Comparison.decides, order, compare_gt_iff_gt]
  | below => simp [Comparison.holds, Comparison.decides, order, compare_lt_iff_lt]
  | equal => simp [Comparison.holds, Comparison.decides, equality]
  | unequal => simp [Comparison.holds, Comparison.decides, ← equality]

theorem compareFloats_eq (left : IsInt x a) (right : IsInt y b) :
    compareFloats x y = Ord.compare a b := by
  rw [compareFloats, Int.compare_eq_ite_lt]
  simp only [left.lt_iff right, right.lt_iff left]

/-- Of the integers that are not negative only nought is below the tolerance. -/
theorem lt_tolerance (held : IsInt x a) (nonneg : 0 ≤ a) : x < tolerance ↔ a = 0 := by
  have unpacked : tolerance.toModel.unpack = .finite .positive 7737125245533627 (-86) (by decide) :=
    rfl
  rw [lt_iff_compare, unpacked]
  unfold IsInt at held
  generalize x.toModel.unpack = number at held
  cases held with
  | zero s => exact iff_of_true rfl rfl
  | @finite s m e positive n digits scaled =>
      have size_pos := pos_of_scaled positive scaled
      have log := log2_of_scaled positive scaled
      cases s with
      | positive =>
          have larger : Ord.compare e (-86) = .gt := compare_gt_iff_gt.mpr (by omega)
          simp [UnpackedFloat.compare, larger, size_pos.ne']
      | negative =>
          rw [apply_negative] at nonneg
          omega

theorem equalFloats_iff (left : IsInt x a) (right : IsInt y b) (short : (a - b).natAbs.log2 < 1023) :
    (x - y).abs < tolerance ↔ a = b := by
  have distance := (left.sub right short).abs (log2_nearest short)
  rw [lt_tolerance distance (abs_nonneg _), abs_eq_zero, nearest_eq_zero, sub_eq_zero]

theorem natAbs_toInt_le (n : Int64) : n.toInt.natAbs ≤ 2 ^ 63 := by
  have low := n.le_toInt
  have high := n.toInt_lt
  omega

theorem comparedAs_nearest (left right : Int64) :
    ComparedAs (int left : Value σ) (int right) (nearest left.toInt) (nearest right.toInt) := by
  have leftSmall := natAbs_toInt_le left
  have rightSmall := natAbs_toInt_le right
  have leftError := abs_le.mp (nearest_error leftSmall)
  have rightError := abs_le.mp (nearest_error rightSmall)
  have leftFloat : IsInt (Float.ofInt left.toInt) (nearest left.toInt) :=
    isInt_ofInt (log2_lt_of_lt (by omega))
  have rightFloat : IsInt (Float.ofInt right.toInt) (nearest right.toInt) :=
    isInt_ofInt (log2_lt_of_lt (by omega))
  apply comparedAs
  · exact compareFloats_eq leftFloat rightFloat
  · change decide _ = true ↔ _
    rw [decide_eq_true_iff]
    exact equalFloats_iff leftFloat rightFloat (log2_lt_of_lt (by omega))

/-- Where rounding keeps two integers apart, it keeps their order. -/
theorem ComparedAs.of_nearest_ne (compared : ComparedAs left right (nearest a) (nearest b))
    (apart : nearest a ≠ nearest b) : ComparedAs left right a b := by
  have different : a ≠ b := by
    rintro rfl
    exact apart rfl
  apply comparedAs
  · rw [compared.order]
    rcases different.lt_or_gt with below | above
    · have kept := (nearest_mono below.le).lt_of_ne apart
      rw [compare_lt_iff_lt.mpr below, compare_lt_iff_lt.mpr kept]
    · have kept := (nearest_mono above.le).lt_of_ne apart.symm
      rw [compare_gt_iff_gt.mpr above, compare_gt_iff_gt.mpr kept]
  · rw [compared.equality]
    exact iff_of_false apart different

/-- Integers are compared as the nearest integers of 53 binary digits: exactly if they are equal or have
different ones, never the wrong way round, and exactly in particular if they have no more digits or are
far apart. -/
theorem compare_ints (left right : Int64) :
    ComparedAs (int left : Value σ) (int right) (nearest left.toInt) (nearest right.toInt) ∧
      (ComparedAs (int left : Value σ) (int right) left.toInt right.toInt ↔
        left = right ∨ nearest left.toInt ≠ nearest right.toInt) ∧
      (left.toInt ≤ right.toInt → (int left : Value σ).compare (int right) ≠ .gt) ∧
      (left.toInt.natAbs ≤ 2 ^ 53 ∧ right.toInt.natAbs ≤ 2 ^ 53 ∨
          2 ^ 10 < |left.toInt - right.toInt| →
        ComparedAs (int left : Value σ) (int right) left.toInt right.toInt) := by
  have compared := comparedAs_nearest (σ := σ) left right
  have exactly : left = right ∨ nearest left.toInt ≠ nearest right.toInt →
      ComparedAs (int left : Value σ) (int right) left.toInt right.toInt := by
    rintro (rfl | apart)
    · apply comparedAs
      · rw [compared.order, compare_eq_iff_eq.mpr rfl, compare_eq_iff_eq.mpr rfl]
      · rw [compared.equality]
        exact iff_of_true rfl rfl
    · exact compared.of_nearest_ne apart
  refine ⟨compared, ⟨?_, exactly⟩, ?_, ?_⟩
  · intro asIntegers
    rw [or_iff_not_imp_right, not_not]
    intro together
    have equal := asIntegers.equality.mp (compared.equality.mpr together)
    exact Int64.toInt_inj.mp equal
  · intro le
    rw [compared.order, compare_le_iff_le]
    exact nearest_mono le
  · intro fewOrFar
    apply exactly
    rw [or_iff_not_imp_right, not_not]
    intro together
    apply Int64.toInt_inj.mp
    exact eq_of_nearest_eq (natAbs_toInt_le left) (natAbs_toInt_le right) fewOrFar together

/-- The smallest and the largest integer are compared exactly, and so are the last two before one that
is too long. -/
theorem compare_ints_extremes :
    (2 ^ 10 < |Int64.minValue.toInt - Int64.maxValue.toInt| ∧
        ComparedAs (int .minValue : Value Empty) (int .maxValue) Int64.minValue.toInt
          Int64.maxValue.toInt) ∧
      ((9007199254740991 : Int64).toInt.natAbs ≤ 2 ^ 53 ∧
          (9007199254740992 : Int64).toInt.natAbs ≤ 2 ^ 53) ∧
        ComparedAs (int 9007199254740991 : Value Empty) (int 9007199254740992) 9007199254740991
          9007199254740992 := by
  have far : 2 ^ 10 < |Int64.minValue.toInt - Int64.maxValue.toInt| := by decide
  have few : (9007199254740991 : Int64).toInt.natAbs ≤ 2 ^ 53 ∧
      (9007199254740992 : Int64).toInt.natAbs ≤ 2 ^ 53 := by decide
  have extremes := compare_ints (σ := Empty) .minValue .maxValue
  have neighbours := compare_ints (σ := Empty) 9007199254740991 9007199254740992
  exact ⟨⟨far, extremes.2.2.2 (.inr far)⟩, few, neighbours.2.2.2 (.inl few)⟩

/-- The first integer that has too many digits is taken for the one before it. -/
theorem compare_ints_too_long :
    (int 9007199254740993 : Value Empty).compare (int 9007199254740992) = .eq ∧
      (int 9007199254740993 : Value Empty).equals (int 9007199254740992) = true ∧
      Comparison.equal.holds (int 9007199254740993 : Value Empty) (int 9007199254740992) = true ∧
      Comparison.above.holds (int 9007199254740993 : Value Empty) (int 9007199254740992) = false ∧
      ¬ComparedAs (int 9007199254740993 : Value Empty) (int 9007199254740992)
        (9007199254740993 : Int64).toInt (9007199254740992 : Int64).toInt := by
  have order : (int 9007199254740993 : Value Empty).compare (int 9007199254740992) = .eq := by
    decide +kernel
  refine ⟨order, by decide +kernel, by decide +kernel, by decide +kernel, ?_⟩
  intro compared
  rw [compared.order] at order
  contradiction

end Value

end TextTemplate
