import Mathlib
import TextTemplate.Proofs.Floats.Nearest

/-!
# Floating-point numbers that are integers

A floating-point number is a sign, a mantissa of 53 binary digits and an exponent, and it holds an
integer if the mantissa times the power of two is the size of the integer (`Binary.Holds`). Numbers that
are held are compared as the integers (`Binary.Holds.compare`), and packing a number into 64 bits keeps
it unless the integer is astronomical (`Binary.Holds.unpack_pack`).
-/

namespace TextTemplate.Binary

open Float.Model Float.Model.UnpackedFloat

variable {m n p q : ℕ} {e : ℤ}

/-! ## Mantissa and exponent -/

theorem scaled_iff {a b : ℕ} : (m : ℚ) * 2 ^ (a - b : ℤ) = n ↔ m * 2 ^ a = n * 2 ^ b := by
  rw [zpow_sub₀ (by norm_num), zpow_natCast, zpow_natCast, ← mul_div_assoc,
    div_eq_iff (by positivity)]
  norm_cast

theorem pos_of_scaled (positive : 0 < m) (scaled : (m : ℚ) * 2 ^ e = n) : 0 < n := by
  have size_pos : (0 : ℚ) < n := by
    rw [← scaled]
    positivity
  exact_mod_cast size_pos

theorem log2_of_scaled (positive : 0 < m) (scaled : (m : ℚ) * 2 ^ e = n) :
    (n.log2 : ℤ) = m.log2 + e := by
  have nonzero := (pos_of_scaled positive scaled).ne'
  rw [← Int.toNat_sub_toNat_neg e, scaled_iff] at scaled
  have digits := congrArg Nat.log2 scaled
  rw [log2_mul_pow positive.ne', log2_mul_pow nonzero] at digits
  omega

theorem nearestNat_of_scaled (scaled : (m : ℚ) * 2 ^ e = n) :
    (nearestNat m : ℚ) * 2 ^ e = nearestNat n := by
  rw [← Int.toNat_sub_toNat_neg e, scaled_iff] at scaled ⊢
  rw [← nearestNat_mul_pow, scaled, nearestNat_mul_pow]

/-- A floating-point number holds an integer. -/
inductive Holds : UnpackedFloat → ℤ → Prop where
  | zero (sign : Sign) : Holds (.zero sign) 0
  | finite (sign : Sign) {mantissa : ℕ} {exponent : ℤ} (positive : 0 < mantissa) {size : ℕ}
      (digits : mantissa.log2 = 52) (scaled : (mantissa : ℚ) * 2 ^ exponent = size) :
      Holds (.finite sign mantissa exponent positive) (sign.apply size)

/-! ## Order -/

theorem scaled_lt_iff (left : (m : ℚ) * 2 ^ e = n) (right : (p : ℚ) * 2 ^ e = q) :
    m < p ↔ n < q := by
  have power : (0 : ℚ) < 2 ^ e := by positivity
  rw [← Nat.cast_lt (α := ℚ), ← mul_lt_mul_iff_left₀ power, left, right, Nat.cast_lt]

theorem lt_of_log2_lt (fewer : n.log2 < p.log2) : n < p := by
  have nonzero : p ≠ 0 := by
    rintro rfl
    exact absurd fewer (by simp)
  calc
    n < 2 ^ (n.log2 + 1) := Nat.lt_log2_self
    _ ≤ 2 ^ p.log2 := Nat.pow_le_pow_right (by decide) fewer
    _ ≤ p := Nat.log2_self_le nonzero

/-- Of mantissas with as many digits, the exponent decides first. -/
theorem compare_of_scaled {d : ℤ} (leftPos : 0 < m) (rightPos : 0 < p) (same : m.log2 = p.log2)
    (left : (m : ℚ) * 2 ^ e = n) (right : (p : ℚ) * 2 ^ d = q) :
    (compare e d).then (compare m p) = compare n q := by
  have leftLog := log2_of_scaled leftPos left
  have rightLog := log2_of_scaled rightPos right
  rcases lt_trichotomy e d with below | rfl | above
  · have less : n < q := lt_of_log2_lt (by omega)
    rw [compare_lt_iff_lt.mpr below, compare_lt_iff_lt.mpr less]
    rfl
  · rw [compare_eq_iff_eq.mpr rfl, Nat.compare_eq_ite_lt, Nat.compare_eq_ite_lt]
    simp only [scaled_lt_iff left right, scaled_lt_iff right left]
    rfl
  · have greater : q < n := lt_of_log2_lt (by omega)
    rw [compare_gt_iff_gt.mpr above, compare_gt_iff_gt.mpr greater]
    rfl

theorem compare_natCast (n q : ℕ) : compare (n : ℤ) q = compare n q := by
  rw [← cmp_eq_compare, ← cmp_eq_compare, Nat.strictMono_cast.cmp_map_eq]

theorem compare_neg (a b : ℤ) : compare (-a) (-b) = (compare a b).swap := by
  rw [← cmp_eq_compare, ← cmp_eq_compare, cmp_swap]
  exact StrictAnti.cmp_map_eq (fun _ _ less => Int.neg_lt_neg less) a b

@[simp]
theorem apply_positive (a : ℤ) : Sign.positive.apply a = a :=
  rfl

@[simp]
theorem apply_negative (a : ℤ) : Sign.negative.apply a = -a :=
  rfl

namespace Holds

variable {x y : UnpackedFloat} {a b : ℤ}

/-- The order of the numbers is that of the integers. -/
theorem compare (left : Holds x a) (right : Holds y b) :
    x.compare y = some (Ord.compare a b) := by
  cases left with
  | zero s =>
      cases right with
      | zero t => rfl
      | finite t positive digits scaled =>
          have size_pos := pos_of_scaled positive scaled
          cases t with
          | positive =>
              rw [compare_lt_iff_lt.mpr (by simpa using size_pos)]
              rfl
          | negative =>
              rw [compare_gt_iff_gt.mpr (by simpa using size_pos)]
              rfl
  | @finite s _ _ leftPos n leftDigits leftScaled =>
      have leftSize := pos_of_scaled leftPos leftScaled
      cases right with
      | zero t =>
          cases s with
          | positive =>
              rw [compare_gt_iff_gt.mpr (by simpa using leftSize)]
              rfl
          | negative =>
              rw [compare_lt_iff_lt.mpr (by simpa using leftSize)]
              rfl
      | @finite t _ _ rightPos q rightDigits rightScaled =>
          have rightSize := pos_of_scaled rightPos rightScaled
          have sizes := compare_of_scaled leftPos rightPos (leftDigits.trans rightDigits.symm)
            leftScaled rightScaled
          rw [← compare_natCast n q] at sizes
          cases s with
          | positive =>
              cases t with
              | positive => exact congrArg some sizes
              | negative =>
                  rw [compare_gt_iff_gt.mpr (by simp; omega)]
                  rfl
          | negative =>
              cases t with
              | positive =>
                  rw [compare_lt_iff_lt.mpr (by simp; omega)]
                  rfl
              | negative =>
                  rw [apply_negative, apply_negative, compare_neg, ← sizes]
                  rfl

theorem neg (held : Holds x a) : Holds x.neg (-a) := by
  cases held with
  | zero s => exact zero (-s)
  | finite s positive digits scaled =>
      cases s with
      | positive => exact finite .negative positive digits scaled
      | negative =>
          rw [apply_negative, neg_neg]
          exact finite .positive positive digits scaled

theorem abs (held : Holds x a) : Holds x.abs |a| := by
  cases held with
  | zero s => exact zero .positive
  | @finite s _ _ positive size digits scaled =>
      have sized : |s.apply size| = size := by cases s <;> simp
      rw [sized]
      exact finite .positive positive digits scaled

/-! ## Packing -/

theorem toNat_append_ofNat (digits : m.log2 = 52) : (1#1 ++ BitVec.ofNat 52 m).toNat = m := by
  have nonzero : m ≠ 0 := by
    rintro rfl
    contradiction
  have bounds := (Nat.log2_eq_iff nonzero).mp digits
  rw [BitVec.toNat_append, ← Nat.shiftLeft_add_eq_or_of_lt (BitVec.isLt _)]
  simp only [BitVec.toNat_ofNat, Nat.shiftLeft_eq]
  omega

/-- Packing keeps an integer that is not longer than the largest floating-point number. -/
theorem unpack_pack (held : Holds x a) (short : a.natAbs.log2 < 1024) :
    (Float.Model.pack x).unpack = x := by
  cases held with
  | zero s => cases s <;> rfl
  | @finite s m e positive size digits scaled =>
      have log := log2_of_scaled positive scaled
      have sized : (s.apply size).natAbs = size := by cases s <;> simp
      rw [sized] at short
      rw [digits] at log
      have room : ¬2 ^ 11 ≤ (e + 1023 + 52).toNat + 1 := by omega
      have exponent : (BitVec.ofNat 11 (e + 1023 + 52).toNat).toNat = (e + 1023 + 52).toNat := by
        rw [BitVec.toNat_ofNat, Nat.mod_eq_of_lt (by omega)]
      have packed : UnpackedFloat.pack .binary64 (.finite s m e positive) =
          packComponents .binary64 s (.ofNat 11 (e + 1023 + 52).toNat) (.ofNat 52 m) := by
        exact (if_neg room).trans (if_pos (by rw [digits]; rfl))
      -- The exponents of nothing but ones and of nothing but zeros stand for other numbers.
      have ones : (-1#11).toNat = 2047 := rfl
      have zeros : (0#11).toNat = 0 := rfl
      have notOnes : BitVec.ofNat 11 (e + 1023 + 52).toNat ≠ -1#11 := by
        intro special
        rw [special, ones] at exponent
        omega
      have notZeros : BitVec.ofNat 11 (e + 1023 + 52).toNat ≠ 0#11 := by
        intro special
        rw [special, zeros] at exponent
        omega
      change UnpackedFloat.unpack .binary64 (UnpackedFloat.pack .binary64 _) = _
      rw [packed]
      simp only [UnpackedFloat.unpack, unpackMantissa_packComponents, unpackExponent_packComponents,
        unpackSign_packComponents, Sign.ofBitVec_toBitVec, notOnes, notZeros, if_false, exponent,
        toNat_append_ofNat digits]
      congr 1
      simp [Format.exponentBias]
      omega

end Holds

end TextTemplate.Binary
