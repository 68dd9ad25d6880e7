import TextTemplate.Proofs.Floats.Rounding

/-!
# Integers as floating-point numbers

An integer that is converted to a floating-point number becomes the nearest integer of 53 binary digits
(`Binary.isInt_ofInt`), and the conversion is the only loss: numbers that are integers are in their order
(`Binary.IsInt.lt_iff`) and differ by the rounded difference (`Binary.IsInt.sub`).
-/

namespace TextTemplate.Binary

open Float.Model Float.Model.UnpackedFloat

variable {n : ℕ} {x y : Float} {a b : ℤ}

/-- The floating-point number is the integer. -/
def IsInt (x : Float) (a : ℤ) : Prop :=
  Holds x.toModel.unpack a

/-- Rounding adds at most one digit. -/
theorem log2_nearest (short : a.natAbs.log2 < 1023) : (nearest a).natAbs.log2 < 1024 := by
  rw [natAbs_nearest]
  by_cases zero : nearestNat a.natAbs = 0
  · rw [zero]
    decide
  · rw [Nat.log2_lt zero]
    calc
      nearestNat a.natAbs ≤ 2 ^ (a.natAbs.log2 + 1) := nearestNat_le_two_pow a.natAbs
      _ < 2 ^ 1024 := Nat.pow_lt_pow_right (by decide) (by omega)

theorem log2_lt_of_lt (small : n < 2 ^ 128) : n.log2 < 1023 := by
  by_cases zero : n = 0
  · rw [zero]
    decide
  · have digits := (Nat.log2_lt zero).mpr small
    omega

theorem isInt_pack {unpacked : UnpackedFloat} (held : Holds unpacked a)
    (short : a.natAbs.log2 < 1024) : IsInt (.ofModel (Float.Model.pack unpacked)) a := by
  rw [IsInt, held.unpack_pack short]
  exact held

theorem lt_iff_compare (x y : Float) :
    x < y ↔ x.toModel.unpack.compare y.toModel.unpack = some .lt := by
  change decide ((x.toModel.unpack.compare y.toModel.unpack == some .lt) = true) = true ↔ _
  rw [decide_eq_true_iff, beq_iff_eq]

namespace IsInt

theorem lt_iff (left : IsInt x a) (right : IsInt y b) : x < y ↔ a < b := by
  rw [lt_iff_compare, Holds.compare left right, Option.some_inj, compare_lt_iff_lt]

theorem neg (held : IsInt x a) (short : a.natAbs.log2 < 1024) : IsInt (-x) (-a) := by
  apply isInt_pack (Holds.neg held)
  rwa [Int.natAbs_neg]

theorem abs (held : IsInt x a) (short : a.natAbs.log2 < 1024) : IsInt x.abs |a| := by
  apply isInt_pack (Holds.abs held)
  rwa [Int.natAbs_abs]

theorem sub (left : IsInt x a) (right : IsInt y b) (short : (a - b).natAbs.log2 < 1023) :
    IsInt (x - y) (nearest (a - b)) :=
  isInt_pack (Holds.sub left right) (log2_nearest short)

theorem mul (left : IsInt x a) (right : IsInt y b) (short : (a * b).natAbs.log2 < 1023) :
    IsInt (x * y) (nearest (a * b)) :=
  isInt_pack (Holds.mul left right) (log2_nearest short)

end IsInt

/-! ## Conversion -/

theorem isInt_one : IsInt (.ofBits 0x3FF0000000000000) 1 := by
  have unpacked : (Float.ofBits 0x3FF0000000000000).toModel.unpack =
      .finite .positive (2 ^ 52) (-52) (by decide) := rfl
  rw [IsInt, unpacked]
  exact .finite .positive _ Nat.log2_two_pow (by norm_num)

theorem isInt_toFloat (small : n < 2 ^ 64) (short : n.log2 < 1023) :
    IsInt n.toUInt64.toFloat (nearest n) := by
  have same : n.toUInt64.toNat = n := UInt64.toNat_ofNat_of_lt' small
  apply isInt_pack _ (log2_nearest (a := n) short)
  apply holds_normalize
  rw [same, zpow_zero, mul_one]

/-- A natural number becomes the nearest one of 53 binary digits. -/
theorem isInt_ofNat (short : n.log2 < 1023) : IsInt (Float.ofNat n) (nearest n) := by
  by_cases small : n < 2 ^ 53
  · have product : Float.ofNat n = n.toUInt64.toFloat * .ofBits 0x3FF0000000000000 :=
      dif_pos ⟨small, by decide⟩
    have factor : IsInt n.toUInt64.toFloat n := by
      have converted := isInt_toFloat (by omega) short
      rwa [nearest_of_natAbs_le (by rw [Int.natAbs_natCast]; exact small.le)] at converted
    have multiplied := factor.mul isInt_one (by rwa [mul_one])
    rwa [mul_one, ← product] at multiplied
  · have scientific : Float.ofNat n = .ofModel (Float.Model.ofScientific n 0) := by
      apply dif_neg
      intro both
      exact small both.1
    have nonzero : n ≠ 0 := by omega
    have scaled : UnpackedFloat.ofScientific .binary64 n 0 =
        roundWithAccuracy .binary64 .positive (n <<< 53 * 10 ^ 0) (-53 + 0) .exact := by
      rw [UnpackedFloat.ofScientific, dif_neg nonzero, if_neg (by decide), if_neg (by norm_num),
        if_pos le_rfl]
      rfl
    rw [scientific]
    apply isInt_pack _ (log2_nearest (a := n) short)
    rw [scaled, nearest_natCast]
    apply holds_roundWithAccuracy .positive
    · rw [Nat.shiftLeft_eq, pow_zero, mul_one, log2_mul_pow nonzero]
      omega
    · apply (scaled_iff (a := 0) (b := 53)).mpr
      rw [Nat.shiftLeft_eq, pow_zero, pow_zero, mul_one, mul_one]

theorem isInt_ofInt (short : a.natAbs.log2 < 1023) : IsInt (Float.ofInt a) (nearest a) := by
  cases a with
  | ofNat n => exact isInt_ofNat short
  | negSucc n =>
      have size : IsInt (Float.ofNat (n + 1)) (nearest (n + 1 : ℕ)) := isInt_ofNat short
      rw [Int.negSucc_eq, nearest_neg]
      exact size.neg (log2_nearest short)

end TextTemplate.Binary
