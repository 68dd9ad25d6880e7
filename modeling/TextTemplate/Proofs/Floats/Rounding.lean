import TextTemplate.Proofs.Floats.Integers

/-!
# Rounding to floating-point numbers

A result is rounded by shifting its mantissa to 53 binary digits; two bits behind the mantissa keep what
rounding has to know of the digits that fell off (`Binary.Shifted`). Rounding may make the mantissa too
long by one digit, which is a zero. So what comes out holds the nearest integer of 53 binary digits
(`Binary.holds_round`), also of a difference (`Binary.Holds.sub`) and a product (`Binary.Holds.mul`).
-/

namespace TextTemplate.Binary

open Decimal (divRound)
open Float.Model Float.Model.UnpackedFloat

variable {m n k : ℕ} {e : ℤ}

/-! ## Shifting -/

/-- A mantissa that was shifted by `k` digits: the first bit behind it says whether the rest is at least
a half, the other one whether it is neither nothing nor a half. -/
structure Shifted (shifted : ExtendedMantissa) (m k : ℕ) : Prop where
  mantissa : shifted.mantissa = m / 2 ^ k
  roundBit : shifted.roundBit = true ↔ 2 ^ k ≤ 2 * (m % 2 ^ k)
  stickyBit : shifted.stickyBit = true ↔ 2 * (m % 2 ^ k) ≠ 0 ∧ 2 * (m % 2 ^ k) ≠ 2 ^ k

theorem Shifted.shiftRightOne {shifted : ExtendedMantissa} (before : Shifted shifted m k) :
    Shifted shifted.shiftRightOne m (k + 1) := by
  have power : 2 ^ (k + 1) = 2 ^ k * 2 := Nat.pow_succ 2 k
  have rest : m % 2 ^ (k + 1) = m % 2 ^ k + 2 ^ k * (m / 2 ^ k % 2) := by rw [power, Nat.mod_mul]
  have rest_lt : m % 2 ^ k < 2 ^ k := Nat.mod_lt _ (Nat.two_pow_pos k)
  rcases before with ⟨mantissa, roundBit, stickyBit⟩
  constructor
  · rw [ExtendedMantissa.shiftRightOne, mantissa, power, Nat.div_div_eq_div_mul]
  · rw [ExtendedMantissa.shiftRightOne, mantissa, bne_iff_ne, rest, power]
    rcases Nat.mod_two_eq_zero_or_one (m / 2 ^ k) with even | odd
    · rw [even]
      omega
    · rw [odd]
      omega
  · rw [ExtendedMantissa.shiftRightOne, Bool.or_eq_true, roundBit, stickyBit, rest, power]
    rcases Nat.mod_two_eq_zero_or_one (m / 2 ^ k) with even | odd
    · rw [even]
      omega
    · rw [odd]
      omega

theorem shifted (m k : ℕ) : Shifted (ExtendedMantissa.ofMantissaAndAccuracy m .exact >>> k) m k := by
  induction k with
  | zero =>
      change Shifted (ExtendedMantissa.ofMantissaAndAccuracy m .exact) m 0
      constructor <;> simp [ExtendedMantissa.ofMantissaAndAccuracy, Nat.mod_one]
  | succ k ih => exact ih.shiftRightOne

theorem Shifted.roundedMantissa {shifted : ExtendedMantissa} (after : Shifted shifted m k) :
    shifted.roundedMantissa = divRound .toEven m (2 ^ k) := by
  rcases after with ⟨mantissa, roundBit, stickyBit⟩
  rcases shifted with ⟨below, round, sticky⟩
  simp only [divRound]
  cases round with
  | false =>
      cases sticky with
      | false =>
          change below = _
          grind
      | true =>
          change below = _
          grind
  | true =>
      cases sticky with
      | false =>
          change below + below % 2 = _
          grind
      | true =>
          change below + 1 = _
          grind

/-- The exponent with which a number that is not tiny has a mantissa of 53 digits. -/
theorem targetExponent_eq (normal : -1022 ≤ m.log2 + e) :
    Format.binary64.targetExponent (totalExponent m e) = m.log2 + e - 52 := by
  simp only [Format.targetExponent, totalExponent, Format.mantissaBits, Format.minExponent]
  omega

theorem shiftToTargetExponent_exact (many : 52 ≤ m.log2) (normal : -1022 ≤ m.log2 + e) :
    shiftToTargetExponent .binary64 m e .exact =
      (ExtendedMantissa.ofMantissaAndAccuracy m .exact >>> (m.log2 - 52), e + (m.log2 - 52 : ℕ)) := by
  have amount : (m.log2 + e - 52 - e).toNat = m.log2 - 52 := by omega
  rw [shiftToTargetExponent, shiftToExponent, targetExponent_eq normal, amount]

/-! ## Rounding -/

/-- A rounded mantissa that became too long is shifted once more, by a zero. -/
theorem mantissa_shiftToTargetExponent (low : 2 ^ 52 ≤ m) (high : m ≤ 2 ^ 53)
    (scaled : (m : ℚ) * 2 ^ e = n) :
    (shiftToTargetExponent .binary64 m e .exact).1.mantissa.log2 = 52 ∧
      ((shiftToTargetExponent .binary64 m e .exact).1.mantissa : ℚ) *
        2 ^ (shiftToTargetExponent .binary64 m e .exact).2 = n := by
  have positive : 0 < m := by omega
  have many : 52 ≤ m.log2 := (Nat.le_log2 positive.ne').mpr low
  have log := log2_of_scaled positive scaled
  rw [shiftToTargetExponent_exact many (by omega), (shifted m _).mantissa]
  rcases high.lt_or_eq with short | rfl
  · have digits : m.log2 = 52 := (Nat.log2_eq_iff positive.ne').mpr ⟨low, short⟩
    simpa [digits] using scaled
  · have digits : (2 ^ 53).log2 = 53 := Nat.log2_two_pow
    have half : (2 ^ 53 / 2 ^ (53 - 52) : ℕ) = 2 ^ 52 := by decide
    rw [digits, half]
    refine ⟨Nat.log2_two_pow, ?_⟩
    rw [← scaled, zpow_add₀ (by norm_num)]
    push_cast
    ring

theorem holds_roundWithAccuracy (s : Sign) (many : 52 ≤ m.log2) (scaled : (m : ℚ) * 2 ^ e = n) :
    Holds (roundWithAccuracy .binary64 s m e .exact) (s.apply (nearestNat n)) := by
  have positive : 0 < m := by
    apply Nat.pos_of_ne_zero
    rintro rfl
    contradiction
  have log := log2_of_scaled positive scaled
  have quotient :
      (divRound .toEven m (spacing m) : ℚ) * 2 ^ (e + (m.log2 - 52 : ℕ)) = nearestNat n := by
    rw [← nearestNat_of_scaled scaled, nearestNat, zpow_add₀ (by norm_num), zpow_natCast, spacing]
    push_cast
    ring
  rcases divRound_spacing many with ⟨low, high⟩
  rcases mantissa_shiftToTargetExponent low high quotient with ⟨digits, rounded⟩
  rw [roundWithAccuracy, shiftToTargetExponent_exact many (by omega)]
  dsimp only
  rw [(shifted m _).roundedMantissa, ← spacing, dif_neg]
  · exact .finite s _ digits rounded
  · intro zero
    rw [zero] at digits
    contradiction

theorem scaled_decreaseExponent (scaled : (m : ℚ) * 2 ^ e = n) (target : ℤ) :
    ((decreaseExponent m e target).1 : ℚ) * 2 ^ (decreaseExponent m e target).2 = n := by
  simp only [decreaseExponent, Nat.shiftLeft_eq]
  rw [← scaled, zpow_sub₀ (by norm_num), zpow_natCast]
  push_cast
  field_simp

/-- Two mantissas are added at the smaller exponent. -/
theorem scaled_of_le (scaled : (m : ℚ) * 2 ^ e = n) {target : ℤ} (le : target ≤ e) :
    ((decreaseExponent m e target).1 : ℚ) * 2 ^ target = n := by
  have reached : (decreaseExponent m e target).2 = target := by
    simp only [decreaseExponent]
    omega
  have decreased := scaled_decreaseExponent scaled target
  rwa [reached] at decreased

theorem holds_round (s : Sign) (positive : 0 < m) (scaled : (m : ℚ) * 2 ^ e = n) :
    Holds (UnpackedFloat.round .binary64 s m e) (s.apply (nearestNat n)) := by
  have log := log2_of_scaled positive scaled
  have target := targetExponent_eq (m := m) (e := e) (by omega)
  apply holds_roundWithAccuracy
  · -- A mantissa that is too short is filled up with zeros.
    simp only [target, Nat.shiftLeft_eq, log2_mul_pow positive.ne']
    omega
  · exact scaled_decreaseExponent scaled _

theorem holds_normalize (sign : Sign) {a b : ℤ} (scaled : (a : ℚ) * 2 ^ e = b) :
    Holds (UnpackedFloat.normalize .binary64 a e sign) (nearest b) := by
  have power : (0 : ℚ) < 2 ^ e := by positivity
  rcases lt_trichotomy a 0 with negative | rfl | positive
  · have size_neg : b < 0 := by
      rw [← Int.cast_lt_zero (R := ℚ), ← scaled]
      exact mul_neg_of_neg_of_pos (Int.cast_lt_zero.mpr negative) power
    obtain ⟨m, rfl⟩ : ∃ m : ℕ, a = -m := ⟨a.natAbs, by omega⟩
    obtain ⟨n, rfl⟩ : ∃ n : ℕ, b = -n := ⟨b.natAbs, by omega⟩
    rw [UnpackedFloat.normalize, compare_lt_iff_lt.mpr negative, nearest_neg, nearest_natCast]
    push_cast at scaled
    rw [neg_mul, neg_inj] at scaled
    exact holds_round .negative (by omega) (by simpa using scaled)
  · have nought : b = 0 := by
      rw [← Int.cast_eq_zero (α := ℚ), ← scaled, Int.cast_zero, zero_mul]
    rw [nought]
    exact .zero sign
  · have size_pos : 0 < b := by
      rw [← Int.cast_pos (R := ℚ), ← scaled]
      exact mul_pos (Int.cast_pos.mpr positive) power
    lift a to ℕ using positive.le with m
    lift b to ℕ using size_pos.le with n
    rw [UnpackedFloat.normalize, compare_gt_iff_gt.mpr positive, nearest_natCast]
    exact holds_round .positive (by omega) (by exact_mod_cast scaled)

theorem nearest_apply (s : Sign) (a : ℤ) : nearest (s.apply a) = s.apply (nearest a) := by
  cases s with
  | positive => rfl
  | negative => exact nearest_neg a

theorem apply_mul (s t : Sign) (a b : ℤ) : (s * t).apply (a * b) = s.apply a * t.apply b := by
  cases s with
  | positive =>
      cases t with
      | positive => rfl
      | negative => exact (mul_neg a b).symm
  | negative =>
      cases t with
      | positive => exact (neg_mul a b).symm
      | negative => exact (neg_mul_neg a b).symm

theorem scaled_apply (s : Sign) (scaled : (m : ℚ) * 2 ^ e = n) :
    ((s.apply m : ℤ) : ℚ) * 2 ^ e = (s.apply n : ℤ) := by
  cases s with
  | positive => exact_mod_cast scaled
  | negative =>
      rw [apply_negative, apply_negative, Int.cast_neg, Int.cast_neg, neg_mul]
      exact_mod_cast congrArg Neg.neg scaled

namespace Holds

variable {x y : UnpackedFloat} {a b : ℤ}

/-- A number that is held has 53 binary digits. -/
theorem nearest_eq (held : Holds x a) : nearest a = a := by
  cases held with
  | zero => rfl
  | @finite s m e positive size digits scaled =>
      have whole := nearestNat_of_scaled scaled
      rw [nearestNat_of_log2_le digits.le, scaled, Nat.cast_inj] at whole
      rw [nearest_apply, nearest_natCast, ← whole]

theorem sub (left : Holds x a) (right : Holds y b) :
    Holds (x.sub .binary64 y) (nearest (a - b)) := by
  cases left with
  | zero s =>
      cases right with
      | zero t => cases s <;> cases t <;> exact zero _
      | finite t positive digits scaled =>
          have turned := (finite t positive digits scaled).neg
          rw [zero_sub, turned.nearest_eq]
          exact turned
  | @finite s m d leftPos n leftDigits leftScaled =>
      have held := finite s leftPos leftDigits leftScaled
      cases right with
      | zero t =>
          rw [sub_zero, held.nearest_eq]
          exact held
      | @finite t p e rightPos q rightDigits rightScaled =>
          have aligned := scaled_apply s (scaled_of_le leftScaled (min_le_left d e))
          have rightAligned := scaled_apply t (scaled_of_le rightScaled (min_le_right d e))
          apply holds_normalize
          rw [Int.cast_sub, sub_mul, Int.cast_sub]
          exact congrArg₂ (· - ·) aligned rightAligned

theorem mul (left : Holds x a) (right : Holds y b) :
    Holds (x.mul .binary64 y) (nearest (a * b)) := by
  cases left with
  | zero s =>
      rw [zero_mul]
      cases right with
      | zero t => exact zero _
      | finite t positive digits scaled => exact zero _
  | @finite s m d leftPos n leftDigits leftScaled =>
      cases right with
      | zero t =>
          rw [mul_zero]
          exact zero _
      | @finite t p e rightPos q rightDigits rightScaled =>
          have product : ((m * p : ℕ) : ℚ) * 2 ^ (d + e) = (n * q : ℕ) := by
            rw [zpow_add₀ (by norm_num)]
            push_cast
            rw [← leftScaled, ← rightScaled]
            ring
          have many : 52 ≤ (m * p).log2 := by
            have mantissa := (Nat.le_log2 leftPos.ne').mp leftDigits.ge
            rw [Nat.le_log2 (Nat.mul_ne_zero leftPos.ne' rightPos.ne')]
            exact mantissa.trans (Nat.le_mul_of_pos_right m rightPos)
          have signs : nearest (s.apply n * t.apply q) = (s * t).apply (nearestNat (n * q)) := by
            rw [← apply_mul, nearest_apply, ← Nat.cast_mul, nearest_natCast]
          rw [signs]
          exact holds_roundWithAccuracy (s * t) many product

end Holds

end TextTemplate.Binary
