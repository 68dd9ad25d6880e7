import TextTemplate.Proofs.Numbers.Rounding

/-!
# The nearest number of 53 binary digits

A floating-point number has room for 53 binary digits, and an integer that has more of them is rounded
to the nearest one that does not, a half going to the even side (`Binary.nearest`). Rounding goes with
doubling (`Binary.nearestNat_mul_pow`), as the neighbours of a number are as much farther apart as the
number is larger, and it keeps the order (`Binary.nearest_mono`).
-/

namespace TextTemplate

namespace Decimal

variable {n m d : ℕ} {halfway : Halfway}

theorem divRound_cases (halfway : Halfway) (n d : ℕ) :
    (divRound halfway n d = n / d ∧ 2 * (n % d) ≤ d) ∨
      (divRound halfway n d = n / d + 1 ∧ d ≤ 2 * (n % d)) := by
  cases halfway with
  | awayFromZero =>
      simp only [divRound, decide_eq_true_eq]
      split <;> omega
  | toEven =>
      simp only [divRound, Bool.or_eq_true, Bool.and_eq_true, decide_eq_true_eq]
      split <;> omega

theorem divRound_mono (le : n ≤ m) : divRound halfway n d ≤ divRound halfway m d := by
  have left := divRound_cases halfway n d
  have right := divRound_cases halfway m d
  rcases (Nat.div_le_div_right (c := d) le).lt_or_eq with below | same
  · omega
  · -- With one quotient the rests are in the order of the numbers.
    have rests : n % d ≤ m % d := by
      have leftParted := Nat.div_add_mod n d
      have rightParted := Nat.div_add_mod m d
      rw [same] at leftParted
      omega
    cases halfway <;> simp only [divRound, same] <;> grind

theorem divRound_mul_mul {c : ℕ} (positive : 0 < c) :
    divRound halfway (n * c) (d * c) = divRound halfway n d := by
  have rest : 2 * (n * c % (d * c)) = 2 * (n % d) * c := by
    rw [Nat.mul_mod_mul_right, Nat.mul_assoc]
  unfold divRound
  rw [Nat.mul_div_mul_right n d positive, rest]
  simp [Nat.mul_lt_mul_right positive, Nat.mul_le_mul_right_iff positive, positive.ne']

/-- The rounded quotient is off by at most a half. -/
theorem divRound_error (halfway : Halfway) (positive : 0 < d) :
    2 * n ≤ 2 * (divRound halfway n d * d) + d ∧ 2 * (divRound halfway n d * d) ≤ 2 * n + d := by
  have parted := Nat.div_add_mod' n d
  have rest_lt := Nat.mod_lt n positive
  rcases divRound_cases halfway n d with ⟨down, rest⟩ | ⟨up, rest⟩
  · rw [down]
    omega
  · rw [up, Nat.add_mul, Nat.one_mul]
    omega

end Decimal

namespace Binary

open Decimal (divRound)

variable {n m : ℕ}

/-- The distance from a number to the next one of 53 binary digits. -/
def spacing (n : ℕ) : ℕ :=
  2 ^ (n.log2 - 52)

/-- The nearest natural number of 53 binary digits. -/
def nearestNat (n : ℕ) : ℕ :=
  divRound .toEven n (spacing n) * spacing n

/-- The nearest integer of 53 binary digits. -/
def nearest (n : ℤ) : ℤ :=
  n.sign * nearestNat n.natAbs

theorem spacing_pos (n : ℕ) : 0 < spacing n :=
  Nat.two_pow_pos _

theorem log2_mul_pow (nonzero : n ≠ 0) (j : ℕ) : (n * 2 ^ j).log2 = n.log2 + j := by
  rw [Nat.log2_eq_iff (Nat.mul_ne_zero nonzero (by positivity)), Nat.add_right_comm, Nat.pow_add,
    Nat.pow_add]
  constructor
  · exact Nat.mul_le_mul_right _ (Nat.log2_self_le nonzero)
  · exact Nat.mul_lt_mul_of_pos_right Nat.lt_log2_self (by positivity)

theorem nearestNat_of_dvd (whole : spacing n ∣ n) : nearestNat n = n := by
  have exact : divRound .toEven (n / spacing n * spacing n) (spacing n) = n / spacing n :=
    Decimal.divRound_mul .toEven (spacing_pos n) _
  rw [Nat.div_mul_cancel whole] at exact
  rw [nearestNat, exact, Nat.div_mul_cancel whole]

theorem nearestNat_of_log2_le (few : n.log2 ≤ 52) : nearestNat n = n := by
  apply nearestNat_of_dvd
  rw [spacing, Nat.sub_eq_zero_of_le few]
  exact one_dvd n

/-- Rounding goes with doubling. -/
theorem nearestNat_mul_pow (n j : ℕ) : nearestNat (n * 2 ^ j) = nearestNat n * 2 ^ j := by
  by_cases zero : n = 0
  · rcases zero with rfl
    simp [nearestNat_of_log2_le]
  · rcases le_total 52 n.log2 with many | few
    · have scaled : spacing (n * 2 ^ j) = spacing n * 2 ^ j := by
        rw [spacing, spacing, log2_mul_pow zero, ← Nat.pow_add]
        congr 1
        omega
      rw [nearestNat, scaled, Decimal.divRound_mul_mul (Nat.two_pow_pos j), ← Nat.mul_assoc,
        nearestNat]
    · rw [nearestNat_of_log2_le few]
      -- The neighbours of the multiple are at most `2 ^ j` apart.
      apply nearestNat_of_dvd
      rw [spacing, log2_mul_pow zero]
      exact Dvd.dvd.mul_left (Nat.pow_dvd_pow 2 (by omega)) n

theorem nearestNat_two_pow (j : ℕ) : nearestNat (2 ^ j) = 2 ^ j := by
  have one : nearestNat 1 = 1 := nearestNat_of_log2_le (by decide)
  simpa [one] using nearestNat_mul_pow 1 j

theorem nearestNat_of_le (few : n ≤ 2 ^ 53) : nearestNat n = n := by
  rcases few.lt_or_eq with below | rfl
  · apply nearestNat_of_log2_le
    by_cases zero : n = 0
    · rcases zero with rfl
      decide
    · exact Nat.le_of_lt_succ ((Nat.log2_lt zero).mpr below)
  · exact nearestNat_two_pow 53

/-! ## Order -/

theorem nearestNat_mono_of_log2_eq (same : n.log2 = m.log2) (le : n ≤ m) :
    nearestNat n ≤ nearestNat m := by
  have alike : spacing n = spacing m := by rw [spacing, same, spacing]
  rw [nearestNat, nearestNat, alike]
  exact Nat.mul_le_mul_right _ (Decimal.divRound_mono le)

theorem two_pow_le_nearestNat (nonzero : n ≠ 0) : 2 ^ n.log2 ≤ nearestNat n := by
  have power := nearestNat_mono_of_log2_eq Nat.log2_two_pow (Nat.log2_self_le nonzero)
  rwa [nearestNat_two_pow] at power

theorem two_pow_mul_spacing (many : 52 ≤ n.log2) : 2 ^ 52 * spacing n = 2 ^ n.log2 := by
  rw [spacing, ← Nat.pow_add, Nat.add_sub_cancel' many]

/-- The rounded quotient has 53 binary digits or is the first number that has more. -/
theorem divRound_spacing (many : 52 ≤ n.log2) :
    2 ^ 52 ≤ divRound .toEven n (spacing n) ∧ divRound .toEven n (spacing n) ≤ 2 ^ 53 := by
  have low : 2 ^ 52 * spacing n ≤ n := by
    rw [two_pow_mul_spacing many]
    apply Nat.log2_self_le
    rintro rfl
    contradiction
  have high : n ≤ 2 ^ 53 * spacing n := by
    have below := Nat.lt_log2_self (n := n)
    rw [Nat.pow_succ, ← two_pow_mul_spacing many] at below
    omega
  constructor
  · rw [← Decimal.divRound_mul .toEven (spacing_pos n) (2 ^ 52)]
    exact Decimal.divRound_mono low
  · rw [← Decimal.divRound_mul .toEven (spacing_pos n) (2 ^ 53)]
    exact Decimal.divRound_mono high

theorem nearestNat_le_two_pow (n : ℕ) : nearestNat n ≤ 2 ^ (n.log2 + 1) := by
  rcases le_total 52 n.log2 with many | few
  · have quotient := Nat.mul_le_mul_right (spacing n) (divRound_spacing many).2
    rw [Nat.pow_succ, ← two_pow_mul_spacing many, nearestNat]
    omega
  · rw [nearestNat_of_log2_le few]
    exact Nat.lt_log2_self.le

theorem nearestNat_mono (le : n ≤ m) : nearestNat n ≤ nearestNat m := by
  by_cases zero : n = 0
  · rcases zero with rfl
    simp [nearestNat_of_log2_le]
  · have nonzero : m ≠ 0 := by omega
    have digits : n.log2 ≤ m.log2 := by
      rw [Nat.le_log2 nonzero]
      exact (Nat.log2_self_le zero).trans le
    rcases digits.lt_or_eq with fewer | same
    · calc
        nearestNat n ≤ 2 ^ (n.log2 + 1) := nearestNat_le_two_pow n
        _ ≤ 2 ^ m.log2 := Nat.pow_le_pow_right (by decide) fewer
        _ ≤ nearestNat m := two_pow_le_nearestNat nonzero
    · exact nearestNat_mono_of_log2_eq same le

/-! ## Integers -/

@[simp]
theorem nearest_natCast (n : ℕ) : nearest n = nearestNat n := by
  rcases n.eq_zero_or_pos with rfl | positive
  · simp [nearest, nearestNat_of_log2_le]
  · rw [nearest, Int.sign_natCast_of_ne_zero positive.ne', Int.natAbs_natCast, one_mul]

@[simp]
theorem nearest_neg (n : ℤ) : nearest (-n) = -nearest n := by
  simp [nearest]

theorem natAbs_nearest (a : ℤ) : (nearest a).natAbs = nearestNat a.natAbs := by
  rcases Int.eq_nat_or_neg a with ⟨n, rfl | rfl⟩ <;> simp

theorem nearest_eq_zero {a : ℤ} : nearest a = 0 ↔ a = 0 := by
  rw [← Int.natAbs_eq_zero, natAbs_nearest, ← Int.natAbs_eq_zero (a := a)]
  constructor
  · contrapose!
    intro nonzero
    have power := two_pow_le_nearestNat nonzero
    have positive := Nat.two_pow_pos a.natAbs.log2
    omega
  · intro zero
    rw [zero]
    decide

theorem nearest_of_natAbs_le {n : ℤ} (few : n.natAbs ≤ 2 ^ 53) : nearest n = n := by
  rw [nearest, nearestNat_of_le few, Int.sign_mul_natAbs]

theorem nearest_mono {a b : ℤ} (le : a ≤ b) : nearest a ≤ nearest b := by
  rcases Int.eq_nat_or_neg a with ⟨n, rfl | rfl⟩ <;> rcases Int.eq_nat_or_neg b with ⟨m, rfl | rfl⟩
  · simpa using nearestNat_mono (by omega)
  · have zeros : n = 0 ∧ m = 0 := by omega
    rw [zeros.1, zeros.2]
    rfl
  · rw [nearest_neg, nearest_natCast, nearest_natCast]
    omega
  · have turned := nearestNat_mono (n := m) (m := n) (by omega)
    rw [nearest_neg, nearest_neg, nearest_natCast, nearest_natCast]
    omega

/-- Numbers of 64 bits are not moved far. -/
theorem nearest_error {n : ℤ} (small : n.natAbs ≤ 2 ^ 63) : |nearest n - n| ≤ 2 ^ 9 := by
  have natural : ∀ m : ℕ, m ≤ 2 ^ 63 → |(nearestNat m : ℤ) - m| ≤ 2 ^ 9 := by
    intro m le
    rcases le.lt_or_eq with below | rfl
    · have close : spacing m ≤ 2 ^ 10 := by
        have digits : m.log2 ≤ 62 := by
          by_cases zero : m = 0
          · rcases zero with rfl
            decide
          · exact Nat.le_of_lt_succ ((Nat.log2_lt zero).mpr below)
        exact Nat.pow_le_pow_right (by decide) (by omega)
      have error := Decimal.divRound_error (n := m) .toEven (spacing_pos m)
      rw [← nearestNat] at error
      rw [abs_le]
      omega
    · rw [nearestNat_two_pow, sub_self]
      decide
  rcases Int.eq_nat_or_neg n with ⟨m, rfl | rfl⟩
  · simpa using natural m (by omega)
  · have turned := natural m (by omega)
    rw [nearest_neg, nearest_natCast, ← neg_sub', abs_neg]
    exact turned

/-- Integers that have no more digits or are far apart stay different. -/
theorem eq_of_nearest_eq {a b : ℤ} (leftSmall : a.natAbs ≤ 2 ^ 63) (rightSmall : b.natAbs ≤ 2 ^ 63)
    (fewOrFar : a.natAbs ≤ 2 ^ 53 ∧ b.natAbs ≤ 2 ^ 53 ∨ 2 ^ 10 < |a - b|)
    (together : nearest a = nearest b) : a = b := by
  rcases fewOrFar with ⟨leftFew, rightFew⟩ | far
  · rwa [nearest_of_natAbs_le leftFew, nearest_of_natAbs_le rightFew] at together
  · have leftError := abs_le.mp (nearest_error leftSmall)
    have rightError := abs_le.mp (nearest_error rightSmall)
    rw [lt_abs] at far
    omega

end Binary

end TextTemplate
