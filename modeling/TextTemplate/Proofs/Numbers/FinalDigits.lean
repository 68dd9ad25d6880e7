import Mathlib.Algebra.Order.Ring.Nat
import Mathlib.Tactic.Ring
import TextTemplate.Number.Decimal
import TextTemplate.Proofs.Digits

/-!
# Final digits of a number

A fraction shows a fixed number of digits, zeros included, so its digits are the final ones of the
number that is counted in units of the last place. They are defined digit by digit here, which makes
them easy to cut and to extend; `replicate_append_ofNat` says that filling up with zeros on the left
produces the same text.
-/

namespace TextTemplate.Digits

/-- The last `width` digits of a number, zeros where it has fewer. -/
def final : Nat → Nat → Text
  | 0, _ => []
  | width + 1, n => final width (n / 10) ++ [Nat.digitChar (n % 10)]

@[simp]
theorem length_final (width n : Nat) : (final width n).length = width := by
  induction width generalizing n with
  | zero => simp [final]
  | succ width ih => simp [final, ih]

theorem isDigit_of_mem_final {width n : Nat} {c : Char} (inside : c ∈ final width n) :
    c.isDigit = true := by
  induction width generalizing n with
  | zero => simp [final] at inside
  | succ width ih =>
      simp only [final, List.mem_append, List.mem_singleton] at inside
      rcases inside with before | rfl
      · exact ih before
      · simp [Nat.isDigit_digitChar, Nat.mod_lt]

theorem ofDigitChars_final (width n : Nat) :
    Nat.ofDigitChars 10 (final width n) 0 = n % 10 ^ width := by
  induction width generalizing n with
  | zero => simp [final, Nat.mod_one]
  | succ width ih =>
      have digit : n % 10 < 10 := by omega
      simp only [final, Nat.ofDigitChars_append, ih]
      rw [Nat.ofDigitChars_cons_digitChar_of_lt_ten digit, Nat.ofDigitChars_nil,
        Nat.pow_succ', Nat.mod_mul]
      omega

/-- Digits before the final ones do not show. -/
theorem final_mod (width n : Nat) : final width (n % 10 ^ width) = final width n := by
  induction width generalizing n with
  | zero => simp [final]
  | succ width ih =>
      have front : n % 10 ^ (width + 1) / 10 = n / 10 % 10 ^ width := by
        rw [Nat.pow_succ', Nat.mod_mul]
        omega
      have last : n % 10 ^ (width + 1) % 10 = n % 10 := by
        apply Nat.mod_mod_of_dvd
        exact Dvd.intro_left (10 ^ width) rfl
      simp only [final, front, last, ih]

/-- Zeros behind the final digits belong to a larger number. -/
theorem final_append_zeros (width n zeros : Nat) :
    final width n ++ List.replicate zeros '0' = final (width + zeros) (n * 10 ^ zeros) := by
  induction zeros with
  | zero => simp
  | succ zeros ih =>
      have tenfold : n * 10 ^ (zeros + 1) = n * 10 ^ zeros * 10 := by ring
      rw [List.replicate_succ', ← List.append_assoc, ih, ← Nat.add_assoc, final, tenfold]
      simp

/-- A number with its digits filled up on the left shows its final digits. -/
theorem replicate_append_ofNat {width n : Nat} (positive : 0 < width) (fits : n < 10 ^ width) :
    List.replicate (width - (ofNat n).length) '0' ++ ofNat n = final width n := by
  induction width generalizing n with
  | zero => contradiction
  | succ width ih =>
      by_cases small : n < 10
      · have front : final width 0 = List.replicate width '0' := by
          simpa [final] using (final_append_zeros 0 0 width).symm
        have quotient : n / 10 = 0 := by omega
        have remainder : n % 10 = n := by omega
        simp [ofNat, Nat.toDigits_of_lt_base small, final, quotient, remainder, front]
      · have written : ofNat n = ofNat (n / 10) ++ [Nat.digitChar (n % 10)] := by
          apply Nat.toDigits_of_base_le (by omega)
          omega
        have more : 0 < width := by
          apply Nat.pos_of_ne_zero
          rintro rfl
          omega
        have quotient : n / 10 < 10 ^ width := by
          rw [Nat.pow_succ] at fits
          omega
        rw [written, final, ← ih more quotient]
        simp

end TextTemplate.Digits

namespace TextTemplate.Decimal

theorem fractionDigits_eq (d : Decimal) : d.fractionDigits = Digits.final d.scale d.mantissa := by
  unfold fractionDigits
  split
  · rename_i none
    simp [none, Digits.final]
  · rename_i some
    rw [← Digits.final_mod]
    apply Digits.replicate_append_ofNat (by omega)
    exact Nat.mod_lt _ (Nat.pow_pos (by omega))

end TextTemplate.Decimal
