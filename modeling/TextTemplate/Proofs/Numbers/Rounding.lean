import Mathlib.Algebra.Order.Floor.Semiring
import Mathlib.Data.Rat.Floor
import Mathlib.Tactic.FieldSimp
import Mathlib.Tactic.Linarith
import TextTemplate.Number.Decimal

/-!
# Decimals as rational numbers

A decimal denotes a rational number, and rounding it to some places counts that number in units of
the last place, a half going away from zero (`Decimal.units_toRat`). What a decimal denotes a hundred
times is a decimal again unless it is too large, and then none denotes it
(`Decimal.timesHundred?_eq_none`): the digits that are given up are the two zeros of the hundred.
-/

namespace TextTemplate.Decimal

/-- The number that a decimal denotes. -/
def toRat (d : Decimal) : ℚ :=
  (if d.negative then -1 else 1) * (d.mantissa / 10 ^ d.scale)

/-- The size of a number in units of its last place, a half going up. -/
def units (places : ℕ) (number : ℚ) : ℕ :=
  ⌊|number| * 10 ^ places + 1 / 2⌋₊

/-- A number rounded to some places, a half going away from zero. -/
def rounded (places : ℕ) (number : ℚ) : ℚ :=
  (if number < 0 then -1 else 1) * (units places number / 10 ^ places)

theorem abs_toRat (d : Decimal) : |d.toRat| = d.mantissa / 10 ^ d.scale := by
  have size_nonneg : (0 : ℚ) ≤ d.mantissa / 10 ^ d.scale := by positivity
  unfold toRat
  split <;> simp [abs_of_nonneg size_nonneg]

theorem toRat_eq_zero {d : Decimal} : d.toRat = 0 ↔ d.isZero = true := by
  rw [← abs_eq_zero, abs_toRat]
  simp [isZero]

theorem toRat_neg_iff {d : Decimal} : d.toRat < 0 ↔ d.negative = true ∧ d.isZero = false := by
  cases negative : d.negative with
  | false =>
      have size_nonneg : (0 : ℚ) ≤ d.mantissa / 10 ^ d.scale := by positivity
      simpa [toRat, negative] using size_nonneg
  | true => simp [toRat, negative, isZero, Nat.pos_iff_ne_zero]

theorem toRat_of_ofParts? {negative : Bool} {mantissa scale : ℕ} {d : Decimal}
    (inRange : ofParts? negative mantissa scale = some d) :
    d.toRat = (if negative then -1 else 1) * (mantissa / 10 ^ scale) := by
  unfold ofParts? at inRange
  split at inRange
  · rcases Option.some.inj inRange with rfl
    by_cases zero : mantissa = 0
    · simp [toRat, zero]
    · simp [toRat, zero]
  · contradiction

theorem ofParts?_eq_none {negative : Bool} {mantissa scale : ℕ} (inRange : scale ≤ 28) :
    ofParts? negative mantissa scale = none ↔ 2 ^ 96 ≤ mantissa := by
  simp [ofParts?, inRange]

theorem toRat_ofInt64 (n : Int64) : (ofInt64 n).toRat = n.toInt := by
  have low := n.le_toInt
  have high := n.toInt_lt
  have room : ofInt? n.toInt ≠ none := by
    rw [Ne, ofInt?, ofParts?_eq_none (by omega)]
    omega
  rcases Option.ne_none_iff_exists'.mp room with ⟨d, inRange⟩
  have sized : (n.toInt.natAbs : ℚ) = |(n.toInt : ℚ)| := by
    rw [← Int.cast_abs, Int.abs_eq_natAbs]
    simp
  rw [ofInt64, inRange, Option.getD_some, toRat_of_ofParts? inRange, sized]
  by_cases negative : n.toInt < 0
  · have cast : (n.toInt : ℚ) < 0 := by exact_mod_cast negative
    simp [negative, abs_of_neg cast]
  · have cast : (0 : ℚ) ≤ n.toInt := by exact_mod_cast Int.not_lt.mp negative
    simp [negative, abs_of_nonneg cast]

/-! ## Rounding -/

theorem rounded_neg_iff {places : ℕ} {number : ℚ} :
    rounded places number < 0 ↔ number < 0 ∧ units places number ≠ 0 := by
  by_cases negative : number < 0
  · simp [rounded, negative, Nat.pos_iff_ne_zero]
  · have size_nonneg : (0 : ℚ) ≤ units places number / 10 ^ places := by positivity
    simpa [rounded, negative] using size_nonneg

/-- Dividing with a half going up is the integer below the quotient and a half. -/
theorem divRound_eq_floor {n d : ℕ} (positive : 0 < d) :
    divRound .awayFromZero n d = ⌊(n : ℚ) / d + 1 / 2⌋₊ := by
  have d_pos : (0 : ℚ) < d := by exact_mod_cast positive
  have parted : (n : ℚ) = d * (n / d : ℕ) + (n % d : ℕ) := by exact_mod_cast (Nat.div_add_mod n d).symm
  have rest_lt : ((n % d : ℕ) : ℚ) < d := by exact_mod_cast Nat.mod_lt n positive
  have rest_nonneg : (0 : ℚ) ≤ (n % d : ℕ) := by positivity
  symm
  rw [Nat.floor_eq_iff (by positivity), parted]
  unfold divRound
  -- The quotient and a half passes the next integer exactly if the rest is at least half of `d`.
  by_cases up : d ≤ 2 * (n % d)
  · have half_le : (d : ℚ) ≤ 2 * (n % d : ℕ) := by exact_mod_cast up
    simp only [up, decide_true, if_true]
    push_cast
    constructor
    · field_simp
      linarith
    · field_simp
      linarith
  · have lt_half : 2 * ((n % d : ℕ) : ℚ) < d := by exact_mod_cast Nat.lt_of_not_le up
    simp only [up, decide_false]
    constructor
    · field_simp
      simp
      linarith
    · field_simp
      simp
      linarith

/-- The mantissa of the rounded decimal counts its units; fewer places than asked for are zeros. -/
theorem units_toRat (d : Decimal) (places : ℕ) :
    units places d.toRat =
      (d.round .awayFromZero places).mantissa *
        10 ^ (places - (d.round .awayFromZero places).scale) := by
  unfold units
  rw [abs_toRat]
  by_cases few : d.scale ≤ places
  · have exact : (d.mantissa : ℚ) / 10 ^ d.scale * 10 ^ places =
        (d.mantissa * 10 ^ (places - d.scale) : ℕ) := by
      push_cast
      rw [pow_sub₀ _ (by norm_num) few]
      field_simp
    have kept : d.round .awayFromZero places = d := by simp [round, few]
    rw [exact, kept, Nat.floor_eq_iff (by positivity)]
    constructor <;> linarith
  · have scaled : (d.mantissa : ℚ) / 10 ^ d.scale * 10 ^ places =
        d.mantissa / (10 ^ (d.scale - places) : ℕ) := by
      push_cast
      rw [pow_sub₀ _ (by norm_num) (by omega)]
      field_simp
    have mantissa : (d.round .awayFromZero places).mantissa =
        divRound .awayFromZero d.mantissa (10 ^ (d.scale - places)) := by
      simp [round, few]
    have scale : (d.round .awayFromZero places).scale = places := by simp [round, few]
    rw [scaled, mantissa, scale, divRound_eq_floor (by positivity)]
    simp

theorem scale_round_le (halfway : Halfway) (d : Decimal) (places : ℕ) :
    (d.round halfway places).scale ≤ places := by
  unfold round
  split
  · assumption
  · exact Nat.le_refl places

theorem isZero_round (d : Decimal) (places : ℕ) :
    (d.round .awayFromZero places).isZero = true ↔ units places d.toRat = 0 := by
  simp [units_toRat, isZero]

theorem negative_round {d : Decimal} {places : ℕ} (visible : units places d.toRat ≠ 0) :
    (d.round .awayFromZero places).negative = decide (d.toRat < 0) := by
  have notZero : d.isZero = false := by
    rw [← Bool.not_eq_true, ← toRat_eq_zero]
    intro zero
    norm_num [zero, units] at visible
  rw [Bool.eq_iff_iff, decide_eq_true_iff, toRat_neg_iff, notZero]
  rw [units_toRat] at visible
  by_cases few : d.scale ≤ places
  · simp [round, few]
  · simp only [round, few, dite_false] at visible ⊢
    simp at visible
    simp [visible]

/-- A whole number that is rounded to nought is nought. -/
theorem isZero_of_isWhole {d : Decimal} (whole : d.isWhole = true) (none_left : units 0 d.toRat = 0) :
    d.isZero = true := by
  have power_pos : (0 : ℚ) < 10 ^ d.scale := by positivity
  rw [units, abs_toRat, Nat.floor_eq_zero] at none_left
  have small : (d.mantissa : ℚ) < 10 ^ d.scale := by
    rw [← div_lt_one power_pos]
    linarith
  have mantissa_lt : d.mantissa < Nat.pow 10 d.scale := by
    rw [Nat.pow_eq]
    exact_mod_cast small
  rw [isWhole, Nat.mod_eq_of_lt mantissa_lt] at whole
  exact whole

/-! ## A hundred times a decimal -/

theorem divRound_mul (halfway : Halfway) {d : ℕ} (positive : 0 < d) (n : ℕ) :
    divRound halfway (n * d) d = n := by
  cases halfway <;> simp [divRound, positive] <;> omega

/-- A hundred times a decimal, some zeros of the hundred being given up. -/
def hundredfold? (d : Decimal) (lost : ℕ) : Option Decimal :=
  if lost ≤ d.scale then ofParts? d.negative (d.mantissa * 10 ^ (2 - lost)) (d.scale - lost) else none

theorem toRat_hundredfold? {d e : Decimal} {lost : ℕ} (le_two : lost ≤ 2)
    (inRange : d.hundredfold? lost = some e) : e.toRat = 100 * d.toRat := by
  unfold hundredfold? at inRange
  split at inRange
  · rename_i le_scale
    have hundred : (100 : ℚ) = 10 ^ (2 - lost) * 10 ^ lost := by
      rw [← pow_add, Nat.sub_add_cancel le_two]
      norm_num
    have power : (10 : ℚ) ^ d.scale = 10 ^ (d.scale - lost) * 10 ^ lost := by
      rw [← pow_add, Nat.sub_add_cancel le_scale]
    rw [toRat_of_ofParts? inRange, toRat, hundred, power]
    push_cast
    field_simp
  · contradiction

theorem fitFrom_of_inRange {negative : Bool} {mantissa scale dropped : ℕ} {d : Decimal}
    (inRange : ofParts? negative (divRound .toEven mantissa (Nat.pow 10 dropped)) (scale - dropped) =
      some d) (left : ℕ) : fitFrom negative mantissa scale dropped left = some d := by
  cases left <;> simp only [fitFrom, inRange, Option.some_or]

/-- At most two digits are given up, so nothing is ever rounded: without the zeros of the hundred the
mantissa is as large as it was. -/
theorem timesHundred?_eq {d : Decimal} (nonzero : d.isZero = false) :
    d.timesHundred? = (d.hundredfold? 0).or ((d.hundredfold? 1).or (d.hundredfold? 2)) := by
  have none_lost : divRound .toEven (d.mantissa * 100) 1 = d.mantissa * 100 := by
    simpa using divRound_mul .toEven Nat.one_pos (d.mantissa * 100)
  have one_lost : divRound .toEven (d.mantissa * 100) 10 = d.mantissa * 10 := by
    simpa [Nat.mul_assoc] using divRound_mul .toEven (d := 10) (by omega) (d.mantissa * 10)
  have two_lost : divRound .toEven (d.mantissa * 100) (Nat.pow 10 2) = d.mantissa := by
    apply divRound_mul
    decide
  have start : d.timesHundred? = fitFrom d.negative (d.mantissa * 100) d.scale 0 d.scale := by
    simp [timesHundred?, nonzero]
  unfold hundredfold?
  rw [start]
  -- The scale says how many zeros can be given up; with two of them the mantissa always fits.
  match d.scale, d.scale_le with
  | 0, _ => simp [fitFrom, none_lost]
  | 1, _ => simp [fitFrom, none_lost, one_lost]
  | scale + 2, scale_le =>
      have fits : ofParts? d.negative d.mantissa scale ≠ none := by
        rw [Ne, ofParts?_eq_none (by omega)]
        simpa using d.mantissa_lt
      rcases Option.ne_none_iff_exists'.mp fits with ⟨e, fits⟩
      have third : fitFrom d.negative (d.mantissa * 100) (scale + 2) 2 scale = some e := by
        apply fitFrom_of_inRange
        simpa [two_lost] using fits
      simp [fitFrom, none_lost, one_lost, third, fits]

theorem toRat_timesHundred? {d e : Decimal} (inRange : d.timesHundred? = some e) :
    e.toRat = 100 * d.toRat := by
  cases zero : d.isZero with
  | true =>
      have nought : e = Decimal.zero := by
        simpa [timesHundred?, zero, eq_comm] using inRange
      rw [nought, toRat_eq_zero.mpr zero, toRat_eq_zero.mpr rfl, mul_zero]
  | false =>
      rw [timesHundred?_eq zero, Option.or_eq_some_iff, Option.or_eq_some_iff] at inRange
      rcases inRange with whole | ⟨-, one | ⟨-, two⟩⟩
      · exact toRat_hundredfold? (by omega) whole
      · exact toRat_hundredfold? (by omega) one
      · exact toRat_hundredfold? (by omega) two

/-- If there is no room for the hundredfold, not even without zeros, it is too large. -/
theorem le_mantissa_of_toRat {d e : Decimal} (missing : d.timesHundred? = none)
    (same : e.toRat = 100 * d.toRat) : 2 ^ 96 ≤ e.mantissa := by
  have nonzero : d.isZero = false := by
    by_contra zero
    simp [timesHundred?, Bool.eq_true_of_not_eq_false zero] at missing
  have sizes : e.mantissa * 10 ^ d.scale = d.mantissa * 100 * 10 ^ e.scale := by
    have rational := congrArg abs same
    rw [abs_mul, abs_toRat, abs_toRat, abs_of_pos (by norm_num)] at rational
    field_simp at rational
    apply Nat.cast_injective (R := ℚ)
    push_cast
    linarith
  have grows : d.mantissa * 100 ≤ d.mantissa * 100 * 10 ^ e.scale := by
    apply Nat.le_mul_of_pos_right
    positivity
  rw [timesHundred?_eq nonzero, Option.or_eq_none_iff, Option.or_eq_none_iff] at missing
  rcases missing with ⟨whole, one, two⟩
  have mantissa_lt := d.mantissa_lt
  unfold hundredfold? at whole one two
  -- What is missing with the most zeros given up bounds the mantissa, and `sizes` carries it over.
  match shape : d.scale, d.scale_le with
  | 0, _ =>
      rw [shape] at whole sizes
      rw [if_pos (by omega), ofParts?_eq_none (by omega)] at whole
      omega
  | 1, _ =>
      rw [shape] at one sizes
      rw [if_pos (by omega), ofParts?_eq_none (by omega)] at one
      omega
  | scale + 2, scale_le =>
      rw [shape] at two
      rw [if_pos (by omega), ofParts?_eq_none (by omega)] at two
      simp at two mantissa_lt
      omega

/-- A decimal has no hundredfold only if no decimal denotes it. -/
theorem timesHundred?_eq_none {d : Decimal} :
    d.timesHundred? = none ↔ ¬∃ e : Decimal, e.toRat = 100 * d.toRat := by
  constructor
  · intro missing
    rintro ⟨e, same⟩
    have tooLarge := le_mantissa_of_toRat missing same
    exact absurd e.mantissa_lt (Nat.not_lt_of_le tooLarge)
  · intro none_denotes
    by_contra some_denotes
    rcases Option.ne_none_iff_exists'.mp some_denotes with ⟨e, inRange⟩
    exact none_denotes ⟨e, toRat_timesHundred? inRange⟩

end TextTemplate.Decimal
