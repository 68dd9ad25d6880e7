import TextTemplate.Number.Digits

/-!
# Decimal numbers

A decimal is a sign, a mantissa below `2 ^ 96` and a scale of at most 28: the number
`± mantissa / 10 ^ scale`. The scale is part of the value's text, not of its size: `1.0` and `1.00`
are equal and are written differently. Rounding goes to a smaller scale, so it never leaves the
range; a product that does not fit gives up fraction digits first and has no value if they do not
suffice.
-/

namespace TextTemplate

/-- The number `mantissa / 10 ^ scale`, negative or not. -/
structure Decimal where
  negative : Bool
  mantissa : Nat
  scale : Nat
  mantissa_lt : mantissa < Nat.pow 2 96
  scale_le : scale ≤ 28

namespace Decimal

/-- The decimal with these parts, if they are in range. Zero has no sign. -/
def ofParts? (negative : Bool) (mantissa scale : Nat) : Option Decimal :=
  if bounds : mantissa < Nat.pow 2 96 ∧ scale ≤ 28 then
    some ⟨negative && mantissa != 0, mantissa, scale, bounds.1, bounds.2⟩
  else none

/-- A whole decimal, if it is in range. -/
def ofInt? (n : Int) : Option Decimal :=
  ofParts? (n < 0) n.natAbs 0

/-- The decimal zero. -/
def zero : Decimal :=
  ⟨false, 0, 0, by decide, by decide⟩

/-- Every signed integer of 64 bits is a decimal. -/
def ofInt64 (n : Int64) : Decimal :=
  (ofInt? n.toInt).getD zero

/-- The mantissa is nought. -/
def isZero (d : Decimal) : Bool :=
  d.mantissa == 0

/-- The number is whole. -/
def isWhole (d : Decimal) : Bool :=
  d.mantissa % Nat.pow 10 d.scale == 0

/-- The digits before the point. -/
def wholeDigits (d : Decimal) : Text :=
  Digits.ofNat (d.mantissa / Nat.pow 10 d.scale)

/-- The digits after the point, of which there are as many as the scale says. -/
def fractionDigits (d : Decimal) : Text :=
  let written := Digits.ofNat (d.mantissa % Nat.pow 10 d.scale)
  if d.scale = 0 then [] else List.replicate (d.scale - written.length) '0' ++ written

/-- The text of a decimal: all its fraction digits are shown. -/
def display (d : Decimal) : Text :=
  let unsigned := match d.fractionDigits with
    | [] => d.wholeDigits
    | fraction => d.wholeDigits ++ '.' :: fraction
  if d.negative then '-' :: unsigned else unsigned

/-- Takes fraction digits as long as there is room for them, and rounds by the first one that
there is no room for, a five going up. -/
def takeFraction (negative : Bool) (mantissa scale : Nat) : Text → Option Decimal
  | [] => ofParts? negative mantissa scale
  | c :: rest =>
    let digit := c.toNat - '0'.toNat
    let next := mantissa * 10 + digit
    if next < Nat.pow 2 96 ∧ scale < 28 then takeFraction negative next (scale + 1) rest
    else if digit < 5 then ofParts? negative mantissa scale
    else if mantissa + 1 < Nat.pow 2 96 then ofParts? negative (mantissa + 1) scale
    else if scale = 0 then none
    else ofParts? negative ((mantissa + 5) / 10) (scale - 1)

/-- The decimal that is written with these digits before and after the point. -/
def ofDigits? (negative : Bool) (whole fraction : Text) : Option Decimal :=
  if (whole ++ fraction).all Char.isDigit ∧ whole ++ fraction ≠ [] then
    takeFraction negative (Nat.ofDigitChars 10 whole 0) 0 fraction
  else none

/-- The decimal that is written without a sign. -/
def unsigned? (negative : Bool) (text : Text) : Option Decimal :=
  match Text.cutAt? '.' text with
  | some (whole, fraction) => ofDigits? negative whole fraction
  | none => ofDigits? negative text []

/-- The decimal that is written here. Its fraction digits give the scale as far as there is room
for them. -/
def read? (text : Text) : Option Decimal :=
  match text with
  | '-' :: rest => unsigned? true rest
  | '+' :: rest => unsigned? false rest
  | _ => unsigned? false text

/-- Two decimals denote the same number. -/
def sameNumber (left right : Decimal) : Bool :=
  left.mantissa * Nat.pow 10 right.scale == right.mantissa * Nat.pow 10 left.scale &&
    (left.negative == right.negative || left.isZero)

/-- The floating-point number of a decimal: the whole part is converted, and a fraction is added
and the sum rounded back to as many places as the scale says. -/
def toFloat (d : Decimal) : Float :=
  let unit := Nat.pow 10 d.scale
  let whole := Float.ofNat (d.mantissa / unit)
  let fraction := Float.ofNat (d.mantissa % unit) / Float.ofNat unit
  let size :=
    if fraction == 0 then whole
    else ((whole + fraction) * Float.ofNat unit).round / Float.ofNat unit
  if d.negative && (d.scale != 0 || !d.isZero) then -size else size

/-- What becomes of a number halfway between its two neighbours. -/
inductive Halfway where
  | awayFromZero
  | toEven

/-- The quotient rounded to a nearest integer. -/
def divRound (halfway : Halfway) (n d : Nat) : Nat :=
  let below := n / d
  let twiceRest := 2 * (n % d)
  let up : Bool := match halfway with
    | .awayFromZero => d ≤ twiceRest
    | .toEven => d < twiceRest || (d = twiceRest && below % 2 = 1)
  if up then below + 1 else below

theorem divRound_le (halfway : Halfway) (n places : Nat) :
    divRound halfway n (Nat.pow 10 places) ≤ n := by
  have power_pos : 0 < Nat.pow 10 places := Nat.pow_pos (by decide)
  cases places with
  | zero => cases halfway <;> simp [divRound, Nat.mod_one]
  | succ places =>
    have ten_le : 10 ≤ Nat.pow 10 (places + 1) := by
      have := Nat.pow_le_pow_right (n := 10) (by decide) (Nat.succ_pos places)
      simpa using this
    generalize Nat.pow 10 (places + 1) = d at *
    have split_n := Nat.div_add_mod n d
    have grow : 10 * (n / d) ≤ d * (n / d) := Nat.mul_le_mul_right _ ten_le
    cases halfway <;> simp only [divRound] <;> split <;> rename_i above <;> simp at above <;> omega

/-- The decimal rounded to at most `places` fraction digits. One that has no more of them is
returned as it is. -/
def round (halfway : Halfway) (d : Decimal) (places : Nat) : Decimal :=
  if few : d.scale ≤ places then d
  else
    let mantissa := divRound halfway d.mantissa (Nat.pow 10 (d.scale - places))
    ⟨d.negative && mantissa != 0, mantissa, places,
      Nat.lt_of_le_of_lt (divRound_le ..) d.mantissa_lt,
      by have := d.scale_le; omega⟩

/-- The whole part of a decimal. Its sign stays, also where nothing is left. -/
def wholePart (d : Decimal) : Decimal :=
  ⟨d.negative, d.mantissa / Nat.pow 10 d.scale, 0,
    Nat.lt_of_le_of_lt (Nat.div_le_self ..) d.mantissa_lt, by decide⟩

theorem div_add_one_le {n d : Nat} (remains : n % d ≠ 0) : n / d + 1 ≤ n := by
  have split_n := Nat.div_add_mod n d
  match d with
  | 0 => simp_all; omega
  | 1 => simp [Nat.mod_one] at remains
  | d + 2 =>
    have : n / (d + 2) ≤ (d + 2) * (n / (d + 2)) := Nat.le_mul_of_pos_left _ (by omega)
    omega

/-- The whole number next to a decimal that is not whole, away from zero. -/
def awayFromZero (d : Decimal) (fractional : ¬ d.isWhole) : Decimal :=
  ⟨d.negative, d.mantissa / Nat.pow 10 d.scale + 1, 0,
    Nat.lt_of_le_of_lt (div_add_one_le (by simpa [isWhole] using fractional)) d.mantissa_lt,
    by decide⟩

/-- The greatest whole number that is not above the decimal. -/
def floor (d : Decimal) : Decimal :=
  if below : d.negative ∧ ¬ d.isWhole then d.awayFromZero below.2 else d.wholePart

/-- The least whole number that is not below the decimal. -/
def ceiling (d : Decimal) : Decimal :=
  if above : ¬ d.negative ∧ ¬ d.isWhole then d.awayFromZero above.2 else d.wholePart

/-- The number `mantissa / 10 ^ scale` after `dropped` of its fraction digits have been given up,
halfway cases going to even; while that does not fit and one of the `left` other digits remains,
one more is given up. -/
def fitFrom (negative : Bool) (mantissa scale dropped : Nat) (left : Nat) : Option Decimal :=
  let attempt :=
    ofParts? negative (divRound .toEven mantissa (Nat.pow 10 dropped)) (scale - dropped)
  match left with
  | 0 => attempt
  | left + 1 => attempt.or (fitFrom negative mantissa scale (dropped + 1) left)

/-- A hundred times the decimal, if that is in range. -/
def timesHundred? (d : Decimal) : Option Decimal :=
  if d.isZero then some zero
  else fitFrom d.negative (d.mantissa * 100) d.scale 0 d.scale

end Decimal

end TextTemplate
