import TextTemplate.Number.Decimal
import TextTemplate.Number.Shortest

/-!
# Decimals of floating-point numbers

A floating-point number `m * 2 ^ e` is `m * 5 ^ (-e) * 10 ^ e`. The powers of five are worked into
a mantissa of 96 bits one at a time, giving up low bits where it would overflow; then the exponent
of ten is brought into the range of scales, the digits beyond the precision of a floating-point
number are rounded off, and trailing zeros are dropped.
-/

namespace TextTemplate.Decimal

/-- A mantissa of 96 bits with an exponent of ten. -/
structure Scaled where
  mantissa : Nat
  exponent : Int

namespace Scaled

/-- Drops the last digit. -/
def dropDigit (s : Scaled) : Scaled :=
  ⟨s.mantissa / 10, s.exponent + 1⟩

/-- Drops the last digit and rounds, a five going up. -/
def roundDigit (s : Scaled) : Scaled :=
  ⟨if 5 ≤ s.mantissa % 10 then s.mantissa / 10 + 1 else s.mantissa / 10, s.exponent + 1⟩

/-- Multiplies by five as often as stated. An even mantissa, or one without room, is halved
instead, which raises the exponent. -/
def timesFive (s : Scaled) : Nat → Scaled
  | 0 => s
  | times + 1 =>
    if s.mantissa % 2 = 1 ∧ s.mantissa * 5 < Nat.pow 2 96 then
      timesFive ⟨s.mantissa * 5, s.exponent⟩ times
    else timesFive ⟨s.mantissa / 2, s.exponent + 1⟩ times

/-- Divides by five as often as stated. While there is room the mantissa is doubled instead, which
lowers the exponent. -/
def overFive (s : Scaled) : Nat → Scaled
  | 0 => s
  | times + 1 =>
    if s.mantissa < Nat.pow 2 95 then overFive ⟨s.mantissa * 2, s.exponent - 1⟩ times
    else overFive ⟨s.mantissa / 5, s.exponent⟩ times

/-- Rounds off digits until the exponent is no longer below the least one, as often as stated. A
number that vanishes on the way is zero. -/
def raiseExponent (s : Scaled) : Nat → Scaled
  | 0 => s
  | times + 1 =>
    if s.mantissa / 10 = 0 then ⟨0, 0⟩ else raiseExponent s.roundDigit times

/-- Rounds off fraction digits while the mantissa needs more than 52 bits. -/
def dropExcess (s : Scaled) : Nat → Scaled
  | 0 => s
  | times + 1 =>
    if s.exponent < 0 ∧ Nat.pow 2 52 ≤ s.mantissa then dropExcess s.roundDigit times else s

/-- Drops zeros at the end of the fraction. -/
def dropZeros (s : Scaled) : Nat → Scaled
  | 0 => s
  | times + 1 =>
    if s.exponent < 0 ∧ s.mantissa % 10 = 0 then dropZeros s.dropDigit times else s

end Scaled

/-- The decimal of a finite floating-point number, if it is not too large for one. -/
def ofFloat? (x : Float) : Option Decimal :=
  if x.isNaN || x.isInf then none
  else if x == 0 then some zero
  else
    let magnitude := Shortest.Magnitude.ofBits x.toBits.toNat
    let start : Scaled := ⟨magnitude.mantissa, magnitude.exponent⟩
    let inTens :=
      (start.timesFive (-magnitude.exponent).toNat).overFive magnitude.exponent.toNat
    if 0 < inTens.exponent then
      ofParts? (x < 0) (inTens.mantissa * Nat.pow 10 inTens.exponent.toNat) 0
    else
      let raised := inTens.raiseExponent (-28 - inTens.exponent).toNat
      let reduced := (raised.dropExcess 28).dropZeros 28
      ofParts? (x < 0) reduced.mantissa (-reduced.exponent).toNat

end TextTemplate.Decimal
