import TextTemplate.Json.Basic
import TextTemplate.Number.Digits

/-!
# Numbers in JSON texts

The digits of a number are gathered in a significand of 64 bits. Digits for which there is no room
count as zeros before the point and are dropped behind it. A number with a point, with a power of
ten or with too many digits is a floating-point number: its significand, converted, times or over
a power of ten. One that is too large for this has no value.
-/

namespace TextTemplate.Json

/-- The numeric value of a digit. -/
def digitValue (c : Char) : Nat :=
  c.toNat - '0'.toNat

/-- Appends digits to a significand for as long as it fits 64 bits; the second part counts the
digits that were appended. -/
def gather (significand : Nat) : Text → Nat × Nat
  | [] => (significand, 0)
  | digit :: rest =>
    let next := significand * 10 + digitValue digit
    if next < Nat.pow 2 64 then
      let gathered := gather next rest
      (gathered.1, gathered.2 + 1)
    else (significand, 0)

/-- The number `x * 10 ^ power`, if it is finite. Powers below the range are applied in steps. -/
def scale? (x : Float) (power : Int) : Option Float :=
  if x == 0 then some x
  else if 308 < power then none
  else if 0 ≤ power then
    let product := x * Float.ofScientific 1 false power.toNat
    if product.isInf then none else some product
  else if power < -308 then scale? (x / 1e308) (power + 308)
  else some (x / Float.ofScientific 1 false (-power).toNat)
termination_by (-power).toNat

/-- A power of ten that counts fits 32 bits. -/
def clampPower (power : Int) : Int :=
  max (-(Nat.pow 2 31 : Int)) (min power ((Nat.pow 2 31 : Int) - 1))

/-- The number with this significand and power of ten and with the power that is written out, if
any. A written power beyond 32 bits makes the number nought or too large. -/
def floating? (negative : Bool) (significand : Nat) (power : Int) (written : Option (Bool × Nat)) :
    Option Json :=
  let sign (x : Float) : Json := .float (if negative then -x else x)
  let x := Float.ofNat significand
  match written with
  | none => (scale? x power).map sign
  | some (isDown, digits) =>
    if digits < Nat.pow 2 31 then
      (scale? x (clampPower (if isDown then power - digits else power + digits))).map sign
    else if significand != 0 && !isDown then none
    else some (sign 0)

/-- A whole number. Negative nought and whole numbers below the signed range are floating-point
numbers. -/
def wholeNumber (negative : Bool) (n : Nat) : Json :=
  if negative = false then .whole n
  else if n = 0 ∨ Nat.pow 2 63 < n then .float (-(Float.ofNat n))
  else .whole (-(n : Int))

/-- A written power of ten at the front: whether it is negative, its digits' value, and the rest of
the text. The outer option is for a letter without digits. -/
def writtenPower? (text : Text) : Option (Option (Bool × Nat) × Text) :=
  match text with
  | mark :: following =>
    if mark = 'e' ∨ mark = 'E' then
      let (isDown, rest) := match following with
        | '-' :: rest => (true, rest)
        | '+' :: rest => (false, rest)
        | _ => (false, following)
      let digits := rest.takeWhile Char.isDigit
      if digits = [] then none
      else some (some (isDown, Nat.ofDigitChars 10 digits 0), rest.dropWhile Char.isDigit)
    else some (none, text)
  | [] => some (none, [])

/-- The number without its sign at the front of a text, and the rest of the text. -/
def unsigned? (negative : Bool) (text : Text) : Option (Json × Text) := do
  let digits := text.takeWhile Char.isDigit
  let rest := text.dropWhile Char.isDigit
  if digits = [] ∨ (digits.head? = some '0' ∧ 1 < digits.length) then none
  else
    let (significand, room) := gather 0 digits
    let surplus : Int := (digits.length - room : Nat)
    match rest with
    | '.' :: following =>
      let fraction := following.takeWhile Char.isDigit
      if fraction = [] then none
      else
        let (significand, room) := gather significand fraction
        let (written, rest) ← writtenPower? (following.dropWhile Char.isDigit)
        let value ← floating? negative significand (surplus - room) written
        some (value, rest)
    | _ =>
      let (written, rest) ← writtenPower? rest
      if written.isNone ∧ surplus = 0 then some (wholeNumber negative significand, rest)
      else
        let value ← floating? negative significand surplus written
        some (value, rest)

/-- The number at the front of a text, and the rest of the text. -/
def number? (text : Text) : Option (Json × Text) :=
  match text with
  | '-' :: rest => unsigned? true rest
  | _ => unsigned? false text

end TextTemplate.Json
