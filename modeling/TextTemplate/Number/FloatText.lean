import TextTemplate.Number.Digits
import TextTemplate.Number.Shortest

/-!
# Floating-point numbers as text

A floating-point number is shown with the fewest digits that read back, always in positional
notation and without a point if it is whole. In a JSON document the same digits are written with
a point, very large and very small numbers take an exponent, and what is not finite is null.
-/

namespace TextTemplate.FloatText

/-- The digits before and after the decimal point of `digits * 10 ^ place`. The part before the
point is never empty. -/
def positional (digits : Nat) (place : Int) : Text × Text :=
  let written := Digits.ofNat digits
  if 0 ≤ place then (written ++ List.replicate place.toNat '0', [])
  else
    let behind := (-place).toNat
    if behind < written.length then
      (written.take (written.length - behind), written.drop (written.length - behind))
    else (['0'], List.replicate (behind - written.length) '0' ++ written)

/-- The number is below zero or negative zero. -/
def isNegative (x : Float) : Bool :=
  Nat.pow 2 63 ≤ x.toBits.toNat

/-- The text without its sign put behind a minus sign where the number has one. -/
def signed (x : Float) (unsigned : Text) : Text :=
  if isNegative x then '-' :: unsigned else unsigned

/-- The text of a floating-point number in a rendered template. -/
def display (x : Float) : Text :=
  if x.isNaN then "NaN".toList
  else if x.isInf then signed x "inf".toList
  else if x == 0 then signed x ['0']
  else
    let decimal := Shortest.decimal .up (Shortest.Magnitude.ofBits x.toBits.toNat)
    match positional decimal.1 decimal.2 with
    | (whole, []) => signed x whole
    | (whole, fraction) => signed x (whole ++ '.' :: fraction)

/-- A power of ten with its sign, which is always written. -/
def exponent (power : Int) : Text :=
  'e' :: (if power < 0 then '-' else '+') :: Digits.ofNat power.natAbs

/-- A number with one digit before the point and a power of ten. -/
def scientific (digits : Nat) (place : Int) : Text :=
  let written := Digits.ofNat digits
  let power := exponent (place + (written.length - 1 : Nat))
  match written with
  | [] => []
  | [digit] => digit :: power
  | digit :: others => digit :: '.' :: others ++ power

/-- The text of a floating-point number in a JSON document. The point stands in the digits or up
to five places before them; further off there is an exponent. -/
def json (x : Float) : Text :=
  if x.isNaN || x.isInf then "null".toList
  else if x == 0 then signed x "0.0".toList
  else
    let decimal := Shortest.decimal .even (Shortest.Magnitude.ofBits x.toBits.toNat)
    let pointAfter := decimal.2 + (Digits.ofNat decimal.1).length
    if -5 < pointAfter ∧ pointAfter ≤ 16 then
      match positional decimal.1 decimal.2 with
      | (whole, []) => signed x (whole ++ ".0".toList)
      | (whole, fraction) => signed x (whole ++ '.' :: fraction)
    else signed x (scientific decimal.1 decimal.2)

/-- The floating-point number nearest to `digits * 10 ^ power`. Numbers whose size decides the
answer alone are told apart first, so that no huge power is ever formed. -/
def ofDecimal (digits : Nat) (power : Int) : Float :=
  if digits = 0 then 0
  else
    let pointAfter := power + (Digits.ofNat digits).length
    if pointAfter < -330 then 0
    else if 310 < pointAfter then 1 / 0
    else if power < 0 then Float.ofScientific digits true power.natAbs
    else Float.ofScientific digits false power.natAbs

/-- A written power of ten: a sign and at least one digit. -/
def power? (text : Text) : Option Int :=
  match text with
  | '-' :: rest => (Digits.value? rest).map fun n => -(n : Int)
  | '+' :: rest => (Digits.value? rest).map fun n => (n : Int)
  | _ => (Digits.value? text).map fun n => (n : Int)

/-- The floating-point number written without a sign: digits with a point among, before or after
them, and perhaps a power of ten. -/
def unsigned? (text : Text) : Option Float :=
  let whole := text.takeWhile Char.isDigit
  let rest := text.dropWhile Char.isDigit
  let fraction := match rest with
    | '.' :: following => following.takeWhile Char.isDigit
    | _ => []
  let rest := match rest with
    | '.' :: following => following.dropWhile Char.isDigit
    | _ => rest
  let power := match rest with
    | [] => some 0
    | mark :: following => if mark = 'e' ∨ mark = 'E' then power? following else none
  match whole ++ fraction, power with
  | [], _ => none
  | _, none => none
  | digits, some power =>
    some (ofDecimal (Nat.ofDigitChars 10 digits 0) (power - fraction.length))

/-- The floating-point number that is written here in decimal digits. -/
def read? (text : Text) : Option Float :=
  match text with
  | '-' :: rest => (unsigned? rest).map fun x => -x
  | '+' :: rest => unsigned? rest
  | _ => unsigned? text

end TextTemplate.FloatText
