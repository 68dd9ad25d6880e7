import TextTemplate.Number.Decimal

/-!
# Number patterns

A number is written after a pattern. A standard pattern is a letter with an optional precision:
`N` groups thousands, `F` does not, `D` takes whole numbers only and pads them, `P` shows percent.
A custom pattern draws digits with `0` and `#`, groups them if a comma stands before the point,
and keeps the text around the digits. Rounding is exact and goes away from zero.
-/

namespace TextTemplate.NumberPattern

/-- Digits with a comma before every group of three, counted from the right. -/
def groupDigits : Text → Text
  | [] => []
  | digit :: rest =>
    if rest.length % 3 = 0 ∧ rest ≠ [] then digit :: ',' :: groupDigits rest
    else digit :: groupDigits rest

/-- How a decimal is laid out: the least number of digits before the point, the least and the
greatest number after it, and whether thousands are grouped. -/
structure Layout where
  wholeMin : Nat
  fractionMin : Nat
  fractionMax : Nat
  grouped : Bool

/-- The digits before the point: no leading zeros but those that the least number asks for. -/
def layWhole (layout : Layout) (digits : Text) : Text :=
  let bare := digits.dropWhile (· == '0')
  let padded := List.replicate (layout.wholeMin - bare.length) '0' ++ bare
  if layout.grouped then groupDigits padded else padded

/-- The digits after the point: trailing zeros go as far as the least number allows, and are added
up to the greatest one before that. -/
def layFraction (layout : Layout) (digits : Text) : Text :=
  let padded := digits ++ List.replicate (layout.fractionMax - digits.length) '0'
  let kept := (padded.drop layout.fractionMin).reverse.dropWhile (· == '0')
  padded.take layout.fractionMin ++ kept.reverse

/-- A decimal rounded and laid out. Zero is never negative. -/
def lay (layout : Layout) (value : Decimal) : Text :=
  let rounded := value.round .awayFromZero layout.fractionMax
  let whole := layWhole layout rounded.wholeDigits
  let unsigned := match layFraction layout rounded.fractionDigits with
    | [] => whole
    | fraction => whole ++ '.' :: fraction
  if rounded.negative && !rounded.isZero then '-' :: unsigned else unsigned

/-- The precision that is written behind the letter of a standard pattern; it may be left out. -/
def precision? (written : Text) : Option (Option Nat) :=
  if written.isEmpty then some none else (Digits.places? written).map some

/-- The text of a number after a standard pattern. -/
def standard? (value : Decimal) : Text → Option Text
  | [] => none
  | kind :: written => do
    let precision ← precision? written
    let places := precision.getD 2
    match kind.toUpper with
    | 'N' => some (lay ⟨1, places, places, true⟩ value)
    | 'F' => some (lay ⟨1, places, places, false⟩ value)
    | 'D' => if value.isWhole then some (lay ⟨precision.getD 1, 0, 0, false⟩ value) else none
    | 'P' => value.timesHundred?.map fun percent => lay ⟨1, places, places, true⟩ percent ++ ['%']
    | _ => none

/-- A place for a digit in a custom pattern. -/
def isPlaceholder (c : Char) : Bool :=
  c == '0' || c == '#'

/-- The parts of a custom pattern before its first placeholder, from there to its last one, and
behind that. -/
def sections (pattern : Text) : Text × Text × Text :=
  let front := pattern.takeWhile (!isPlaceholder ·)
  let fromFirst := pattern.dropWhile (!isPlaceholder ·)
  let back := (fromFirst.reverse.takeWhile (!isPlaceholder ·)).reverse
  (front, fromFirst.take (fromFirst.length - back.length), back)

/-- The layout that the placeholders of a custom pattern describe. -/
def layoutOf (placeholders : Text) : Layout :=
  let (whole, fraction) := (Text.cutAt? '.' placeholders).getD (placeholders, [])
  ⟨whole.count '0', fraction.count '0', fraction.countP isPlaceholder, whole.contains ','⟩

/-- The number that a custom pattern shows: a hundred times the value if there is a percent sign
before or behind the placeholders. -/
def shown? (value : Decimal) (front back : Text) : Option Decimal :=
  if front.contains '%' || back.contains '%' then value.timesHundred? else some value

/-- The text of a number after a custom pattern. A number that leaves no digit at all is shown as
nought. -/
def custom? (value : Decimal) (pattern : Text) : Option Text := do
  let (front, placeholders, back) := sections pattern
  let scaled ← shown? value front back
  let digits := lay (layoutOf placeholders) scaled
  let shown := if digits = [] ∨ digits = ['-'] then digits ++ ['0'] else digits
  some (front ++ shown ++ back)

/-- The text of a number after a pattern, if the pattern has one for it. Blanks around the pattern
do not count. -/
def format? (value : Decimal) (pattern : Text) : Option Text :=
  let pattern := Text.trim pattern
  if pattern.any isPlaceholder && !(pattern.head?.any Char.isAlpha) then custom? value pattern
  else standard? value pattern

end TextTemplate.NumberPattern
