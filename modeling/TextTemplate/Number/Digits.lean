import TextTemplate.Text

/-!
# Whole numbers in decimal digits

Writing and reading whole numbers. A written number is its sign and its digits; reading accepts a
leading plus sign as well, and the number must fit the width that the reader asks for.
-/

namespace TextTemplate.Digits

/-- The decimal digits of a natural number. -/
def ofNat (n : Nat) : Text :=
  Nat.toDigits 10 n

/-- The decimal digits of an integer, after a minus sign if it is negative. -/
def ofInt (n : Int) : Text :=
  if n < 0 then '-' :: ofNat n.natAbs else ofNat n.natAbs

/-- The value of a hexadecimal digit. -/
def hexadecimal? (c : Char) : Option Nat :=
  if c.isDigit then some (c.toNat - '0'.toNat)
  else if 'a' ≤ c ∧ c ≤ 'f' then some (c.toNat - 'a'.toNat + 10)
  else if 'A' ≤ c ∧ c ≤ 'F' then some (c.toNat - 'A'.toNat + 10)
  else none

/-- The natural number whose digits these are; every character has to be a digit, and there has to
be one. -/
def value? (text : Text) : Option Nat :=
  if text ≠ [] ∧ text.all Char.isDigit then some (Nat.ofDigitChars 10 text 0) else none

/-- The natural number below `bound` that is written here, a plus sign being allowed. -/
def natural? (bound : Nat) (text : Text) : Option Nat :=
  let digits := match text with
    | '+' :: rest => rest
    | _ => text
  (value? digits).filter (· < bound)

/-- A count or position: a natural number of 64 bits. -/
def size? (text : Text) : Option Nat :=
  natural? (Nat.pow 2 64) text

/-- A number of places: a natural number of 32 bits. -/
def places? (text : Text) : Option Nat :=
  natural? (Nat.pow 2 32) text

/-- The signed integer of 64 bits that is written here. -/
def int64? (text : Text) : Option Int64 :=
  match text with
  | '-' :: rest => (value? rest).bind fun n =>
      if n ≤ Nat.pow 2 63 then some (Int64.ofInt (-(n : Int))) else none
  | _ => (natural? (Nat.pow 2 63) text).map fun n => Int64.ofInt n

end TextTemplate.Digits
