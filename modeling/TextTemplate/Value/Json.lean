import TextTemplate.Json.Reading
import TextTemplate.Value.Basic

/-!
# Values and JSON

A JSON document becomes a value: whole numbers within the signed range are integers, the larger
ones decimals. In the other direction every value has a compact JSON text; dates, decimals,
objects and functions are written as strings that hold their texts.
-/

namespace TextTemplate.Value

variable {σ : Type}

/-- The value of a whole number. -/
def ofWhole (n : Int) : Value σ :=
  if n < Nat.pow 2 63 then int (Int64.ofInt n)
  else decimal ((Decimal.ofInt? n).getD Decimal.zero)

mutual

/-- The value of a JSON document. -/
def ofJson : Json → Value σ
  | .null => null
  | .bool b => bool b
  | .whole n => ofWhole n
  | .float x => float x
  | .string s => string s
  | .array items => list (ofJsonItems items)
  | .object entries => map (ofJsonEntries entries)

/-- The values of the items of an array. -/
def ofJsonItems : List Json → List (Value σ)
  | [] => []
  | item :: others => ofJson item :: ofJsonItems others

/-- The values of the entries of an object. -/
def ofJsonEntries : List (String × Json) → List (String × Value σ)
  | [] => []
  | (key, value) :: others => (key, ofJson value) :: ofJsonEntries others

end

/-- A character within a JSON string. Quotes, backslashes and control characters are escaped. -/
def escapeChar (c : Char) : Text :=
  match c with
  | '"' => ['\\', '"']
  | '\\' => ['\\', '\\']
  | '\x08' => ['\\', 'b']
  | '\x0c' => ['\\', 'f']
  | '\n' => ['\\', 'n']
  | '\r' => ['\\', 'r']
  | '\t' => ['\\', 't']
  | _ =>
    if c.toNat < 32 then
      ['\\', 'u', '0', '0', Nat.digitChar (c.toNat / 16), Nat.digitChar (c.toNat % 16)]
    else [c]

/-- A text as a JSON string. -/
def quoteText (text : Text) : Text :=
  '"' :: text.flatMap escapeChar ++ ['"']

mutual

/-- The compact JSON text of a value. -/
def jsonText : Value σ → Text
  | null => "null".toList
  | bool b => if b then "true".toList else "false".toList
  | int n => Digits.ofInt n.toInt
  | float x => FloatText.json x
  | list items => '[' :: jsonItems items ++ [']']
  | map entries => '{' :: jsonEntries entries ++ ['}']
  | decimal d => quoteText d.display
  | string s => quoteText s.toList
  | date d => quoteText (Calendar.showDate d)
  | dateTime t => quoteText (Calendar.showDateTime t)
  | object o => quoteText o.shown.toList
  | function f => quoteText (f.name.toList ++ ['(', ')'])

/-- The JSON texts of the items with commas between them. -/
def jsonItems : List (Value σ) → Text
  | [] => []
  | [item] => item.jsonText
  | item :: others => item.jsonText ++ ',' :: jsonItems others

/-- The keys and JSON texts of the entries with commas between them. -/
def jsonEntries : List (String × Value σ) → Text
  | [] => []
  | [(key, value)] => quoteText key.toList ++ ':' :: value.jsonText
  | (key, value) :: others =>
    quoteText key.toList ++ ':' :: value.jsonText ++ ',' :: jsonEntries others

end

end TextTemplate.Value
