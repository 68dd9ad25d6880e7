import TextTemplate.Calendar.Directive
import TextTemplate.Calendar.Reading
import TextTemplate.Helper.WordCase
import TextTemplate.Number.DecimalOfFloat
import TextTemplate.Number.Pattern
import TextTemplate.Value.Json
import TextTemplate.Value.Order

/-!
# Built-in helpers

The helpers that every template can use. A helper takes a value and an optional argument. Text
helpers work on the text of any value but null, number helpers and collection helpers leave values
of other kinds as they are, and an argument that does not say what it should leaves the value as it
is too.
-/

namespace TextTemplate

/-- A helper that cannot fail. -/
abbrev Builtin (σ : Type) : Type :=
  Value σ → Option Text → Value σ

namespace Builtin

variable {σ : Type}

/-! ## Text -/

/-- Applies a function to the text of a value; null stays null. -/
def mapText (change : Text → Text) : Value σ → Value σ
  | .null => .null
  | value => .ofText (change value.display)

/-- The text with its first character in upper case. -/
def capitalizeText : Text → Text
  | [] => []
  | c :: rest => Unicode.upperChar c ++ rest

/-- At most `limit` characters, the last three being dots where something was cut off. -/
def truncateText (limit : Nat) (text : Text) : Text :=
  if text.length ≤ limit then text else text.take (limit - 3) ++ ['.', '.', '.']

/-- Cuts a text to a length. -/
def truncate : Builtin σ := fun value argument =>
  match argument.bind fun written => Digits.size? (Text.trim written) with
  | some limit => mapText (truncateText limit) value
  | none => value

/-- The text with every occurrence of `old` replaced, from left to right. The first number bounds
the steps. -/
def replaceWithin (old new : Text) : Nat → Text → Text
  | 0, text => text
  | steps + 1, text =>
    match Text.cut? old text with
    | some (before, after) => before ++ new ++ replaceWithin old new steps after
    | none => text

/-- The text with every occurrence of `old` replaced, from left to right. -/
def replaceText (old new text : Text) : Text :=
  replaceWithin old new text.length text

/-- Replaces the text before the first comma of the argument by the text behind it. -/
def replace : Builtin σ := fun value argument =>
  match argument with
  | none => value
  | some written =>
    let (old, new) := (Text.cutAt? ',' written).getD (written, [])
    if old = [] then value else mapText (replaceText old new) value

/-- The width and the character that an argument asks to pad with. -/
def padding? (argument : Option Text) : Option (Nat × Char) := do
  let written ← argument
  let (width, fill) := match Text.cutAt? ',' written with
    | some (width, fill) => (width, fill.headD ' ')
    | none => (written, ' ')
  let width ← Digits.size? (Text.trim width)
  some (width, fill)

/-- Pads a text on the left. -/
def padLeft : Builtin σ := fun value argument =>
  match padding? argument with
  | some (width, fill) =>
    mapText (fun text => List.replicate (width - text.length) fill ++ text) value
  | none => value

/-- Pads a text on the right. -/
def padRight : Builtin σ := fun value argument =>
  match padding? argument with
  | some (width, fill) =>
    mapText (fun text => text ++ List.replicate (width - text.length) fill) value
  | none => value

/-! ## Numbers and dates -/

/-- The decimal of a numeric value. -/
def decimal? : Value σ → Option Decimal
  | .int n => some (.ofInt64 n)
  | .float x => Decimal.ofFloat? x
  | .decimal d => some d
  | _ => none

/-- The moment of a date, with or without a time. -/
def moment? : Value σ → Option DateTime
  | .date d => some ⟨d, .midnight⟩
  | .dateTime t => some t
  | _ => none

/-- The text of a value after a number pattern. -/
def formatNumber? (value : Value σ) (pattern : Text) : Option Text :=
  (decimal? value).bind fun number => NumberPattern.format? number pattern

/-- Formats dates and numbers after a pattern; other values become their text. -/
def format : Builtin σ := fun value argument =>
  match argument with
  | none => .ofText value.display
  | some pattern =>
    match moment? value with
    | some moment => .ofText (Calendar.format moment pattern)
    | none =>
      match formatNumber? value pattern with
      | some text => .ofText text
      | none => if value.isNull then .null else .ofText value.display

/-- Formats dates and texts that denote dates. -/
def date : Builtin σ := fun value argument =>
  let moment := match value with
    | .string s => Calendar.read? s.toList
    | _ => moment? value
  match moment with
  | some moment => .ofText (Calendar.format moment (argument.getD "yyyy-MM-dd".toList))
  | none => value

/-- Formats numbers. -/
def number : Builtin σ := fun value argument =>
  if !value.isNumeric then value
  else
    match formatNumber? value (argument.getD "N2".toList) with
    | some text => .ofText text
    | none => value

/-- The whole number nearest to a floating-point number, the even one of two. The sign stays. -/
def roundFloat (x : Float) : Float :=
  let size := x.abs
  let below := size.floor
  let up : Bool :=
    0.5 < size - below || (size - below == 0.5 && (below / 2).floor != below / 2)
  let rounded := if up then below + 1 else below
  if FloatText.isNegative x then -rounded else rounded

/-- A floating-point number rounded to at most fifteen places. Numbers without a fraction and
numbers too large to be moved by the places stay. -/
def roundPlaces (x : Float) (places : Nat) : Float :=
  let factor := Float.ofScientific 1 false (min places 15)
  let scaled := x * factor
  if scaled.isNaN || scaled.isInf || 4503599627370496 ≤ x.abs then x
  else roundFloat scaled / factor

/-- Rounds numbers, halves going to the even neighbour. -/
def round : Builtin σ := fun value argument =>
  let places := (argument.bind fun written => Digits.places? (Text.trim written)).getD 0
  match value with
  | .float x => .float (roundPlaces x places)
  | .decimal d => .decimal (d.round .toEven places)
  | _ => value

/-- Rounds numbers down. -/
def floor : Builtin σ := fun value _ =>
  match value with
  | .float x => .float x.floor
  | .decimal d => .decimal d.floor
  | _ => value

/-- Rounds numbers up. -/
def ceiling : Builtin σ := fun value _ =>
  match value with
  | .float x => .float x.ceil
  | .decimal d => .decimal d.ceiling
  | _ => value

/-- The compact JSON text of a value. -/
def json : Builtin σ := fun value _ =>
  .ofText value.jsonText

/-! ## Collections -/

/-- The number of elements or characters; null has none and any other value is one. -/
def count : Builtin σ := fun value _ =>
  match value with
  | .null => .ofCount 0
  | .string s => .ofCount s.length
  | _ => .ofCount (value.size?.getD 1)

/-- The value of an optional character. -/
def ofChar? : Option Char → Value σ
  | some c => .ofText [c]
  | none => .null

/-- The value of an optional entry. -/
def ofEntry? : Option (String × Value σ) → Value σ
  | some (key, value) => .entry key value
  | none => .null

/-- The first element or character. -/
def first : Builtin σ := fun value _ =>
  match value with
  | .string s => ofChar? s.toList.head?
  | .list items => items.headD .null
  | .map entries => ofEntry? entries.head?
  | _ => value

/-- The last element or character. -/
def last : Builtin σ := fun value _ =>
  match value with
  | .string s => ofChar? s.toList.getLast?
  | .list items => items.getLastD .null
  | .map entries => ofEntry? entries.getLast?
  | _ => value

/-- The texts of the elements with the argument between them. -/
def join : Builtin σ := fun value argument =>
  let separator := argument.getD [',', ' ']
  match value with
  | .list items => .ofText (separator.intercalate (items.map Value.display))
  | .map entries => .ofText (separator.intercalate (entries.map fun entry => entry.2.display))
  | _ => value

/-- The elements or characters in reverse order. -/
def reverse : Builtin σ := fun value _ =>
  match value with
  | .string s => .ofText s.toList.reverse
  | .list items => .list items.reverse
  | _ => value

/-! ## Choices -/

/-- The argument in place of a blank value. -/
def default : Builtin σ := fun value argument =>
  if value.isBlank then .ofText (argument.getD []) else value

/-- One of two labels, for values that are truthy and for those that are not. -/
def yesNo : Builtin σ := fun value argument =>
  let (yes, no) := match argument with
    | some labels => (Text.cutAt? ',' labels).getD (labels, "No".toList)
    | none => ("Yes".toList, "No".toList)
  .ofText (if value.isTruthy then yes else no)

/-- A text helper without an argument. -/
def plain (change : Text → Text) : Builtin σ := fun value _ =>
  mapText change value

/-- The names of the built-in helpers and what they do. -/
def table : List (String × Builtin σ) := [
  ("upper", plain Unicode.upper),
  ("lower", plain Unicode.lower),
  ("trim", plain Text.trim),
  ("capitalize", plain capitalizeText),
  ("camelcase", plain WordCase.camel),
  ("pascalcase", plain WordCase.pascal),
  ("truncate", truncate),
  ("replace", replace),
  ("padleft", padLeft),
  ("padright", padRight),
  ("format", format),
  ("date", date),
  ("number", number),
  ("round", round),
  ("floor", floor),
  ("ceiling", ceiling),
  ("json", json),
  ("count", count),
  ("first", first),
  ("last", last),
  ("join", join),
  ("reverse", reverse),
  ("default", default),
  ("ifempty", default),
  ("yesno", yesNo),
  ("ceil", ceiling),
  ("length", count)]

end Builtin

end TextTemplate
