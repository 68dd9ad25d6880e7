import Mathlib.Algebra.Order.Field.Rat
import TextTemplate.Number.Pattern
import TextTemplate.Proofs.Cutting

/-!
# Written numbers

A number that is shown as a layout asks for has a shape: a sign, digits that may stand in groups of
three, and digits behind a point. Which text may stand for which digits is said without the functions
that lay a number out (`Grouped`, `Shape`), and reading the text of a shape gives the number of its
digits back (`Shape.value_text`).
-/

namespace TextTemplate.NumberPattern

/-! ## Groups of three digits -/

/-- Digits, and how they are shown with a comma between groups of three that are counted from the
right. -/
inductive Grouped : Text → Text → Prop
  | short {digits : Text} (few : digits.length ≤ 3) : Grouped digits digits
  | more {front back shown : Text} (nonempty : front ≠ []) (three : back.length = 3)
      (grouped : Grouped front shown) : Grouped (front ++ back) (shown ++ ',' :: back)

theorem filter_of_plain {text : Text} (plain : ',' ∉ text) : text.filter (· != ',') = text := by
  apply List.filter_eq_self.mpr
  intro c inside
  simpa using ne_of_mem_of_not_mem inside plain

theorem Grouped.filter {digits shown : Text} (grouped : Grouped digits shown)
    (plain : ',' ∉ digits) : shown.filter (· != ',') = digits := by
  induction grouped with
  | short few => exact filter_of_plain plain
  | more nonempty three grouped ih =>
      simp only [List.mem_append, not_or] at plain
      simp [ih plain.1, filter_of_plain plain.2]

theorem Grouped.mem {digits shown : Text} (grouped : Grouped digits shown) {c : Char}
    (inside : c ∈ shown) : c = ',' ∨ c ∈ digits := by
  induction grouped with
  | short few => exact .inr inside
  | more nonempty three grouped ih =>
      simp only [List.mem_append, List.mem_cons] at inside ⊢
      rcases inside with front | rfl | back
      · rcases ih front with rfl | found
        · exact .inl rfl
        · exact .inr (.inl found)
      · exact .inl rfl
      · exact .inr (.inr back)

/-! ## Reading a number that is laid out -/

/-- The number that digits stand for, commas not counting. -/
def wholeValue (shown : Text) : ℕ :=
  Nat.ofDigitChars 10 (shown.filter (· != ',')) 0

/-- The number that digits stand for behind the point. -/
def fractionValue (digits : Text) : ℚ :=
  Nat.ofDigitChars 10 digits 0 / 10 ^ digits.length

/-- The number that is written without a sign. No digits before the point are nought. -/
def unsignedValue (text : Text) : ℚ :=
  match Text.cutAt? '.' text with
  | some (whole, fraction) => wholeValue whole + fractionValue fraction
  | none => wholeValue text

/-- The number that is written. -/
def value : Text → ℚ
  | '-' :: text => -unsignedValue text
  | text => unsignedValue text

/-- The parts of a number that is shown as its layout asks for. -/
structure Shape (layout : Layout) where
  negative : Bool
  digits : Text
  whole : Text
  fraction : Text
  isDigit_digits : ∀ c ∈ digits, c.isDigit = true
  wholeMin_le : layout.wholeMin ≤ digits.length
  noneLeading : layout.wholeMin < digits.length → digits.head? ≠ some '0'
  grouping : if layout.grouped then Grouped digits whole else whole = digits
  isDigit_fraction : ∀ c ∈ fraction, c.isDigit = true
  fractionMin_le : layout.fractionMin ≤ fraction.length
  le_fractionMax : fraction.length ≤ layout.fractionMax
  noneTrailing : layout.fractionMin < fraction.length → fraction.getLast? ≠ some '0'

/-- The sign of a number. -/
def sign : Bool → Text
  | true => ['-']
  | false => []

/-- The point with the digits behind it, nothing if there are none. -/
def pointed : Text → Text
  | [] => []
  | c :: digits => '.' :: c :: digits

theorem mem_pointed {digits : Text} {c : Char} (inside : c ∈ pointed digits) :
    c = '.' ∨ c ∈ digits := by
  cases digits with
  | nil => simp [pointed] at inside
  | cons digit digits => simpa [pointed] using inside

namespace Shape

variable {layout : Layout}

/-- The text that shows the parts. -/
def text (shape : Shape layout) : Text :=
  sign shape.negative ++ shape.whole ++ pointed shape.fraction

theorem mem_whole (shape : Shape layout) {c : Char} (inside : c ∈ shape.whole) :
    c = ',' ∨ c.isDigit = true := by
  have grouping := shape.grouping
  split at grouping
  · rcases grouping.mem inside with comma | digit
    · exact .inl comma
    · exact .inr (shape.isDigit_digits c digit)
  · rw [grouping] at inside
    exact .inr (shape.isDigit_digits c inside)

theorem filter_whole (shape : Shape layout) : shape.whole.filter (· != ',') = shape.digits := by
  have plain : ',' ∉ shape.digits := by
    intro comma
    have digit := shape.isDigit_digits ',' comma
    contradiction
  have grouping := shape.grouping
  split at grouping
  · exact grouping.filter plain
  · rw [grouping]
    exact filter_of_plain plain

theorem wholeValue_whole (shape : Shape layout) :
    wholeValue shape.whole = Nat.ofDigitChars 10 shape.digits 0 := by
  rw [wholeValue, filter_whole]

theorem unsignedValue_text (shape : Shape layout) :
    unsignedValue (shape.whole ++ pointed shape.fraction) =
      Nat.ofDigitChars 10 shape.digits 0 + fractionValue shape.fraction := by
  have noPoint : '.' ∉ shape.whole := by
    intro point
    rcases shape.mem_whole point with comma | digit <;> contradiction
  cases shape.fraction with
  | nil => simp [pointed, unsignedValue, Text.cutAt?_eq_none.mpr noPoint, wholeValue_whole, fractionValue]
  | cons c digits => simp [pointed, unsignedValue, Text.cutAt?_append noPoint, wholeValue_whole]

theorem value_of_unsigned {text : Text} (unsigned : '-' ∉ text) : value text = unsignedValue text := by
  unfold value
  split
  · simp at unsigned
  · rfl

/-- Reading the text gives the number that the digits stand for. -/
theorem value_text (shape : Shape layout) :
    value shape.text = (if shape.negative then -1 else 1) *
      (Nat.ofDigitChars 10 shape.digits 0 + fractionValue shape.fraction) := by
  rw [← unsignedValue_text]
  cases signed : shape.negative with
  | true => simp [text, signed, sign, value]
  | false =>
      have noSign : '-' ∉ shape.text := by
        intro minus
        simp only [text, signed, sign, List.nil_append, List.mem_append] at minus
        rcases minus with whole | fraction
        · rcases shape.mem_whole whole with comma | digit <;> contradiction
        · rcases mem_pointed fraction with point | behind
          · contradiction
          · have digit := shape.isDigit_fraction '-' behind
            contradiction
      rw [value_of_unsigned noSign]
      simp [text, signed, sign]

end Shape

end TextTemplate.NumberPattern
