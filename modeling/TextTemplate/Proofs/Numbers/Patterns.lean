import TextTemplate.Helper.Builtin
import TextTemplate.Proofs.Blanks
import TextTemplate.Proofs.Numbers.Layout

/-!
# Numbers after a pattern

Whatever the pattern, a number that is shown has a digit, with one exception: a pattern that asks for
a whole number of no digits leaves nothing of nought (`Builtin.formatNumber?_digit`). Percent shows
what a hundred times the number shows, exactly, and declines if that is too large for a decimal
(`Builtin.formatNumber?_percent`).
-/

namespace TextTemplate

namespace NumberPattern

/-! ## Digits that are shown -/

theorem Grouped.eq_nil {digits shown : Text} (grouped : Grouped digits shown) (none : digits = []) :
    shown = [] := by
  cases grouped with
  | short few => exact none
  | more nonempty three grouped => exact absurd (List.append_eq_nil_iff.mp none).1 nonempty

namespace Shape

variable {layout : Layout}

theorem exists_digit {shape : Shape layout}
    (nonempty : shape.digits ≠ [] ∨ shape.fraction ≠ []) : ∃ c ∈ shape.text, c.isDigit = true := by
  rcases nonempty with digits | fraction
  · rcases List.exists_mem_of_ne_nil _ digits with ⟨c, inside⟩
    have digit := shape.isDigit_digits c inside
    rw [← shape.filter_whole] at inside
    refine ⟨c, ?_, digit⟩
    simp [text, (List.mem_filter.mp inside).1]
  · rcases List.exists_cons_of_ne_nil fraction with ⟨c, behind, shown⟩
    refine ⟨c, ?_, shape.isDigit_fraction c ?_⟩
    · simp [text, shown, pointed]
    · simp [shown]

theorem whole_eq_nil {shape : Shape layout} (none : shape.digits = []) : shape.whole = [] := by
  have grouping := shape.grouping
  split at grouping
  · exact grouping.eq_nil none
  · rw [grouping, none]

end Shape

/-- A number that is laid out without any digit is nought, and the layout asks for no digit before
the point. -/
theorem lay_digit_or_empty (layout : Layout) (ordered : layout.fractionMin ≤ layout.fractionMax)
    (d : Decimal) :
    (∃ c ∈ lay layout d, c.isDigit = true) ∨
      lay layout d = [] ∧ layout.wholeMin = 0 ∧ Decimal.units layout.fractionMax d.toRat = 0 := by
  rcases lay_shape layout ordered d with ⟨shape, shown, negative, number⟩
  by_cases nonempty : shape.digits ≠ [] ∨ shape.fraction ≠ []
  · left
    rw [shown]
    exact shape.exists_digit nonempty
  · right
    simp only [not_or, not_not] at nonempty
    rcases nonempty with ⟨noDigits, noFraction⟩
    have zero : Decimal.rounded layout.fractionMax d.toRat = 0 := by
      rw [← number, shown, shape.value_text, noDigits, noFraction]
      simp [fractionValue]
    have unsigned : shape.negative = false := by
      rw [← Bool.not_eq_true, negative, zero]
      exact lt_irrefl 0
    refine ⟨?_, ?_, ?_⟩
    · rw [shown, Shape.text, unsigned, shape.whole_eq_nil noDigits, noFraction]
      rfl
    · have few := shape.wholeMin_le
      rw [noDigits] at few
      exact Nat.le_zero.mp few
    · unfold Decimal.rounded at zero
      split at zero <;> simpa using zero

theorem lay_digit (layout : Layout) (positive : 0 < layout.wholeMin)
    (ordered : layout.fractionMin ≤ layout.fractionMax) (d : Decimal) :
    ∃ c ∈ lay layout d, c.isDigit = true := by
  rcases lay_digit_or_empty layout ordered d with digit | ⟨-, none, -⟩
  · exact digit
  · omega

/-- A pattern that asks for a whole number of no digits. -/
def AsksForNoDigit (pattern : Text) : Prop :=
  ∃ kind written, Text.trim pattern = kind :: written ∧ kind.toUpper = 'D' ∧
    Digits.places? written = some 0

theorem layoutOf_ordered (placeholders : Text) :
    (layoutOf placeholders).fractionMin ≤ (layoutOf placeholders).fractionMax := by
  apply List.countP_mono_left
  intro c inside zero
  simp_all [isPlaceholder]

theorem custom?_digit {d : Decimal} {pattern text : Text} (shown : custom? d pattern = some text) :
    ∃ c ∈ text, c.isDigit = true := by
  simp only [custom?, Option.bind_eq_bind, Option.bind_eq_some_iff, Option.some.injEq] at shown
  rcases shown with ⟨scaled, -, rfl⟩
  rcases lay_digit_or_empty _ (layoutOf_ordered (sections pattern).2.1) scaled with digit | empty
  · rcases digit with ⟨c, inside, digit⟩
    refine ⟨c, ?_, digit⟩
    split <;> simp [inside]
  · refine ⟨'0', ?_, rfl⟩
    simp [empty.1]

theorem precision?_eq_some {written : Text} {places : ℕ} :
    precision? written = some (some places) ↔ Digits.places? written = some places := by
  cases written <;> simp [precision?, Digits.places?, Digits.natural?, Digits.value?]

/-- A standard pattern leaves a digit, unless it asks for no digit of a number that is nought. -/
theorem standard?_digit {d : Decimal} {kind : Char} {written text : Text}
    (shown : standard? d (kind :: written) = some text) :
    (∃ c ∈ text, c.isDigit = true) ∨
      text = [] ∧ kind.toUpper = 'D' ∧ Digits.places? written = some 0 ∧ d.isZero = true := by
  simp only [standard?, Option.bind_eq_bind, Option.bind_eq_some_iff] at shown
  rcases shown with ⟨precision, reads, shown⟩
  split at shown
  case h_1 =>
    rcases Option.some.inj shown with rfl
    left
    exact lay_digit _ (by simp) (by simp) d
  case h_2 =>
    rcases Option.some.inj shown with rfl
    left
    exact lay_digit _ (by simp) (by simp) d
  case h_3 upper =>
    split at shown
    · rename_i whole
      rcases Option.some.inj shown with rfl
      rcases lay_digit_or_empty ⟨precision.getD 1, 0, 0, false⟩ (Nat.le_refl 0) d
        with digit | ⟨empty, wholeMin, none_left⟩
      · exact .inl digit
      · have asked : precision = some 0 := by
          cases precision with
          | none => contradiction
          | some places => simpa using wholeMin
        exact .inr ⟨empty, upper, precision?_eq_some.mp (asked ▸ reads),
          Decimal.isZero_of_isWhole whole none_left⟩
    · contradiction
  case h_4 =>
    rcases Option.map_eq_some_iff.mp shown with ⟨percent, -, rfl⟩
    rcases lay_digit ⟨1, precision.getD 2, precision.getD 2, true⟩ (by simp) (by simp)
      percent with ⟨c, inside, digit⟩
    exact .inl ⟨c, List.mem_append_left _ inside, digit⟩
  case h_5 => contradiction

/-- Nought leaves nothing if no digit of it is asked for. -/
theorem standard?_empty {d : Decimal} {kind : Char} {written : Text} (upper : kind.toUpper = 'D')
    (asked : Digits.places? written = some 0) (zero : d.isZero = true) :
    standard? d (kind :: written) = some [] := by
  have whole : d.isWhole = true := by
    rw [Decimal.isZero, beq_iff_eq] at zero
    simp [Decimal.isWhole, zero]
  have same : d.toRat = Decimal.zero.toRat := by
    rw [Decimal.toRat_eq_zero.mpr zero, Decimal.toRat_eq_zero.mpr rfl]
  have empty : lay ⟨0, 0, 0, false⟩ d = [] := by
    rw [lay_congr (Nat.le_refl 0) same]
    decide
  simp [standard?, precision?_eq_some.mpr asked, upper, whole, empty]

theorem isAlpha_of_toUpper {c d : Char} (upper : c.toUpper = d) (letter : d.isAlpha = true) :
    c.isAlpha = true := by
  have parted : c.isAlpha = (c.isUpper || c.isLower) := rfl
  by_cases lower : c.isLower = true
  · rw [parted, lower, Bool.or_true]
  · have kept : c.toUpper = c := by
      unfold Char.toUpper
      split
      · rename_i low
        have isLower : c.isLower = true := by
          apply Bool.and_eq_true_iff.mpr
          exact ⟨decide_eq_true low.1, decide_eq_true low.2⟩
        contradiction
      · rfl
    rw [← kept, upper]
    exact letter

theorem format?_letter {d : Decimal} {kind : Char} {pattern written : Text}
    (trimmed : Text.trim pattern = kind :: written) (letter : kind.isAlpha = true) :
    format? d pattern = standard? d (kind :: written) := by
  simp [format?, trimmed, letter]

theorem format?_digit_or_empty {d : Decimal} {pattern text : Text}
    (shown : format? d pattern = some text) :
    (∃ c ∈ text, c.isDigit = true) ∨
      text = [] ∧ AsksForNoDigit pattern ∧ d.isZero = true := by
  simp only [format?] at shown
  split at shown
  · exact .inl (custom?_digit shown)
  · cases trimmed : Text.trim pattern with
    | nil =>
        rw [trimmed] at shown
        contradiction
    | cons kind written =>
        rw [trimmed] at shown
        rcases standard?_digit shown with digit | ⟨empty, upper, asked, zero⟩
        · exact .inl digit
        · exact .inr ⟨empty, ⟨kind, written, trimmed, upper, asked⟩, zero⟩

theorem format?_empty {d : Decimal} {pattern : Text} (asked : AsksForNoDigit pattern)
    (zero : d.isZero = true) : format? d pattern = some [] := by
  rcases asked with ⟨kind, written, trimmed, upper, asked⟩
  rw [format?_letter trimmed (isAlpha_of_toUpper upper rfl)]
  exact standard?_empty upper asked zero

/-! ## Precisions -/

theorem precision?_of_readable {written : Text}
    (readable : written = [] ∨ ∃ places, Digits.places? written = some places) :
    ∃ precision, precision? written = some precision := by
  rcases readable with rfl | ⟨places, reads⟩
  · exact ⟨none, rfl⟩
  · exact ⟨some places, precision?_eq_some.mpr reads⟩

/-- A standard pattern has no blanks around it. -/
theorem trim_standard {kind : Char} {written : Text} (visible : Unicode.isBlank kind = false)
    (readable : written = [] ∨ ∃ places, Digits.places? written = some places) :
    Text.trim (kind :: written) = kind :: written := by
  apply Text.trim_of_visible
  intro c inside
  rcases List.mem_cons.mp inside with rfl | behind
  · exact visible
  · rcases readable with rfl | ⟨places, reads⟩
    · contradiction
    · exact Digits.visible_of_natural? reads behind

end NumberPattern

namespace Builtin

variable {σ : Type}

/-- A number that is shown has a digit. It leaves nothing exactly if it is nought and the pattern
asks for a whole number of no digits. -/
theorem formatNumber?_digit {value : Value σ} {pattern text : Text}
    (shown : formatNumber? value pattern = some text) :
    (text = [] ↔ NumberPattern.AsksForNoDigit pattern ∧
        ∃ d, decimal? value = some d ∧ d.isZero = true) ∧
      (text ≠ [] → ∃ c ∈ text, c.isDigit = true) := by
  rcases Option.bind_eq_some_iff.mp shown with ⟨d, number, formatted⟩
  refine ⟨⟨?_, ?_⟩, ?_⟩
  · intro empty
    rcases NumberPattern.format?_digit_or_empty formatted with ⟨c, inside, -⟩ | ⟨-, asked, zero⟩
    · simp [empty] at inside
    · exact ⟨asked, d, number, zero⟩
  · rintro ⟨asked, e, same, zero⟩
    rw [number, Option.some.injEq] at same
    subst same
    simpa [NumberPattern.format?_empty asked zero, eq_comm] using formatted
  · intro nonempty
    rcases NumberPattern.format?_digit_or_empty formatted with digit | ⟨empty, -⟩
    · exact digit
    · contradiction

/-- A small negative number rounds to nought, of which a custom pattern shows the digit nought. -/
theorem formatNumber?_digit_restored :
    let value : Value Empty := .decimal ⟨true, 4, 3, by decide, by decide⟩
    formatNumber? value "(#.##)".toList = some "(0)".toList ∧
      ("(0)".toList = [] ↔ NumberPattern.AsksForNoDigit "(#.##)".toList ∧
        ∃ d, decimal? value = some d ∧ d.isZero = true) ∧
      ("(0)".toList ≠ [] → ∃ c ∈ "(0)".toList, c.isDigit = true) := by
  intro value
  have shown : formatNumber? value "(#.##)".toList = some "(0)".toList := by decide +kernel
  exact ⟨shown, formatNumber?_digit shown⟩

/-- The integer nought has no digit after a pattern that asks for a whole number of no digits. -/
theorem formatNumber?_noDigit :
    ∃ text, formatNumber? (.int 0 : Value Empty) "D0".toList = some text ∧
      ¬∃ c ∈ text, c.isDigit = true := by
  refine ⟨[], by decide +kernel, ?_⟩
  simp

/-! ## Percent -/

/-- The rational number of an integer or a decimal. -/
def rational? : Value σ → Option ℚ
  | .int n => some n.toInt
  | .decimal d => some d.toRat
  | _ => none

theorem decimal?_of_rational? {value : Value σ} {number : ℚ} (exact : rational? value = some number) :
    ∃ d, decimal? value = some d ∧ d.toRat = number := by
  cases value with
  | int n =>
      rcases Option.some.inj exact with rfl
      exact ⟨Decimal.ofInt64 n, rfl, Decimal.toRat_ofInt64 n⟩
  | decimal d =>
      rcases Option.some.inj exact with rfl
      exact ⟨d, rfl, rfl⟩
  | _ => contradiction

/-- What the helpers make of a number that a pattern has no text for. -/
theorem declined {value : Value σ} {number : ℚ} (exact : rational? value = some number)
    {pattern : Text} (missing : formatNumber? value pattern = none) :
    format value (some pattern) = .ofText value.display ∧ Builtin.number value (some pattern) = value := by
  cases value with
  | int n => simp [format, Builtin.number, moment?, missing, Value.isNull, Value.isNumeric]
  | decimal d => simp [format, Builtin.number, moment?, missing, Value.isNull, Value.isNumeric]
  | _ => contradiction

/-- Percent shows a hundred times the number as a grouped number with a percent sign, exactly, and
declines only if that is no decimal. -/
theorem formatNumber?_percent {value : Value σ} {number : ℚ} (exact : rational? value = some number)
    {precision : Text} (readable : precision = [] ∨ ∃ places, Digits.places? precision = some places) :
    (formatNumber? value ('P' :: precision) = none ↔ ¬∃ d : Decimal, d.toRat = 100 * number) ∧
      (∀ d : Decimal, d.toRat = 100 * number → ∃ text,
        formatNumber? (.decimal d : Value σ) ('N' :: precision) = some text ∧
          formatNumber? value ('P' :: precision) = some (text ++ ['%'])) ∧
      (formatNumber? value ('P' :: precision) = none →
        format value (some ('P' :: precision)) = .ofText value.display ∧
          Builtin.number value (some ('P' :: precision)) = value) := by
  rcases decimal?_of_rational? exact with ⟨v, converted, rfl⟩
  rcases NumberPattern.precision?_of_readable readable with ⟨places, reads⟩
  have percent : formatNumber? value ('P' :: precision) = v.timesHundred?.map fun percent =>
      NumberPattern.lay ⟨1, places.getD 2, places.getD 2, true⟩ percent ++ ['%'] := by
    rw [formatNumber?, converted, Option.bind_some,
      NumberPattern.format?_letter (NumberPattern.trim_standard rfl readable) rfl]
    simp [NumberPattern.standard?, reads]
  refine ⟨?_, ?_, declined exact⟩
  · rw [percent, Option.map_eq_none_iff, Decimal.timesHundred?_eq_none]
  · intro d hundredfold
    refine ⟨NumberPattern.lay ⟨1, places.getD 2, places.getD 2, true⟩ d, ?_, ?_⟩
    · rw [formatNumber?, decimal?, Option.bind_some,
        NumberPattern.format?_letter (NumberPattern.trim_standard rfl readable) rfl]
      simp [NumberPattern.standard?, reads]
    · have present : v.timesHundred? ≠ none := by
        rw [Ne, Decimal.timesHundred?_eq_none, not_not]
        exact ⟨d, hundredfold⟩
      rcases Option.ne_none_iff_exists'.mp present with ⟨e, inRange⟩
      have same : e.toRat = d.toRat := by
        rw [Decimal.toRat_timesHundred? inRange, hundredfold]
      rw [percent, inRange, Option.map_some, NumberPattern.lay_congr (Nat.le_refl _) same]

/-- The greatest mantissa with two fraction digits has a hundredfold, with one it has none. -/
theorem formatNumber?_percent_widest :
    let v : Decimal := ⟨true, 79228162514264337593543950335, 2, by decide, by decide⟩
    let w : Decimal := ⟨true, 79228162514264337593543950335, 1, by decide, by decide⟩
    let hundredfold : Decimal := ⟨true, 79228162514264337593543950335, 0, by decide, by decide⟩
    (rational? (.decimal v : Value Empty) = some v.toRat ∧
        rational? (.decimal w : Value Empty) = some w.toRat ∧
        Digits.places? ['1'] = some 1 ∧ hundredfold.toRat = 100 * v.toRat) ∧
      (∃ text, formatNumber? (.decimal hundredfold : Value Empty) ['N', '1'] = some text ∧
        formatNumber? (.decimal v : Value Empty) ['P', '1'] = some (text ++ ['%'])) ∧
      (¬∃ d : Decimal, d.toRat = 100 * w.toRat) ∧
      format (.decimal w : Value Empty) (some ['P', '1']) =
        .ofText "-7922816251426433759354395033.5".toList ∧
      Builtin.number (.decimal w : Value Empty) (some ['P', '1']) = .decimal w := by
  intro v w hundredfold
  have reads : Digits.places? ['1'] = some 1 := by decide
  have same : hundredfold.toRat = 100 * v.toRat := by
    simp only [Decimal.toRat, hundredfold, v]
    norm_num
  have exact : ∀ d : Decimal, rational? (.decimal d : Value Empty) = some d.toRat := fun _ => rfl
  have present := formatNumber?_percent (exact v) (.inr ⟨1, reads⟩)
  have absent := formatNumber?_percent (exact w) (.inr ⟨1, reads⟩)
  have missing : formatNumber? (.decimal w : Value Empty) ['P', '1'] = none := by decide +kernel
  have shown : (.decimal w : Value Empty).display = "-7922816251426433759354395033.5".toList := by
    decide +kernel
  rw [← shown]
  exact ⟨⟨rfl, rfl, reads, same⟩, present.2.1 hundredfold same, absent.1.mp missing,
    (absent.2.2 missing).1, (absent.2.2 missing).2⟩

end Builtin

end TextTemplate
