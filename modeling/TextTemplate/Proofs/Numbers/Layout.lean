import Mathlib.Data.List.DropRight
import Mathlib.Data.List.TakeWhile
import TextTemplate.Proofs.Numbers.FinalDigits
import TextTemplate.Proofs.Numbers.Rounding
import TextTemplate.Proofs.Numbers.Shape

/-!
# Numbers that are laid out

A layout says how many digits a number shows before and behind the point, and whether they are
grouped. What is shown of a decimal depends on the number it denotes and not on its scale: on its
sign and on how many units of the last place it is rounded to (`lay_eq`). The text has the shape that
the layout asks for, and read as a number it is the rounded one (`lay_shape`).
-/

namespace TextTemplate.NumberPattern

/-! ## Grouping digits -/

theorem groupDigits_of_short {digits : Text} (few : digits.length ≤ 3) :
    groupDigits digits = digits := by
  match digits with
  | [] => rfl
  | [_] => rfl
  | [_, _] => rfl
  | [_, _, _] => rfl
  | _ :: _ :: _ :: _ :: rest =>
      simp only [List.length_cons] at few
      omega

theorem groupDigits_append {front back : Text} (nonempty : front ≠ []) (three : back.length = 3) :
    groupDigits (front ++ back) = groupDigits front ++ ',' :: back := by
  induction front with
  | nil => contradiction
  | cons digit front ih =>
      have behind : front ++ back ≠ [] := by
        intro both
        simp_all
      cases front with
      | nil =>
          have few := groupDigits_of_short (Nat.le_of_eq three)
          simp_all [groupDigits]
      | cons next front =>
          have length : (next :: front ++ back).length % 3 = (next :: front).length % 3 := by
            simp only [List.length_append, three]
            omega
          rw [List.cons_append, groupDigits, length, ih (by simp)]
          simp only [groupDigits]
          split <;> simp_all

theorem grouped_groupDigits (digits : Text) : Grouped digits (groupDigits digits) := by
  -- The comma in front of the last group is the last one, so the digits are taken from the right.
  induction measure : digits.length using Nat.strongRecOn generalizing digits with
  | ind length ih =>
      by_cases few : digits.length ≤ 3
      · rw [groupDigits_of_short few]
        exact .short few
      · have three : (digits.drop (length - 3)).length = 3 := by
          simp only [List.length_drop]
          omega
        have nonempty : digits.take (length - 3) ≠ [] := by
          apply List.ne_nil_of_length_pos
          simp only [List.length_take]
          omega
        have before : (digits.take (length - 3)).length < length := by
          simp only [List.length_take]
          omega
        have grouped := ih _ before (digits.take (length - 3)) rfl
        rw [← List.take_append_drop (length - 3) digits, groupDigits_append nonempty three]
        exact .more nonempty three grouped

/-! ## Leading and trailing zeros -/

/-- The digits before the point as a layout asks for them. -/
def wholeDigits (layout : Layout) (digits : Text) : Text :=
  let bare := digits.dropWhile (· == '0')
  List.replicate (layout.wholeMin - bare.length) '0' ++ bare

theorem ofDigitChars_dropWhile (digits : Text) :
    Nat.ofDigitChars 10 (digits.dropWhile (· == '0')) 0 = Nat.ofDigitChars 10 digits 0 := by
  induction digits with
  | nil => rfl
  | cons c digits ih =>
      by_cases zero : c = '0'
      · simp [zero, ih, Nat.ofDigitChars_cons]
      · simp [zero]

theorem ofDigitChars_wholeDigits (layout : Layout) (digits : Text) :
    Nat.ofDigitChars 10 (wholeDigits layout digits) 0 = Nat.ofDigitChars 10 digits 0 := by
  simp [wholeDigits, Nat.ofDigitChars_append, Nat.ofDigitChars_replicate_zero,
    ofDigitChars_dropWhile]

theorem isDigit_of_mem_wholeDigits {layout : Layout} {digits : Text} {c : Char}
    (isDigit : ∀ c ∈ digits, c.isDigit = true) (inside : c ∈ wholeDigits layout digits) :
    c.isDigit = true := by
  rcases List.mem_append.mp inside with zero | bare
  · rw [List.eq_of_mem_replicate zero]
    rfl
  · exact isDigit c ((List.dropWhile_sublist _).subset bare)

/-- More digits than asked for do not begin with a zero. -/
theorem head?_wholeDigits {layout : Layout} {digits : Text}
    (more : layout.wholeMin < (wholeDigits layout digits).length) :
    (wholeDigits layout digits).head? ≠ some '0' := by
  unfold wholeDigits at more ⊢
  have bare : layout.wholeMin - (digits.dropWhile (· == '0')).length = 0 := by
    simp only [List.length_append, List.length_replicate] at more
    omega
  intro zero
  have first := List.head?_dropWhile_not (· == '0') digits
  simp only [bare, List.replicate_zero, List.nil_append] at zero
  rw [zero] at first
  contradiction

theorem fractionValue_append_zeros (digits : Text) (zeros : ℕ) :
    fractionValue (digits ++ List.replicate zeros '0') = fractionValue digits := by
  simp only [fractionValue, Nat.ofDigitChars_append, Nat.ofDigitChars_replicate_zero,
    List.length_append, List.length_replicate, pow_add]
  push_cast
  field_simp

theorem layFraction_padded {layout : Layout} {digits : Text}
    (few : digits.length ≤ layout.fractionMax) :
    layFraction layout digits = layFraction layout
      (digits ++ List.replicate (layout.fractionMax - digits.length) '0') := by
  have room : digits.length + (layout.fractionMax - digits.length) = layout.fractionMax := by omega
  simp [layFraction, room]

theorem layFraction_eq {layout : Layout} {digits : Text}
    (full : digits.length = layout.fractionMax) :
    layFraction layout digits = digits.take layout.fractionMin ++
      (digits.drop layout.fractionMin).rdropWhile (· == '0') := by
  simp [layFraction, full, List.rdropWhile]

/-- What a layout drops of a fraction are zeros. -/
theorem layFraction_append_zeros {layout : Layout} {digits : Text}
    (full : digits.length = layout.fractionMax) :
    ∃ zeros, layFraction layout digits ++ List.replicate zeros '0' = digits := by
  -- Zeros behind the digits that must stay are taken from the right, so they can be put back there.
  have dropped : (digits.drop layout.fractionMin).rtakeWhile (· == '0') =
      List.replicate ((digits.drop layout.fractionMin).rtakeWhile (· == '0')).length '0' := by
    apply List.eq_replicate_of_mem
    intro c inside
    simpa using List.mem_rtakeWhile_imp inside
  refine ⟨((digits.drop layout.fractionMin).rtakeWhile (· == '0')).length, ?_⟩
  rw [layFraction_eq full, List.append_assoc, ← dropped, List.rdropWhile_append_rtakeWhile,
    List.take_append_drop]

/-- More digits than asked for do not end with a zero. -/
theorem getLast?_layFraction {layout : Layout} {digits : Text}
    (full : digits.length = layout.fractionMax)
    (more : layout.fractionMin < (layFraction layout digits).length) :
    (layFraction layout digits).getLast? ≠ some '0' := by
  rw [layFraction_eq full] at more ⊢
  have kept : (digits.drop layout.fractionMin).rdropWhile (· == '0') ≠ [] := by
    intro none_kept
    simp only [none_kept, List.append_nil, List.length_take] at more
    omega
  have last := List.rdropWhile_last_not _ _ kept
  rw [List.getLast?_append_of_ne_nil _ kept, List.getLast?_eq_some_getLast kept]
  intro zero
  rw [Option.some.inj zero] at last
  contradiction

/-! ## The digits of a decimal -/

/-- The shape of so many units. -/
def Shape.ofUnits (layout : Layout) (ordered : layout.fractionMin ≤ layout.fractionMax)
    (negative : Bool) (units : ℕ) : Shape layout where
  negative := negative && units != 0
  digits := wholeDigits layout (Digits.ofNat (units / 10 ^ layout.fractionMax))
  whole := layWhole layout (Digits.ofNat (units / 10 ^ layout.fractionMax))
  fraction := layFraction layout (Digits.final layout.fractionMax units)
  isDigit_digits := by
    intro c
    exact isDigit_of_mem_wholeDigits fun _ => Digits.isDigit_of_mem_ofNat
  wholeMin_le := by
    simp only [wholeDigits, List.length_append, List.length_replicate]
    omega
  noneLeading := head?_wholeDigits
  grouping := by
    split
    · simp only [layWhole, *, if_true]
      exact grouped_groupDigits _
    · simp [layWhole, *, wholeDigits]
  isDigit_fraction := by
    intro c inside
    rcases layFraction_append_zeros (Digits.length_final layout.fractionMax units) with ⟨zeros, all⟩
    have shown : c ∈ Digits.final layout.fractionMax units := by
      rw [← all]
      exact List.mem_append_left _ inside
    exact Digits.isDigit_of_mem_final shown
  fractionMin_le := by
    rw [layFraction_eq (Digits.length_final layout.fractionMax units)]
    simp
    omega
  le_fractionMax := by
    rcases layFraction_append_zeros (Digits.length_final layout.fractionMax units) with ⟨zeros, all⟩
    have total := congrArg List.length all
    simp at total
    omega
  noneTrailing := getLast?_layFraction (Digits.length_final layout.fractionMax units)

theorem Shape.value_ofUnits (layout : Layout) (ordered : layout.fractionMin ≤ layout.fractionMax)
    (negative : Bool) (units : ℕ) :
    value (ofUnits layout ordered negative units).text =
      (if negative then -1 else 1) * (units / 10 ^ layout.fractionMax) := by
  have fraction : fractionValue (layFraction layout (Digits.final layout.fractionMax units)) =
      (units % 10 ^ layout.fractionMax : ℕ) / 10 ^ layout.fractionMax := by
    rcases layFraction_append_zeros (Digits.length_final layout.fractionMax units) with ⟨zeros, all⟩
    rw [← fractionValue_append_zeros _ zeros, all, fractionValue, Digits.ofDigitChars_final,
      Digits.length_final]
  have whole : Nat.ofDigitChars 10
      (wholeDigits layout (Digits.ofNat (units / 10 ^ layout.fractionMax))) 0 =
        units / 10 ^ layout.fractionMax := by
    rw [ofDigitChars_wholeDigits, Digits.ofNat, Nat.ofDigitChars_ten_toDigits]
  -- Whole part and fraction are quotient and remainder of the units.
  have parted : ((units / 10 ^ layout.fractionMax : ℕ) : ℚ) +
      (units % 10 ^ layout.fractionMax : ℕ) / 10 ^ layout.fractionMax =
        units / 10 ^ layout.fractionMax := by
    have total : ((10 ^ layout.fractionMax * (units / 10 ^ layout.fractionMax) +
        units % 10 ^ layout.fractionMax : ℕ) : ℚ) = units := by
      exact_mod_cast Nat.div_add_mod units (10 ^ layout.fractionMax)
    push_cast at total
    field_simp
    linarith
  rw [Shape.value_text]
  simp only [ofUnits, fraction, whole, parted]
  by_cases zero : units = 0
  · simp [zero]
  · simp [zero]

theorem wholeDigits_round (d : Decimal) (places : ℕ) :
    (d.round .awayFromZero places).wholeDigits =
      Digits.ofNat (Decimal.units places d.toRat / 10 ^ places) := by
  have scale_le := d.scale_round_le .awayFromZero places
  have power : 10 ^ places = 10 ^ (d.round .awayFromZero places).scale *
      10 ^ (places - (d.round .awayFromZero places).scale) := by
    rw [← pow_add, Nat.add_sub_cancel' scale_le]
  rw [Decimal.units_toRat, power, Nat.mul_div_mul_right _ _ (by positivity)]
  rfl

theorem layFraction_round (layout : Layout) (d : Decimal) :
    layFraction layout (d.round .awayFromZero layout.fractionMax).fractionDigits =
      layFraction layout
        (Digits.final layout.fractionMax (Decimal.units layout.fractionMax d.toRat)) := by
  have scale_le := d.scale_round_le .awayFromZero layout.fractionMax
  rw [Decimal.fractionDigits_eq, layFraction_padded (by simpa using scale_le), Digits.length_final,
    Digits.final_append_zeros, Nat.add_sub_cancel' scale_le, Decimal.units_toRat]

/-- What is shown of a decimal depends on its sign and on the units that it is rounded to. -/
theorem lay_eq {layout : Layout} (ordered : layout.fractionMin ≤ layout.fractionMax) (d : Decimal) :
    lay layout d = (Shape.ofUnits layout ordered (decide (d.toRat < 0))
      (Decimal.units layout.fractionMax d.toRat)).text := by
  -- A decimal that is rounded to nought may have kept its sign, but then it is not shown.
  have signs : ((d.round .awayFromZero layout.fractionMax).negative &&
      !(d.round .awayFromZero layout.fractionMax).isZero) =
        (decide (d.toRat < 0) && Decimal.units layout.fractionMax d.toRat != 0) := by
    by_cases visible : Decimal.units layout.fractionMax d.toRat = 0
    · have zero := (Decimal.isZero_round d layout.fractionMax).mpr visible
      simp [visible, zero]
    · have nonzero := mt (Decimal.isZero_round d layout.fractionMax).mp visible
      simp [visible, nonzero, Decimal.negative_round visible]
  simp only [lay, signs, wholeDigits_round, layFraction_round, Shape.text, Shape.ofUnits]
  generalize (decide (d.toRat < 0) && Decimal.units layout.fractionMax d.toRat != 0) = signed
  generalize layFraction layout _ = fraction
  cases signed <;> cases fraction <;> simp [sign, pointed]

/-- Equal numbers are shown alike, whatever their scales are. -/
theorem lay_congr {layout : Layout} (ordered : layout.fractionMin ≤ layout.fractionMax)
    {left right : Decimal} (same : left.toRat = right.toRat) : lay layout left = lay layout right := by
  rw [lay_eq ordered, lay_eq ordered, same]

/-- A decimal is shown in the shape that the layout asks for, with a minus sign if it is negative
after rounding, and what is shown is the exactly rounded number. -/
theorem lay_shape (layout : Layout) (ordered : layout.fractionMin ≤ layout.fractionMax)
    (d : Decimal) :
    ∃ shape : Shape layout, lay layout d = shape.text ∧
      (shape.negative = true ↔ Decimal.rounded layout.fractionMax d.toRat < 0) ∧
      value (lay layout d) = Decimal.rounded layout.fractionMax d.toRat := by
  refine ⟨Shape.ofUnits layout ordered (decide (d.toRat < 0))
    (Decimal.units layout.fractionMax d.toRat), lay_eq ordered d, ?_, ?_⟩
  · rw [Decimal.rounded_neg_iff]
    simp [Shape.ofUnits]
  · rw [lay_eq ordered, Shape.value_ofUnits, Decimal.rounded]
    simp

/-- A fraction that is carried into a fourth digit of the whole part, of which no digit is asked for,
and loses a zero. -/
theorem lay_shape_carried :
    let layout : Layout := ⟨0, 1, 2, true⟩
    let d : Decimal := ⟨true, 999995, 3, by decide, by decide⟩
    layout.fractionMin ≤ layout.fractionMax ∧ lay layout d = "-1,000.0".toList ∧
      ∃ shape : Shape layout, lay layout d = shape.text ∧
        (shape.negative = true ↔ Decimal.rounded layout.fractionMax d.toRat < 0) ∧
        value (lay layout d) = Decimal.rounded layout.fractionMax d.toRat := by
  intro layout d
  have ordered : layout.fractionMin ≤ layout.fractionMax := by decide
  exact ⟨ordered, by decide +kernel, lay_shape layout ordered d⟩

end TextTemplate.NumberPattern
