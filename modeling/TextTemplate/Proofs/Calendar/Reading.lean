import TextTemplate.Helper.Builtin
import TextTemplate.Proofs.Blanks
import TextTemplate.Proofs.Numbers.FinalDigits

/-!
# Displayed dates are read back

A date is displayed in the shape that is tried last, and a date with a time in the one that is tried
first. Numbers of two digits show their length, and so does a year of four; a year with a sign goes on
as long as there are digits, and the hyphen behind it ends it. So every reader stops where the text of
its part ends (`Reader.run_date`, `Reader.run_fullTime`). The four readers that come before the one for
a date alone find no time behind it.
-/

namespace TextTemplate

/-- The time is shown whole: it has no fraction of a second, and a leap second is the last one of its
minute. -/
def Time.IsWhole (moment : Time) : Prop :=
  moment.nanosecond = 0 ∨ moment.second = 59 ∧ moment.nanosecond = 1000000000

namespace Calendar

/-! ## Padded numbers -/

theorem isDigit_of_mem_padded {width n : Nat} {c : Char} (inside : c ∈ padded width n) :
    c.isDigit = true := by
  rcases List.mem_append.mp inside with zero | digit
  · rw [List.eq_of_mem_replicate zero]
    rfl
  · exact Digits.isDigit_of_mem_ofNat digit

theorem ofDigitChars_padded (width n : Nat) : Nat.ofDigitChars 10 (padded width n) 0 = n := by
  have zeros : ∀ count, Nat.ofDigitChars 10 (List.replicate count '0') 0 = 0 := by
    intro count
    induction count with
    | zero => rfl
    | succ count ih => exact ih
  rw [padded, Nat.ofDigitChars_append, zeros, Digits.ofNat, Nat.ofDigitChars_ten_toDigits]

theorem length_padded {width n : Nat} (positive : 0 < width) (fits : n < 10 ^ width) :
    (padded width n).length = width := by
  rw [padded, Digits.replicate_append_ofNat positive fits, Digits.length_final]

theorem padded_head (width n : Nat) : ∃ c rest, padded width n = c :: rest ∧ c.isDigit = true := by
  cases shape : padded width n with
  | nil => exact absurd (List.append_eq_nil_iff.mp shape).2 Nat.toDigits_ne_nil
  | cons c rest =>
      have inside : c ∈ padded width n := by simp [shape]
      exact ⟨c, rest, rfl, isDigit_of_mem_padded inside⟩

/-! ## Ranges of the shown numbers -/

theorem month_lt (day : Date) : day.month < 10 ^ 2 := by
  have valid := day.day_valid
  unfold daysInMonth at valid
  split at valid <;> omega

theorem day_lt (day : Date) : day.day < 10 ^ 2 := by
  have valid := day.day_valid
  unfold daysInMonth at valid
  split at valid
  · split at valid <;> omega
  all_goals omega

theorem shownSecond_lt (moment : Time) : moment.shownSecond < 10 ^ 2 := by
  have second := moment.second_lt
  have nanosecond := moment.nanosecond_lt
  unfold Time.shownSecond
  omega

/-! ## Readers -/

namespace Reader

theorem run_bind_of_some {α β : Type} {reader : Reader α} {text rest : Text} {result : α}
    (taken : reader.run text = some (result, rest)) (following : α → Reader β) :
    (reader >>= following).run text = (following result).run rest := by
  rw [StateT.run_bind, taken]
  rfl

theorem run_bind_of_none {α β : Type} {reader : Reader α} {text : Text}
    (refused : reader.run text = none) (following : α → Reader β) :
    (reader >>= following).run text = none := by
  rw [StateT.run_bind, refused]
  rfl

/-- A number of fixed width is taken off whatever follows. -/
theorem run_number {width least n : Nat} (enough : least ≤ width) (positive : 0 < width)
    (fits : n < 10 ^ width) (rest : Text) :
    (number least width).run (padded width n ++ rest) = some (n, rest) := by
  have long := length_padded positive fits
  have taken : ((padded width n ++ rest).takeWhile Char.isDigit).take width = padded width n := by
    rw [List.takeWhile_append_of_pos fun _ => isDigit_of_mem_padded]
    exact List.take_left' long
  have dropped : (padded width n ++ rest).drop width = rest := List.drop_left' long
  simp only [StateT.run, number, taken, long, enough, if_true, dropped, ofDigitChars_padded]

/-- A number of any width ends where no digit follows. -/
theorem run_digits (width n : Nat) {rest : Text} (stop : ∀ c ∈ rest.head?, c.isDigit = false) :
    digits.run (padded width n ++ rest) = some (n, rest) := by
  have run : (padded width n ++ rest).takeWhile Char.isDigit = padded width n := by
    rw [List.takeWhile_append_of_pos fun _ => isDigit_of_mem_padded]
    cases rest with
    | nil => simp
    | cons c rest => simp [stop c rfl]
  have within : (padded width n).length ≤ (padded width n ++ rest).length := by
    simp
  have some_digit : 1 ≤ (padded width n).length := by
    rcases padded_head width n with ⟨c, others, shape, -⟩
    simp [shape]
  simp only [StateT.run, digits, number, run, List.take_of_length_le within, some_digit, if_true,
    ofDigitChars_padded, List.drop_left]

theorem run_mark (c : Char) (rest : Text) : (mark c).run (c :: rest) = some ((), rest) := by
  simp [StateT.run, mark]

theorem run_blanks {c : Char} (visible : Unicode.isBlank c = false) (rest : Text) :
    blanks.run (c :: rest) = some ((), c :: rest) := by
  simp only [StateT.run, blanks, Text.trimStart_cons visible]

theorem run_pair {n : Nat} (fits : n < 10 ^ 2) (rest : Text) :
    pair.run (padded 2 n ++ rest) = some (n, rest) := by
  have taken : (number 1 2).run (padded 2 n ++ rest) = some (n, rest) :=
    run_number (by omega) (by omega) fits rest
  rcases padded_head 2 n with ⟨c, others, shape, digit⟩
  rw [shape] at taken ⊢
  rw [pair, List.cons_append, run_bind_of_some (run_blanks (Digits.isBlank_of_isDigit digit) _)]
  exact taken

/-- A year is read back in each of its three forms. -/
theorem run_year (y : Int) {rest : Text} (stop : ∀ c ∈ rest.head?, c.isDigit = false) :
    year.run (yearText y ++ rest) = some (y, rest) := by
  have signed := run_digits 4 y.natAbs stop
  unfold yearText
  split
  · have magnitude : -(y.natAbs : Int) = y := by omega
    rw [year, List.cons_append, run_bind_of_some (run_blanks (by decide) _),
      run_bind_of_some (StateT.run_get _)]
    simp only
    rw [run_bind_of_some (run_mark '-' _), run_bind_of_some signed, magnitude]
    rfl
  · split
    · have magnitude : (y.natAbs : Int) = y := by omega
      rw [year, List.cons_append, run_bind_of_some (run_blanks (by decide) _),
        run_bind_of_some (StateT.run_get _)]
      simp only
      rw [run_bind_of_some (run_mark '+' _), run_bind_of_some signed, magnitude]
      rfl
    · have magnitude : (y.natAbs : Int) = y := by omega
      have fits : y.natAbs < 10 ^ 4 := by omega
      have unsigned : (number 1 4).run (padded 4 y.natAbs ++ rest) = some (y.natAbs, rest) :=
        run_number (by omega) (by omega) fits rest
      rcases padded_head 4 y.natAbs with ⟨c, others, shape, digit⟩
      rw [shape, List.cons_append] at unsigned ⊢
      rw [year, run_bind_of_some (run_blanks (Digits.isBlank_of_isDigit digit) _),
        run_bind_of_some (StateT.run_get _)]
      split
      · rename_i minus
        rcases List.cons.inj minus with ⟨rfl, -⟩
        contradiction
      · rename_i plus
        rcases List.cons.inj plus with ⟨rfl, -⟩
        contradiction
      · rw [run_bind_of_some unsigned, magnitude]
        rfl

theorem run_date (day : Date) (rest : Text) :
    date.run (showDate day ++ rest) = some (day, rest) := by
  have shape : showDate day ++ rest =
      yearText day.year ++ '-' :: (padded 2 day.month ++ '-' :: (padded 2 day.day ++ rest)) := by
    simp [showDate]
  have stop : ∀ c ∈ ('-' :: (padded 2 day.month ++ '-' :: (padded 2 day.day ++ rest))).head?,
      c.isDigit = false := by
    rintro c ⟨rfl⟩
    rfl
  have same : Date.ofNumbers? day.year day.month day.day = some day :=
    dif_pos ⟨day.year_valid, day.day_valid⟩
  rw [shape, date, run_bind_of_some (run_year day.year stop), run_bind_of_some (run_mark '-' _),
    run_bind_of_some (run_pair (month_lt day) _), run_bind_of_some (run_mark '-' _),
    run_bind_of_some (run_pair (day_lt day) _), same]
  rfl

/-- The numbers of a time are those of the time that is shown. -/
theorem time_shown {moment : Time} (whole : moment.IsWhole) :
    time moment.hour moment.minute moment.shownSecond 0 = some moment := by
  rcases moment with ⟨hour, minute, second, nanosecond, hour_lt, minute_lt, second_lt, _⟩
  rcases whole with rfl | ⟨rfl, rfl⟩
  · have shown : second + 0 / 1000000000 = second := by omega
    have ordinary : second ≠ 60 := by omega
    simp only [time, Time.shownSecond, shown, if_neg ordinary, Time.ofNumbers?]
    exact dif_pos ⟨⟨hour_lt, minute_lt, second_lt, by omega⟩, .inl (by omega)⟩
  · have shown : 59 + 1000000000 / 1000000000 = 60 := by omega
    simp only [time, Time.shownSecond, shown, if_pos, Time.ofNumbers?]
    exact dif_pos ⟨⟨hour_lt, minute_lt, by omega, by omega⟩, .inr trivial⟩

theorem run_fullTime {moment : Time} (whole : moment.IsWhole) :
    fullTime.run (showTime moment) = some (moment, []) := by
  have hour : moment.hour < 10 ^ 2 := by
    have := moment.hour_lt
    omega
  have minute : moment.minute < 10 ^ 2 := by
    have := moment.minute_lt
    omega
  have shape : showTime moment =
      padded 2 moment.hour ++ ':' :: (padded 2 moment.minute ++
        ':' :: (padded 2 moment.shownSecond ++ [])) := by
    simp [showTime]
  have noFraction : fraction.run [] = some (0, []) := rfl
  rw [shape, fullTime, run_bind_of_some (run_pair hour _), run_bind_of_some (run_mark ':' _),
    run_bind_of_some (run_pair minute _), run_bind_of_some (run_mark ':' _),
    run_bind_of_some (run_pair (shownSecond_lt moment) _), run_bind_of_some noFraction,
    time_shown whole]
  rfl

theorem run_number_none {least most : Nat} (some_digit : 0 < least) {c : Char}
    (other : c.isDigit = false) (rest : Text) : (number least most).run (c :: rest) = none := by
  have few : ¬least ≤ 0 := by omega
  simp [StateT.run, number, other, few]

theorem whole?_of_run {α : Type} {reader : Reader α} {text : Text} {result : α}
    (taken : reader.run text = some (result, [])) : reader.whole? text = some result := by
  rw [whole?, run_bind_of_some taken]
  rfl

theorem whole?_of_none {α : Type} {reader : Reader α} {text : Text}
    (refused : reader.run text = none) : reader.whole? text = none := by
  rw [whole?, run_bind_of_none refused]
  rfl

end Reader

/-! ## Displayed dates -/

theorem isBlank_of_mem_padded {width n : Nat} {c : Char} (inside : c ∈ padded width n) :
    Unicode.isBlank c = false :=
  Digits.isBlank_of_isDigit (isDigit_of_mem_padded inside)

theorem isBlank_of_mem_yearText {y : Int} {c : Char} (inside : c ∈ yearText y) :
    Unicode.isBlank c = false := by
  unfold yearText at inside
  split at inside
  · rcases List.mem_cons.mp inside with rfl | behind
    · decide
    · exact isBlank_of_mem_padded behind
  · split at inside
    · rcases List.mem_cons.mp inside with rfl | behind
      · decide
      · exact isBlank_of_mem_padded behind
    · exact isBlank_of_mem_padded inside

theorem isBlank_of_mem_showDate {day : Date} {c : Char} (inside : c ∈ showDate day) :
    Unicode.isBlank c = false := by
  simp only [showDate, List.mem_append, List.mem_cons] at inside
  rcases inside with (inYear | rfl | inMonth) | rfl | inDay
  · exact isBlank_of_mem_yearText inYear
  · decide
  · exact isBlank_of_mem_padded inMonth
  · decide
  · exact isBlank_of_mem_padded inDay

theorem isBlank_of_mem_showTime {moment : Time} {c : Char} (inside : c ∈ showTime moment) :
    Unicode.isBlank c = false := by
  simp only [showTime, List.mem_append, List.mem_cons] at inside
  rcases inside with (inHour | rfl | inMinute) | rfl | inSecond
  · exact isBlank_of_mem_padded inHour
  · decide
  · exact isBlank_of_mem_padded inMinute
  · decide
  · exact isBlank_of_mem_padded inSecond

theorem trim_showDate (day : Date) : Text.trim (showDate day) = showDate day :=
  Text.trim_of_visible fun _ => isBlank_of_mem_showDate

theorem trim_showDateTime (moment : DateTime) :
    Text.trim (showDateTime moment) = showDateTime moment := by
  apply Text.trim_of_visible
  intro c inside
  simp only [showDateTime, List.mem_append, List.mem_cons] at inside
  rcases inside with inDate | rfl | inTime
  · exact isBlank_of_mem_showDate inDate
  · decide
  · exact isBlank_of_mem_showTime inTime

/-- Behind the date the separator and the time have to follow. -/
theorem run_dateTime (day : Date) (separator : Reader Unit) (time : Reader Time) (rest : Text) :
    (dateTime separator time).run (showDate day ++ rest) =
      (do separator; let moment ← time; pure ⟨day, moment⟩ : Reader DateTime).run rest := by
  rw [dateTime, Reader.run_bind_of_some (Reader.run_date day rest)]

/-- The strict form asks for four digits of the year and for a time behind the date. -/
theorem run_zoned_showDate (day : Date) : Reader.zoned.run (showDate day) = none := by
  have shape : showDate day =
      yearText day.year ++ '-' :: (padded 2 day.month ++ '-' :: (padded 2 day.day ++ [])) := by
    simp [showDate]
  have noSign : ∀ mark rest, mark.isDigit = false → Reader.zoned.run (mark :: rest) = none := by
    intro mark rest other
    rw [Reader.zoned, Reader.run_bind_of_none (Reader.run_number_none (by omega) other rest)]
  rw [shape]
  unfold yearText
  split
  · exact noSign '-' _ rfl
  · split
    · exact noSign '+' _ rfl
    · have fits : day.year.natAbs < 10 ^ 4 := by omega
      have year := Reader.run_number (le_refl 4) (by omega) fits
      have month := Reader.run_number (le_refl 2) (by omega) (month_lt day)
      have dayNumber := Reader.run_number (le_refl 2) (by omega) (day_lt day)
      rw [Reader.zoned, Reader.run_bind_of_some (year _),
        Reader.run_bind_of_some (Reader.run_mark '-' _), Reader.run_bind_of_some (month _),
        Reader.run_bind_of_some (Reader.run_mark '-' _), Reader.run_bind_of_some (dayNumber _)]
      exact Reader.run_bind_of_none rfl _

theorem read?_showDateTime {moment : DateTime} (whole : moment.time.IsWhole) :
    read? (showDateTime moment) = some moment := by
  have taken : (dateTime (Reader.mark 'T') Reader.fullTime).run (showDateTime moment) =
      some (moment, []) := by
    rw [showDateTime, run_dateTime, Reader.run_bind_of_some (Reader.run_mark 'T' _),
      Reader.run_bind_of_some (Reader.run_fullTime whole)]
    rfl
  rw [read?, trim_showDateTime, Reader.whole?_of_run taken]
  rfl

theorem read?_showDate (day : Date) : read? (showDate day) = some ⟨day, Time.midnight⟩ := by
  have alone := Reader.run_date day []
  have behind := fun separator time => run_dateTime day separator time []
  simp only [List.append_nil] at alone behind
  have noLetter : ∀ time, (dateTime (Reader.mark 'T') time).run (showDate day) = none := by
    intro time
    rw [behind]
    rfl
  have noTime : (dateTime Reader.blanks Reader.fullTime).run (showDate day) = none := by
    rw [behind]
    rfl
  rw [read?, trim_showDate, Reader.whole?_of_none (noLetter _), Reader.whole?_of_none noTime,
    Reader.whole?_of_none (noLetter _), Reader.whole?_of_none (run_zoned_showDate day),
    Reader.whole?_of_run alone]
  rfl

end Calendar

namespace Builtin

variable {σ : Type}

/-- A date formats like the text that it leaves in a template, with and without a time and after every
pattern, if the text shows all of it. -/
theorem date_display {value : Value σ} {moment : DateTime} (dated : moment? value = some moment)
    (whole : moment.time.IsWhole) (argument : Option Text) :
    date (.string value.toString) argument = date value argument ∧
      date value argument =
        .ofText (Calendar.format moment (argument.getD "yyyy-MM-dd".toList)) := by
  have shown : date value argument =
      .ofText (Calendar.format moment (argument.getD "yyyy-MM-dd".toList)) := by
    cases value with
    | date day => simp only [date, dated]
    | dateTime moment => simp only [date, dated]
    | _ => contradiction
  have read : Calendar.read? value.toString.toList = some moment := by
    rw [Value.toString, String.toList_ofList]
    cases value with
    | date day =>
        rcases Option.some.inj dated with rfl
        rw [Value.display, Calendar.read?_showDate]
    | dateTime moment =>
        rcases Option.some.inj dated with rfl
        rw [Value.display, Calendar.read?_showDateTime whole]
    | _ => contradiction
  refine ⟨?_, shown⟩
  rw [shown, date, read]

/-- A year of five digits without a time, and one before the year nought with a leap second. -/
theorem date_display_signed :
    let day : Value Empty := .date ⟨12024, 2, 29, by decide, by decide⟩
    let leap : DateTime :=
      ⟨⟨-1, 12, 31, by decide, by decide⟩,
        ⟨23, 59, 59, 1000000000, by decide, by decide, by decide, by decide⟩⟩
    let moment : Value Empty := .dateTime leap
    (day.display = "+12024-02-29".toList ∧ date (.string day.toString) none = date day none) ∧
      (leap.time.second = 59 ∧ leap.time.nanosecond = 1000000000) ∧
      moment.display = "-0001-12-31T23:59:60".toList ∧
        date (.string moment.toString) (some ['s']) = date moment (some ['s']) := by
  intro day leap moment
  have dayDated : moment? day = some ⟨⟨12024, 2, 29, by decide, by decide⟩, .midnight⟩ := rfl
  have leapDated : moment? moment = some leap := rfl
  refine ⟨⟨by decide +kernel, ?_⟩, ⟨rfl, rfl⟩, by decide +kernel, ?_⟩
  · exact (date_display dayDated (.inl rfl) none).1
  · exact (date_display leapDated (.inr ⟨rfl, rfl⟩) (some ['s'])).1

end Builtin

end TextTemplate
