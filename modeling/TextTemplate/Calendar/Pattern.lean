import TextTemplate.Calendar.Date

/-!
# Date patterns

A date pattern is a sequence of tokens. A run of one of the letters `y M d H h m s f F t` is a
field, and the length of the run chooses its form; text between single or double quotes, a
character after a backslash and every other character stand for themselves. A quoted text that is
not closed goes to the end of the pattern.
-/

namespace TextTemplate.Calendar

/-- The parts of a date and time that a pattern can show. -/
inductive Field where
  | shortYear
  | year
  | month
  | paddedMonth
  | shortMonthName
  | monthName
  | day
  | paddedDay
  | shortDayName
  | dayName
  | hour
  | paddedHour
  | halfDayHour
  | paddedHalfDayHour
  | minute
  | paddedMinute
  | second
  | paddedSecond
  | millisecond
  | microsecond
  | nanosecond
  | halfDay

/-- A token of a date pattern. -/
inductive Token where
  | field (field : Field)
  | literal (text : Text)

/-- The field that a run of a letter stands for. -/
def Field.ofRun? (letter : Char) (length : Nat) : Option Field :=
  match letter with
  | 'y' => some (if length ≤ 2 then .shortYear else .year)
  | 'M' => some (match length with
    | 1 => .month
    | 2 => .paddedMonth
    | 3 => .shortMonthName
    | _ => .monthName)
  | 'd' => some (match length with
    | 1 => .day
    | 2 => .paddedDay
    | 3 => .shortDayName
    | _ => .dayName)
  | 'H' => some (if length = 1 then .hour else .paddedHour)
  | 'h' => some (if length = 1 then .halfDayHour else .paddedHalfDayHour)
  | 'm' => some (if length = 1 then .minute else .paddedMinute)
  | 's' => some (if length = 1 then .second else .paddedSecond)
  | 'f' | 'F' => some (
    if length ≤ 3 then .millisecond else if length ≤ 6 then .microsecond else .nanosecond)
  | 't' => some .halfDay
  | _ => none

/-- Splits a pattern into its tokens. -/
def tokens (pattern : Text) : List Token :=
  match pattern with
  | [] => []
  | c :: rest =>
    let run := rest.takeWhile (· == c)
    match Field.ofRun? c (run.length + 1) with
    | some field => .field field :: tokens (rest.dropWhile (· == c))
    | none =>
      if c = '\'' ∨ c = '"' then
        .literal (rest.takeWhile (· != c)) :: tokens ((rest.dropWhile (· != c)).drop 1)
      else if c = '\\' then
        match rest with
        | [] => [.literal ['\\']]
        | escaped :: following => .literal [escaped] :: tokens following
      else .literal [c] :: tokens rest
termination_by pattern.length
decreasing_by
  · have := Text.length_dropWhile_le (· == c) rest
    simp only [List.length_cons]
    omega
  · have := Text.length_dropWhile_le (· != c) rest
    simp only [List.length_cons, List.length_drop]
    omega
  · simp only [List.length_cons]
    omega
  · simp only [List.length_cons]
    omega

/-- The English names of the months. -/
def monthNames : List String :=
  ["January", "February", "March", "April", "May", "June", "July", "August", "September",
    "October", "November", "December"]

/-- The English names of the days, from Sunday on. -/
def dayNames : List String :=
  ["Sunday", "Monday", "Tuesday", "Wednesday", "Thursday", "Friday", "Saturday"]

/-- The digits of a number, filled up with zeros on the left. -/
def padded (width n : Nat) : Text :=
  let digits := Digits.ofNat n
  List.replicate (width - digits.length) '0' ++ digits

/-- A year in at least four digits; one that needs more of them or lies before the year nought has
a sign. -/
def yearText (year : Int) : Text :=
  if year < 0 then '-' :: padded 4 year.natAbs
  else if 10000 ≤ year then '+' :: padded 4 year.natAbs
  else padded 4 year.natAbs

/-- The hour on a dial of twelve hours. -/
def dialHour (hour : Nat) : Nat :=
  if hour % 12 = 0 then 12 else hour % 12

/-- The text of a field of a date and time. -/
def Field.text (moment : DateTime) : Field → Text
  | .shortYear => padded 2 (moment.date.year % 100).toNat
  | .year => yearText moment.date.year
  | .month => Digits.ofNat moment.date.month
  | .paddedMonth => padded 2 moment.date.month
  | .shortMonthName => (monthNames.getD (moment.date.month - 1) "").toList.take 3
  | .monthName => (monthNames.getD (moment.date.month - 1) "").toList
  | .day => Digits.ofNat moment.date.day
  | .paddedDay => padded 2 moment.date.day
  | .shortDayName => (dayNames.getD moment.date.weekday "").toList.take 3
  | .dayName => (dayNames.getD moment.date.weekday "").toList
  | .hour => Digits.ofNat moment.time.hour
  | .paddedHour => padded 2 moment.time.hour
  | .halfDayHour => Digits.ofNat (dialHour moment.time.hour)
  | .paddedHalfDayHour => padded 2 (dialHour moment.time.hour)
  | .minute => Digits.ofNat moment.time.minute
  | .paddedMinute => padded 2 moment.time.minute
  | .second => Digits.ofNat moment.time.shownSecond
  | .paddedSecond => padded 2 moment.time.shownSecond
  | .millisecond => padded 3 (moment.time.shownNanosecond / 1000000)
  | .microsecond => padded 6 (moment.time.shownNanosecond / 1000)
  | .nanosecond => padded 9 moment.time.shownNanosecond
  | .halfDay => if moment.time.hour < 12 then "AM".toList else "PM".toList

/-- The text of a token: a field of the moment, or the literal text. -/
def Token.text (moment : DateTime) : Token → Text
  | .field shown => shown.text moment
  | .literal characters => characters

/-- A date as year, month and day. -/
def showDate (date : Date) : Text :=
  yearText date.year ++ '-' :: padded 2 date.month ++ '-' :: padded 2 date.day

/-- A time as hour, minute and second. -/
def showTime (time : Time) : Text :=
  padded 2 time.hour ++ ':' :: padded 2 time.minute ++ ':' :: padded 2 time.shownSecond

/-- A date and a time with a letter between them. -/
def showDateTime (moment : DateTime) : Text :=
  showDate moment.date ++ 'T' :: showTime moment.time

/-- The nanoseconds behind a second, in three, six or nine digits, whichever suffice. -/
def showFraction (nanosecond : Nat) : Text :=
  if nanosecond = 0 then []
  else if nanosecond % 1000000 = 0 then '.' :: padded 3 (nanosecond / 1000000)
  else if nanosecond % 1000 = 0 then '.' :: padded 6 (nanosecond / 1000)
  else '.' :: padded 9 nanosecond

/-- A date and a time to the nanosecond with a space between them. -/
def showMoment (moment : DateTime) : Text :=
  showDate moment.date ++ ' ' :: showTime moment.time ++
    showFraction moment.time.shownNanosecond

end TextTemplate.Calendar
