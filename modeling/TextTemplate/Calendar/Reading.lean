import TextTemplate.Calendar.Date

/-!
# Reading dates and times

The shapes in which a text can be a date: a date and a time with a letter or blanks between them,
with or without seconds, the same with a zone, and a date alone. They are tried in this order, and
each has to match the whole text. The zone is checked but does not move the time.
-/

namespace TextTemplate.Calendar

/-- A reader takes something off the front of a text. -/
abbrev Reader (α : Type) := StateT Text Option α

namespace Reader

/-- The run of at most `most` digits at the front, at least `least` of them. -/
def number (least most : Nat) : Reader Nat := fun text =>
  let digits := (text.takeWhile Char.isDigit).take most
  if least ≤ digits.length then
    some (Nat.ofDigitChars 10 digits 0, text.drop digits.length)
  else none

/-- All digits at the front, at least one. -/
def digits : Reader Nat := fun text =>
  number 1 text.length text

/-- Skips blanks, if there are any. -/
def blanks : Reader Unit := fun text =>
  some ((), Text.trimStart text)

/-- Takes one of the given characters. -/
def oneOf (allowed : List Char) : Reader Char := fun text =>
  match text with
  | c :: rest => if allowed.contains c then some (c, rest) else none
  | [] => none

/-- Takes one character. -/
def mark (c : Char) : Reader Unit := fun text =>
  match text with
  | d :: rest => if d = c then some ((), rest) else none
  | [] => none

/-- Requires that nothing is left. -/
def finish : Reader Unit := fun text =>
  if text = [] then some ((), []) else none

/-- Blanks and a number of at most two digits. -/
def pair : Reader Nat := do
  blanks
  number 1 2

/-- Blanks and a year: up to four digits, or any number of them after a sign. -/
def year : Reader Int := do
  blanks
  match ← get with
  | '-' :: _ => do
    mark '-'
    let n ← digits
    pure (-(n : Int))
  | '+' :: _ => do
    mark '+'
    let n ← digits
    pure (n : Int)
  | _ => do
    let n ← number 1 4
    pure (n : Int)

/-- A fraction of a second in nanoseconds, if there is a point. Digits behind the ninth are
skipped. -/
def fraction : Reader Nat := do
  match ← get with
  | '.' :: rest => do
    mark '.'
    let written := rest.takeWhile Char.isDigit
    let n ← number 1 9
    modify (·.dropWhile Char.isDigit)
    pure (n * Nat.pow 10 (9 - min written.length 9))
  | _ => pure 0

/-- The time with these numbers, the second 60 being a leap second. -/
def time (hour minute second nanosecond : Nat) : Option Time :=
  if second = 60 then Time.ofNumbers? hour minute 59 (1000000000 + nanosecond)
  else Time.ofNumbers? hour minute second nanosecond

/-- A date as year, month and day. -/
def date : Reader Date := do
  let y ← year
  mark '-'
  let m ← pair
  mark '-'
  let d ← pair
  Date.ofNumbers? y m d

/-- A time as hour, minute, second and perhaps a fraction. -/
def fullTime : Reader Time := do
  let h ← pair
  mark ':'
  let m ← pair
  mark ':'
  let s ← pair
  let n ← fraction
  time h m s n

/-- A time as hour and minute. -/
def shortTime : Reader Time := do
  let h ← pair
  mark ':'
  let m ← pair
  time h m 0 0

/-- A zone: the letter `Z`, or a sign, hours and minutes that make less than a day. -/
def zone : Reader Unit := do
  match ← oneOf ['Z', 'z', '+', '-', '−'] with
  | 'Z' | 'z' => pure ()
  | _ => do
    let hours ← number 2 2
    mark ':'
    let minutes ← number 2 2
    if hours < 24 ∧ minutes < 60 then pure () else failure

/-- A date and a time in the strict form of internet protocols, every number having its full
width. -/
def zoned : Reader DateTime := do
  let y ← number 4 4
  mark '-'
  let m ← number 2 2
  mark '-'
  let d ← number 2 2
  let _ ← oneOf ['T', 't', ' ']
  let h ← number 2 2
  mark ':'
  let min ← number 2 2
  mark ':'
  let s ← number 2 2
  let n ← fraction
  zone
  let day ← Date.ofNumbers? y m d
  let moment ← time h min s n
  pure ⟨day, moment⟩

/-- What a reader finds in a text if it takes the whole of it. -/
def whole? {α : Type} (reader : Reader α) (text : Text) : Option α :=
  ((do let result ← reader; finish; pure result : Reader α).run text).map Prod.fst

end Reader

/-- A date and a time of which `separator` takes what stands between them. -/
def dateTime (separator : Reader Unit) (time : Reader Time) : Reader DateTime := do
  let date ← Reader.date
  separator
  let time ← time
  pure ⟨date, time⟩

/-- The date and time that a text denotes; a date alone denotes its first moment. -/
def read? (text : Text) : Option DateTime :=
  let text := Text.trim text
  ((dateTime (Reader.mark 'T') Reader.fullTime).whole? text).or <|
  ((dateTime Reader.blanks Reader.fullTime).whole? text).or <|
  ((dateTime (Reader.mark 'T') Reader.shortTime).whole? text).or <|
  (Reader.zoned.whole? text).or <|
  (Reader.date.whole? text).map fun date => ⟨date, Time.midnight⟩

end TextTemplate.Calendar
