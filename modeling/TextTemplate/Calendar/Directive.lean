import TextTemplate.Calendar.Pattern

/-!
# Directives

A date pattern is translated into directives before a date is shown after it. A directive is a percent
sign with a letter or with a number of digits behind it, and a hyphen between them takes the leading
zeros away. Every other character stands for itself, and so does a percent sign that is written twice.
A text with an unknown directive describes nothing; the date and the time are then shown to the
nanosecond.
-/

namespace TextTemplate.Calendar

/-- The directive that shows a field. -/
def Field.directive : Field → Text
  | .shortYear => ['%', 'y']
  | .year => ['%', 'Y']
  | .month => ['%', '-', 'm']
  | .paddedMonth => ['%', 'm']
  | .shortMonthName => ['%', 'b']
  | .monthName => ['%', 'B']
  | .day => ['%', '-', 'd']
  | .paddedDay => ['%', 'd']
  | .shortDayName => ['%', 'a']
  | .dayName => ['%', 'A']
  | .hour => ['%', '-', 'H']
  | .paddedHour => ['%', 'H']
  | .halfDayHour => ['%', '-', 'I']
  | .paddedHalfDayHour => ['%', 'I']
  | .minute => ['%', '-', 'M']
  | .paddedMinute => ['%', 'M']
  | .second => ['%', '-', 'S']
  | .paddedSecond => ['%', 'S']
  | .millisecond => ['%', '3', 'f']
  | .microsecond => ['%', '6', 'f']
  | .nanosecond => ['%', '9', 'f']
  | .halfDay => ['%', 'p']

/-- A character that stands for itself: a percent sign is written twice. -/
def literalDirective (c : Char) : Text :=
  if c = '%' then ['%', '%'] else [c]

/-- The directives of a token. -/
def Token.directive : Token → Text
  | .field shown => shown.directive
  | .literal characters => characters.flatMap literalDirective

/-- The directives that a pattern is translated into. -/
def directives (pattern : Text) : Text :=
  (tokens pattern).flatMap Token.directive

/-- The field that a directive shows, read from behind the percent sign, and the text behind it. -/
def Field.ofDirective? : Text → Option (Field × Text)
  | 'y' :: rest => some (.shortYear, rest)
  | 'Y' :: rest => some (.year, rest)
  | '-' :: 'm' :: rest => some (.month, rest)
  | 'm' :: rest => some (.paddedMonth, rest)
  | 'b' :: rest => some (.shortMonthName, rest)
  | 'B' :: rest => some (.monthName, rest)
  | '-' :: 'd' :: rest => some (.day, rest)
  | 'd' :: rest => some (.paddedDay, rest)
  | 'a' :: rest => some (.shortDayName, rest)
  | 'A' :: rest => some (.dayName, rest)
  | '-' :: 'H' :: rest => some (.hour, rest)
  | 'H' :: rest => some (.paddedHour, rest)
  | '-' :: 'I' :: rest => some (.halfDayHour, rest)
  | 'I' :: rest => some (.paddedHalfDayHour, rest)
  | '-' :: 'M' :: rest => some (.minute, rest)
  | 'M' :: rest => some (.paddedMinute, rest)
  | '-' :: 'S' :: rest => some (.second, rest)
  | 'S' :: rest => some (.paddedSecond, rest)
  | '3' :: 'f' :: rest => some (.millisecond, rest)
  | '6' :: 'f' :: rest => some (.microsecond, rest)
  | '9' :: 'f' :: rest => some (.nanosecond, rest)
  | 'p' :: rest => some (.halfDay, rest)
  | _ => none

theorem Field.length_ofDirective?_lt {text following : Text} {field : Field}
    (found : ofDirective? text = some (field, following)) : following.length < text.length := by
  unfold ofDirective? at found
  split at found <;> cases found <;> simp only [List.length_cons] <;> omega

/-- The tokens that a text of directives stands for, if all of them are known. -/
def readDirectives? (text : Text) : Option (List Token) :=
  match text with
  | [] => some []
  | '%' :: '%' :: rest => (readDirectives? rest).map (.literal ['%'] :: ·)
  | '%' :: rest =>
    match _found : Field.ofDirective? rest with
    | some (field, following) => (readDirectives? following).map (.field field :: ·)
    | none => none
  | c :: rest => (readDirectives? rest).map (.literal [c] :: ·)
termination_by text.length
decreasing_by
  · simp only [List.length_cons]
    omega
  · have := Field.length_ofDirective?_lt _found
    simp only [List.length_cons]
    omega
  · simp only [List.length_cons]
    omega

/-- The text that directives describe of a date and time. -/
def describe? (moment : DateTime) (text : Text) : Option Text :=
  (readDirectives? text).map fun tokens => tokens.flatMap (Token.text moment)

/-- The text of a date and time after a pattern. -/
def format (moment : DateTime) (pattern : Text) : Text :=
  (describe? moment (directives pattern)).getD (showMoment moment)

end TextTemplate.Calendar
