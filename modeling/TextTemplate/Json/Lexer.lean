import TextTemplate.Json.Number

/-!
# Tokens of JSON texts

A JSON text is split into brackets, marks, strings and scalars; the blanks between them are the
space, the tab and the line ends. Strings may hold every character but quotes, backslashes and
control characters, which are escaped; a character beyond the first plane is escaped as a pair.
-/

namespace TextTemplate.Json

/-- The blanks that may stand between tokens. -/
def isSpace (c : Char) : Bool :=
  c == ' ' || c == '\t' || c == '\n' || c == '\r'

/-- The unit that four hexadecimal digits denote. -/
def unit? (a b c d : Char) : Option Nat := do
  let a ← Digits.hexadecimal? a
  let b ← Digits.hexadecimal? b
  let c ← Digits.hexadecimal? c
  let d ← Digits.hexadecimal? d
  some (((a * 16 + b) * 16 + c) * 16 + d)

/-- The character that a letter denotes after a backslash. -/
def escape? (letter : Char) : Option Char :=
  match letter with
  | '"' => some '"'
  | '\\' => some '\\'
  | '/' => some '/'
  | 'b' => some '\x08'
  | 'f' => some '\x0c'
  | 'n' => some '\n'
  | 'r' => some '\r'
  | 't' => some '\t'
  | _ => none

/-- A unit that opens a pair. -/
def isHighUnit (unit : Nat) : Bool :=
  0xD800 ≤ unit && unit < 0xDC00

/-- A unit that closes a pair. -/
def isLowUnit (unit : Nat) : Bool :=
  0xDC00 ≤ unit && unit < 0xE000

/-- The characters of a string whose opening quote has been taken, and the text behind its closing
quote. -/
def stringBody? : Text → Option (Text × Text)
  | '"' :: rest => some ([], rest)
  | '\\' :: 'u' :: a :: b :: c :: d :: rest =>
    match unit? a b c d with
    | none => none
    | some unit =>
      if isHighUnit unit then
        match rest with
        | '\\' :: 'u' :: e :: f :: g :: h :: rest =>
          match unit? e f g h with
          | none => none
          | some low =>
            if isLowUnit low then
              (stringBody? rest).map fun parts =>
                (Char.ofNat (0x10000 + (unit - 0xD800) * 0x400 + (low - 0xDC00)) :: parts.1,
                  parts.2)
            else none
        | _ => none
      else if isLowUnit unit then none
      else (stringBody? rest).map fun parts => (Char.ofNat unit :: parts.1, parts.2)
  | '\\' :: letter :: rest =>
    match escape? letter with
    | none => none
    | some c => (stringBody? rest).map fun parts => (c :: parts.1, parts.2)
  | c :: rest =>
    if c.toNat < 32 then none
    else (stringBody? rest).map fun parts => (c :: parts.1, parts.2)
  | [] => none

/-- The scalar other than a string at the front of a text, and the rest of the text. -/
def scalar? (text : Text) : Option (Json × Text) :=
  if let some rest := Text.after? "null".toList text then some (.null, rest)
  else if let some rest := Text.after? "true".toList text then some (.bool true, rest)
  else if let some rest := Text.after? "false".toList text then some (.bool false, rest)
  else number? text

/-- The token at the front of a text that begins with no blank, and the rest of the text. -/
def token? : Text → Option (Token × Text)
  | '[' :: rest => some (.openArray, rest)
  | ']' :: rest => some (.closeArray, rest)
  | '{' :: rest => some (.openObject, rest)
  | '}' :: rest => some (.closeObject, rest)
  | ',' :: rest => some (.comma, rest)
  | ':' :: rest => some (.colon, rest)
  | '"' :: rest => (stringBody? rest).map fun parts => (.string (String.ofList parts.1), parts.2)
  | text => (scalar? text).map fun parts => (.scalar parts.1, parts.2)

/-- The tokens of a text, read with at most `fuel` characters; every token takes one at least. -/
def tokensWithin : Nat → Text → Option (List Token)
  | _, [] => some []
  | 0, _ => none
  | fuel + 1, c :: rest =>
    if isSpace c then tokensWithin fuel rest
    else
      match token? (c :: rest) with
      | none => none
      | some (token, following) => (tokensWithin fuel following).map (token :: ·)

/-- The tokens of a text. -/
def tokens? (text : Text) : Option (List Token) :=
  tokensWithin text.length text

end TextTemplate.Json
