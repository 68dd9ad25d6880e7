import TextTemplate.Text

/-!
# YAML text with positions

YAML gives meaning to the column in which a token stands. The text that is still to be read is kept
together with the position of its first character, and is read character by character or line end
by line end.
-/

namespace TextTemplate.Yaml

/-- The rest of a text and where it begins. -/
structure Input where
  rest : Text
  index : Nat
  line : Nat
  column : Nat

/-- The beginning of a text. -/
def Input.ofText (text : Text) : Input :=
  ⟨text, 0, 0, 0⟩

/-- A character that a document may hold: no control character but the tab and line ends. -/
def isAllowed (c : Char) : Bool :=
  c == '\t' || c == '\n' || c == '\r' || (' ' ≤ c && c ≤ '~') || c.toNat == 0x85 ||
    (0xA0 ≤ c.toNat && c.toNat ≤ 0xD7FF) || (0xE000 ≤ c.toNat && c.toNat ≤ 0xFFFD) ||
    0x10000 ≤ c.toNat

/-- A space or a tab. -/
def isSpace (c : Char) : Bool :=
  c == ' ' || c == '\t'

/-- A character that ends a line. -/
def isBreak (c : Char) : Bool :=
  c == '\r' || c == '\n' || c.toNat == 0x85 || c.toNat == 0x2028 || c.toNat == 0x2029

/-- A space, a tab or a line end. -/
def isGap (c : Char) : Bool :=
  isSpace c || isBreak c

/-- A letter, digit, underscore or hyphen of a name. -/
def isName (c : Char) : Bool :=
  c.isAlphanum || c == '_' || c == '-'

/-- The text begins with a gap or is at its end. -/
def atGap : Text → Bool
  | [] => true
  | c :: _ => isGap c

/-- The text begins with a line end or is at its end. -/
def atLineEnd : Text → Bool
  | [] => true
  | c :: _ => isBreak c

namespace Input

/-- The character at the front. -/
def head? (input : Input) : Option Char :=
  input.rest.head?

/-- Skips a number of characters of one line. -/
def skip (input : Input) (count : Nat) : Input :=
  ⟨input.rest.drop count, input.index + count, input.line, input.column + count⟩

/-- Skips a line end, if there is one, and gives the text that it stands for. The two characters of
one line end count as one. -/
def takeBreak (input : Input) : Text × Input :=
  match input.rest with
  | '\r' :: '\n' :: rest => (['\n'], ⟨rest, input.index + 2, input.line + 1, 0⟩)
  | c :: rest =>
    if isBreak c then
      (if c.toNat == 0x2028 || c.toNat == 0x2029 then [c] else ['\n'],
        ⟨rest, input.index + 1, input.line + 1, 0⟩)
    else ([], input)
  | [] => ([], input)

/-- Takes the characters at the front for which `keep` holds; they must not be line ends. -/
def takeWhile (input : Input) (keep : Char → Bool) : Text × Input :=
  let taken := input.rest.takeWhile keep
  (taken, input.skip taken.length)

/-- Skips the characters at the front for which `keep` holds; they must not be line ends. -/
def skipWhile (input : Input) (keep : Char → Bool) : Input :=
  (input.takeWhile keep).2

/-- Skips a comment, if there is one, up to the end of its line. -/
def skipComment (input : Input) : Input :=
  if input.head? == some '#' then input.skipWhile (!isBreak ·) else input

/-- Skips spaces and a comment behind a token and the line end, which has to follow. -/
def finishLine? (input : Input) : Option Input :=
  let input := (input.skipWhile isSpace).skipComment
  if atLineEnd input.rest then some input.takeBreak.2 else none

/-- The mark of three equal characters at the beginning of a line with which a document begins or
ends. -/
def atMark (input : Input) (c : Char) : Bool :=
  input.column == 0 &&
    match Text.after? [c, c, c] input.rest with
    | some rest => atGap rest
    | none => false

/-- A mark with which a document begins or ends. -/
def atDocumentMark (input : Input) : Bool :=
  input.atMark '-' || input.atMark '.'

end Input

end TextTemplate.Yaml
