import TextTemplate.Unicode.CaseMapping
import TextTemplate.Unicode.Class

/-!
# Lower and upper case of text

Full case mapping: a character may become several, and a capital sigma becomes the final form at
the end of a word and the medial form elsewhere. Two texts are the same name when their lower
cases agree; comparing letters of the basic alphabet first only saves time.
-/

namespace TextTemplate.Unicode

/-- The characters that a point maps to: its expansion if it has one, else its shifted point. -/
def mapPoint (shifts : List Shift) (expansions : List (Nat × List Nat)) (point : Nat) : List Nat :=
  match expansions.find? fun row => row.1 == point with
  | some row => row.2
  | none => [shiftBy shifts point]

/-- The lower case of a character that stands alone. -/
def lowerChar (c : Char) : List Char :=
  if c.toNat < 128 then [c.toLower]
  else (mapPoint lowerShifts lowerExpansions c.toNat).map Char.ofNat

/-- The upper case of a character. -/
def upperChar (c : Char) : List Char :=
  if c.toNat < 128 then [c.toUpper]
  else (mapPoint upperShifts upperExpansions c.toNat).map Char.ofNat

/-- Past the characters that case mapping looks through, the next one is a letter with case. -/
def startsCased (text : List Char) : Bool :=
  match text.dropWhile isCaseIgnorable with
  | [] => false
  | c :: _ => isCased c

/-- A capital sigma takes its final form after a letter of its word and before none. -/
def lowerSigma (before after : List Char) : Char :=
  if startsCased before && !startsCased after then 'ς' else 'σ'

/-- The lower case of the text that follows `before`, which is given from right to left. -/
def lowerAfter (before : List Char) : List Char → List Char
  | [] => []
  | c :: rest =>
    if c = 'Σ' then lowerSigma before rest :: lowerAfter (c :: before) rest
    else lowerChar c ++ lowerAfter (c :: before) rest

/-- The lower case of a text. -/
def lower (text : List Char) : List Char :=
  lowerAfter [] text

/-- The upper case of a text. -/
def upper (text : List Char) : List Char :=
  text.flatMap upperChar

/-- The form under which names are looked up. -/
def foldName (name : String) : String :=
  String.ofList (lower name.toList)

/-- Two texts agree when only the case of basic letters tells them apart. -/
def sameBasicLetters (left right : List Char) : Bool :=
  left.map Char.toLower == right.map Char.toLower

/-- Two texts are the same up to case. -/
def sameFolded (left right : List Char) : Bool :=
  sameBasicLetters left right || lower left == lower right

/-- Two names are the same up to case. -/
def sameName (left right : String) : Bool :=
  sameFolded left.toList right.toList

end TextTemplate.Unicode
