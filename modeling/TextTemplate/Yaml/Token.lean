import TextTemplate.Yaml.Scalar
import TextTemplate.Yaml.Tag

/-!
# Tokens of YAML texts

The tokens make the structure of a document explicit: where a block collection begins and ends
follows from indentation, and a text becomes a key when a colon is found behind it. Until then the
place before it is kept as a possible key.
-/

namespace TextTemplate.Yaml

/-- A token of a YAML text. -/
inductive Token where
  | versionDirective (major minor : Text)
  | tagDirective (handle : Text) (stem : Tag)
  | documentStart
  | documentEnd
  | blockSequenceStart
  | blockMappingStart
  | blockEnd
  | flowSequenceStart
  | flowSequenceEnd
  | flowMappingStart
  | flowMappingEnd
  | blockEntry
  | flowEntry
  | key
  | value
  | alias (name : Text)
  | anchor (name : Text)
  | tag (handle : Text) (suffix : Tag)
  | scalar (plain : Bool) (text : Text)
  | streamEnd

/-- A place where a key may have begun: the number of tokens before it and its position. A
required key has to be followed by a colon on its line. -/
structure PossibleKey where
  tokenNumber : Nat
  index : Nat
  line : Nat
  column : Nat
  required : Bool

/-- The state of reading tokens: the rest of the text, the tokens so far, the indentations of the
open block collections, the number of open flow collections, the possible key of each of them and
of the block around them, and whether a key may begin here. -/
structure Scan where
  input : Input
  tokens : Array Token
  indent : Int
  indents : List Int
  flowLevel : Nat
  keys : List (Option PossibleKey)
  keyAllowed : Bool

namespace Scan

/-- The state at the beginning of a text. -/
def start (text : Text) : Scan :=
  ⟨.ofText text, #[], -1, [], 0, [none], true⟩

/-- Whether a flow collection is open. -/
def inFlow (scan : Scan) : Bool :=
  scan.flowLevel != 0

/-- Appends a token. -/
def push (scan : Scan) (token : Token) : Scan :=
  { scan with tokens := scan.tokens.push token }

/-- Inserts a token before the token with this number. -/
def insertAt (scan : Scan) (number : Nat) (token : Token) : Scan :=
  { scan with
    tokens := (scan.tokens.extract 0 number).push token ++
      scan.tokens.extract number scan.tokens.size }

/-- Skips blanks, comments and line ends before a token. A line end allows a key, and where a key
may begin a tab is no blank. A byte order mark is skipped where it begins a line, and what follows
it stands in the next column. The first number bounds the steps. -/
def skipToToken : Nat → Scan → Scan
  | 0, scan => scan
  | steps + 1, scan =>
    let input :=
      if scan.input.column == 0 && scan.input.head? == some '\uFEFF' then scan.input.skip 1
      else scan.input
    let tabs := scan.inFlow || !scan.keyAllowed
    let input := (input.skipWhile fun c => c == ' ' || (tabs && c == '\t')).skipComment
    if input.head?.any isBreak then
      skipToToken steps
        { scan with input := input.takeBreak.2, keyAllowed := scan.keyAllowed || !scan.inFlow }
    else { scan with input := input }

/-- Drops the possible keys that are too far back: on an earlier line, or more than 1024
characters away. A required key must not be dropped. -/
def dropStaleKeys? (scan : Scan) : Option Scan := do
  let keys ← scan.keys.mapM fun key =>
    match key with
    | none => some none
    | some key =>
      if key.line < scan.input.line || key.index + 1024 < scan.input.index then
        if key.required then none else some none
      else some (some key)
  some { scan with keys := keys }

/-- Drops the possible key of the innermost collection. A required key must not be dropped. -/
def removeKey? (scan : Scan) : Option Scan :=
  match scan.keys with
  | some key :: others =>
    if key.required then none else some { scan with keys := none :: others }
  | _ => some scan

/-- Notes that a key may begin here. -/
def saveKey? (scan : Scan) : Option Scan :=
  if scan.keyAllowed then do
    let scan ← scan.removeKey?
    let key : PossibleKey :=
      ⟨scan.tokens.size, scan.input.index, scan.input.line, scan.input.column,
        !scan.inFlow && scan.indent == (scan.input.column : Int)⟩
    some { scan with keys := some key :: scan.keys.drop 1 }
  else some scan

/-- Closes the block collections that are indented further than a column. The first number bounds
the steps. -/
def unrollFrom (column : Int) : Nat → Scan → Scan
  | 0, scan => scan
  | steps + 1, scan =>
    if column < scan.indent then
      unrollFrom column steps
        { scan.push .blockEnd with
          indent := scan.indents.headD (-1), indents := scan.indents.drop 1 }
    else scan

/-- Closes the block collections that are indented further than a column, unless a flow collection
is open. -/
def unroll (scan : Scan) (column : Int) : Scan :=
  if scan.inFlow then scan else unrollFrom column scan.indents.length scan

/-- Opens a block collection at a column that is further right than the open ones. Its token
comes before the token with the given number. -/
def roll (scan : Scan) (column number : Nat) (token : Token) : Scan :=
  if !scan.inFlow && scan.indent < column then
    { scan.insertAt number token with
      indent := column, indents := scan.indent :: scan.indents }
  else scan

/-- Skips characters and appends the token that they form. -/
def take (scan : Scan) (count : Nat) (token : Token) : Scan :=
  { scan with input := scan.input.skip count }.push token

/-- Ends the tokens. -/
def takeStreamEnd? (scan : Scan) : Option Scan := do
  let scan ← (scan.unroll (-1)).removeKey?
  some ({ scan with keyAllowed := false }.push .streamEnd)

/-- Takes the mark with which a document begins or ends. -/
def takeDocumentMark? (scan : Scan) (token : Token) : Option Scan := do
  let scan ← (scan.unroll (-1)).removeKey?
  some ({ scan with keyAllowed := false }.take 3 token)

/-- Takes the bracket that opens a flow collection. -/
def openFlow? (scan : Scan) (token : Token) : Option Scan := do
  let scan ← scan.saveKey?
  some ({ scan with
    keys := none :: scan.keys, flowLevel := scan.flowLevel + 1, keyAllowed := true }.take 1 token)

/-- Takes the bracket that closes a flow collection. -/
def closeFlow? (scan : Scan) (token : Token) : Option Scan := do
  let scan ← scan.removeKey?
  let keys := if scan.inFlow then scan.keys.drop 1 else scan.keys
  some ({ scan with
    keys := keys, flowLevel := scan.flowLevel - 1, keyAllowed := false }.take 1 token)

/-- Takes the comma between the entries of a flow collection. -/
def takeFlowEntry? (scan : Scan) : Option Scan := do
  let scan ← scan.removeKey?
  some ({ scan with keyAllowed := true }.take 1 .flowEntry)

/-- Opens a block collection at the present column, where this is allowed. -/
def rollHere? (scan : Scan) (token : Token) : Option Scan :=
  if scan.inFlow then some scan
  else if scan.keyAllowed then some (scan.roll scan.input.column scan.tokens.size token)
  else none

/-- Takes the hyphen of an entry of a block sequence. -/
def takeBlockEntry? (scan : Scan) : Option Scan := do
  let scan ← (← scan.rollHere? .blockSequenceStart).removeKey?
  some ({ scan with keyAllowed := true }.take 1 .blockEntry)

/-- Takes the question mark before a key. -/
def takeKey? (scan : Scan) : Option Scan := do
  let scan ← (← scan.rollHere? .blockMappingStart).removeKey?
  some ({ scan with keyAllowed := !scan.inFlow }.take 1 .key)

/-- Takes the colon before a value. It makes a key of the possible key before it, if there is
one. -/
def takeValue? (scan : Scan) : Option Scan :=
  match scan.keys with
  | some key :: others =>
    let scan := (scan.insertAt key.tokenNumber .key).roll key.column key.tokenNumber
      .blockMappingStart
    some ({ scan with keys := none :: others, keyAllowed := false }.take 1 .value)
  | _ => do
    let scan ← scan.rollHere? .blockMappingStart
    some ({ scan with keyAllowed := !scan.inFlow }.take 1 .value)

/-- A character that may follow the name of an anchor or alias directly. -/
def endsName (text : Text) : Bool :=
  atGap text || text.head?.any fun c =>
    c == '?' || c == ':' || c == ',' || c == ']' || c == '}' || c == '%' || c == '@' ||
      c.toNat == 0x60

/-- Takes an anchor or an alias. -/
def takeName? (scan : Scan) (token : Text → Token) : Option Scan := do
  let scan ← scan.saveKey?
  let (name, behind) := (scan.input.skip 1).takeWhile isName
  if name = [] ∨ !endsName behind.rest then none
  else some ({ scan with keyAllowed := false, input := behind }.push (token name))

/-- The text of a tag at the front of the input. There has to be some, and it counts up to the
first zero byte. -/
def takeTagText? (verbatim : Bool) (input : Input) : Option (Tag × Input) := do
  let (bytes, rest) ← Tag.front? verbatim input.rest
  if bytes = [] then none
  else some (Tag.upToZero bytes, input.skip (input.rest.length - rest.length))

/-- The handle at the front: an exclamation mark, a name and perhaps a second exclamation mark. -/
def takeHandle? (input : Input) : Option (Text × Input) :=
  if input.head? == some '!' then
    let (name, behind) := (input.skip 1).takeWhile isName
    if behind.head? == some '!' then some ('!' :: name ++ ['!'], behind.skip 1)
    else some ('!' :: name, behind)
  else none

/-- The handle and the suffix of the tag at the front, and the rest. A tag whose handle is empty
is complete in its suffix; an exclamation mark alone is such a tag. -/
def tagParts? (input : Input) : Option (Text × Tag × Input) :=
  if (Text.after? ['!', '<'] input.rest).isSome then do
    let (suffix, behind) ← takeTagText? true (input.skip 2)
    if behind.head? == some '>' then some ([], suffix, behind.skip 1) else none
  else do
    let (handle, behind) ← takeHandle? input
    if 1 < handle.length ∧ handle.getLast? = some '!' then
      let (suffix, behind) ← takeTagText? false behind
      some (handle, suffix, behind)
    else
      let (bytes, rest) ← Tag.front? false behind.rest
      let behind := behind.skip (behind.rest.length - rest.length)
      match Tag.upToZero (Tag.ofText (handle.drop 1) ++ bytes) with
      | [] => some ([], Tag.mark, behind)
      | suffix => some (['!'], suffix, behind)

/-- Takes a tag. -/
def takeTag? (scan : Scan) : Option Scan := do
  let scan ← scan.saveKey?
  let (handle, suffix, behind) ← tagParts? scan.input
  if atGap behind.rest || (scan.inFlow && behind.head? == some ',') then
    some ({ scan with keyAllowed := false, input := behind }.push (.tag handle suffix))
  else none

/-- Takes a scalar in a block. -/
def takeBlockScalar? (scan : Scan) (literal : Bool) : Option Scan := do
  let scan ← scan.removeKey?
  let scalar ← blockScalar? literal scan.indent scan.input
  some ({ scan with keyAllowed := true, input := scalar.behind }.push (.scalar false scalar.text))

/-- Takes a quoted scalar. -/
def takeQuotedScalar? (scan : Scan) : Option Scan := do
  let scan ← scan.saveKey?
  let scalar ← quotedScalar? scan.input
  some ({ scan with keyAllowed := false, input := scalar.behind }.push (.scalar false scalar.text))

/-- Takes a plain scalar. -/
def takePlainScalar? (scan : Scan) : Option Scan := do
  let scan ← scan.saveKey?
  let scalar ← plainScalar? scan.inFlow (scan.indent + 1) scan.input
  some ({ scan with keyAllowed := scalar.endsLine, input := scalar.behind }.push
    (.scalar true scalar.text))

/-- The digits of a version number. -/
def takeVersionNumber? (input : Input) : Option (Text × Input) :=
  let (digits, behind) := input.takeWhile Char.isDigit
  if digits = [] ∨ 9 < digits.length then none else some (digits, behind)

/-- The directive behind a percent sign. -/
def directive? (input : Input) : Option (Token × Input) := do
  let (name, behind) := input.takeWhile isName
  if !atGap behind.rest then none
  else
    let behind := behind.skipWhile isSpace
    if name = "YAML".toList then
      let (major, behind) ← takeVersionNumber? behind
      let behind ← if behind.head? == some '.' then some (behind.skip 1) else none
      let (minor, behind) ← takeVersionNumber? behind
      some (.versionDirective major minor, behind)
    else if name = "TAG".toList then
      let (handle, behind) ← takeHandle? behind
      let spaced := behind.skipWhile isSpace
      if (handle ≠ ['!'] ∧ (handle.length < 2 ∨ handle.getLast? ≠ some '!')) ∨
          spaced.rest.length = behind.rest.length then none
      else
        let (stem, behind) ← takeTagText? true spaced
        if atGap behind.rest then some (.tagDirective handle stem, behind) else none
    else none

/-- Takes a directive. -/
def takeDirective? (scan : Scan) : Option Scan := do
  let scan ← (scan.unroll (-1)).removeKey?
  let (token, behind) ← directive? (scan.input.skip 1)
  let behind ← behind.finishLine?
  some ({ scan with keyAllowed := false, input := behind }.push token)

/-- The characters that begin no plain scalar, or only before a character that is no gap. -/
def isIndicator (c : Char) : Bool :=
  "-?:,[]{}#&*!|>'\"%@".toList.contains c || c.toNat == 0x60

/-- Takes the token whose first character is given, followed by `rest`. -/
def takeToken? (scan : Scan) (c : Char) (rest : Text) : Option Scan :=
  if scan.input.column == 0 && c == '%' then scan.takeDirective?
  else if scan.input.atMark '-' then scan.takeDocumentMark? .documentStart
  else if scan.input.atMark '.' then scan.takeDocumentMark? .documentEnd
  else if c == '[' then scan.openFlow? .flowSequenceStart
  else if c == '{' then scan.openFlow? .flowMappingStart
  else if c == ']' then scan.closeFlow? .flowSequenceEnd
  else if c == '}' then scan.closeFlow? .flowMappingEnd
  else if c == ',' then scan.takeFlowEntry?
  else if c == '-' && atGap rest then scan.takeBlockEntry?
  else if c == '?' && (scan.inFlow || atGap rest) then scan.takeKey?
  else if c == ':' && (scan.inFlow || atGap rest) then scan.takeValue?
  else if c == '*' then scan.takeName? .alias
  else if c == '&' then scan.takeName? .anchor
  else if c == '!' then scan.takeTag?
  else if c == '|' && !scan.inFlow then scan.takeBlockScalar? true
  else if c == '>' && !scan.inFlow then scan.takeBlockScalar? false
  else if c == '\'' || c == '"' then scan.takeQuotedScalar?
  else if (!isGap c && !isIndicator c) || (c == '-' && !rest.head?.any isSpace) ||
      (!scan.inFlow && (c == '?' || c == ':') && !atGap rest) then scan.takePlainScalar?
  else none

/-- Takes all tokens. The first number bounds the steps. -/
def finish? : Nat → Scan → Option Scan
  | 0, _ => none
  | steps + 1, scan => do
    let scan ← (skipToToken (scan.input.rest.length + 1) scan).dropStaleKeys?
    let scan := scan.unroll scan.input.column
    match scan.input.rest with
    | [] => scan.takeStreamEnd?
    | c :: rest => finish? steps (← scan.takeToken? c rest)

end Scan

/-- The tokens of a text without forbidden characters. -/
def tokens? (text : Text) : Option (List Token) :=
  if text.all isAllowed then
    (Scan.finish? (text.length + 1) (Scan.start text)).map fun scan => scan.tokens.toList
  else none

end TextTemplate.Yaml
