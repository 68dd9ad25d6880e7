import TextTemplate.Number.Digits
import TextTemplate.Yaml.Input

/-!
# YAML scalars

Scalars are plain, quoted or blocks. Within plain and quoted scalars the blanks around line ends
are folded: a single line end becomes a space, and of several ones the first is dropped. A block
keeps its line ends or folds them, and its indentation is that of its first line.
-/

namespace TextTemplate.Yaml

/-- Blanks between two characters of a scalar: spaces of one line, or the first line end and the
line ends behind it. -/
inductive Gap where
  | spaces (text : Text)
  | breaks (first others : Text)

namespace Gap

/-- The text that a gap stands for. -/
def text : Gap → Text
  | spaces text => text
  | breaks first others =>
    if first.head? == some '\n' then (if others = [] then [' '] else others) else first ++ others

/-- The gap goes over a line end. -/
def hasBreak : Gap → Bool
  | spaces _ => false
  | breaks _ _ => true

/-- Extends a gap by the blanks at the front. Behind a line end, a tab before the column `indent`
is not allowed. The first number bounds the steps. -/
def extend? (indent : Int) : Nat → Gap → Input → Option (Gap × Input)
  | 0, gap, input => some (gap, input)
  | steps + 1, gap, input =>
    match input.rest with
    | [] => some (gap, input)
    | c :: _ =>
      if isSpace c then
        match gap with
        | spaces text => extend? indent steps (spaces (text ++ [c])) (input.skip 1)
        | breaks _ _ =>
          if c == '\t' && (input.column : Int) < indent then none
          else extend? indent steps gap (input.skip 1)
      else if isBreak c then
        let (taken, behind) := input.takeBreak
        match gap with
        | spaces _ => extend? indent steps (breaks taken []) behind
        | breaks first others => extend? indent steps (breaks first (others ++ taken)) behind
      else some (gap, input)

end Gap

/-- A scalar's text, the rest of the input, and whether the scalar was followed by a line end. -/
structure ScannedScalar where
  text : Text
  behind : Input
  endsLine : Bool

/-- A bracket or comma of flow collections. -/
def isFlowMark (c : Char) : Bool :=
  c == ',' || c == '[' || c == ']' || c == '{' || c == '}'

/-- What a character means within a plain scalar. -/
inductive PlainStep where
  | part
  | finish
  | fault

/-- What the first character of a text means within a plain scalar. A colon before a gap ends it,
and in a flow collection brackets and commas do; a colon directly before one of these is a
fault. -/
def plainStep (inFlow : Bool) : Text → PlainStep
  | [] => .finish
  | c :: rest =>
    if inFlow && c == ':' && rest.head?.any fun d => d == '?' || isFlowMark d then .fault
    else if c == ':' && atGap rest then .finish
    else if inFlow && isFlowMark c then .finish
    else .part

/-- The rest of a plain scalar behind the text `before`, which is given from right to left, and a
gap. The first number bounds the steps. -/
def plainFrom? (inFlow : Bool) (indent : Int) :
    Nat → Text → Gap → Input → Option ScannedScalar
  | 0, before, gap, input => some ⟨before.reverse, input, gap.hasBreak⟩
  | steps + 1, before, gap, input =>
    let finished : ScannedScalar := ⟨before.reverse, input, gap.hasBreak⟩
    match input.rest with
    | [] => some finished
    | c :: _ =>
      if isGap c then
        match gap.extend? indent input.rest.length input with
        | none => none
        | some (gap, behind) =>
          if (!inFlow && (behind.column : Int) < indent) || behind.atDocumentMark ||
              behind.head? == some '#' then
            some ⟨before.reverse, behind, gap.hasBreak⟩
          else plainFrom? inFlow indent steps before gap behind
      else
        match plainStep inFlow input.rest with
        | .fault => none
        | .finish => some finished
        | .part =>
          plainFrom? inFlow indent steps (c :: (gap.text.reverse ++ before)) (.spaces [])
            (input.skip 1)

/-- The plain scalar at the front. -/
def plainScalar? (inFlow : Bool) (indent : Int) (input : Input) : Option ScannedScalar :=
  plainFrom? inFlow indent (2 * input.rest.length + 1) [] (.spaces []) input

/-- The rest of a single-quoted scalar behind the text `before`, which is given from right to left.
The first number bounds the steps. -/
def singleQuotedFrom? : Nat → Text → Input → Option ScannedScalar
  | 0, _, _ => none
  | steps + 1, before, input =>
    if input.atDocumentMark then none
    else
      match input.rest with
      | [] => none
      | '\'' :: '\'' :: _ => singleQuotedFrom? steps ('\'' :: before) (input.skip 2)
      | '\'' :: _ => some ⟨before.reverse, input.skip 1, false⟩
      | c :: _ =>
        if isGap c then
          match (Gap.spaces []).extend? 0 input.rest.length input with
          | none => none
          | some (gap, behind) =>
            singleQuotedFrom? steps (gap.text.reverse ++ before) behind
        else singleQuotedFrom? steps (c :: before) (input.skip 1)

/-- The character that a letter denotes behind a backslash. -/
def escape? (letter : Char) : Option Char :=
  match letter with
  | '0' => some '\x00'
  | 'a' => some '\x07'
  | 'b' => some '\x08'
  | 't' => some '\t'
  | '\t' => some '\t'
  | 'n' => some '\n'
  | 'v' => some '\x0b'
  | 'f' => some '\x0c'
  | 'r' => some '\r'
  | 'e' => some '\x1b'
  | ' ' => some ' '
  | '"' => some '"'
  | '/' => some '/'
  | '\\' => some '\\'
  | 'N' => some (Char.ofNat 0x85)
  | '_' => some (Char.ofNat 0xA0)
  | 'L' => some (Char.ofNat 0x2028)
  | 'P' => some (Char.ofNat 0x2029)
  | _ => none

/-- The number of hexadecimal digits that a letter asks for behind a backslash. -/
def escapeWidth? (letter : Char) : Option Nat :=
  match letter with
  | 'x' => some 2
  | 'u' => some 4
  | 'U' => some 8
  | _ => none

/-- The number that hexadecimal digits denote. -/
def hexNumber? (digits : Text) : Option Nat :=
  digits.foldlM (fun value c => (Digits.hexadecimal? c).map (value * 16 + ·)) 0

/-- The character that an escape denotes, and the number of characters behind the backslash that
it takes. -/
def escaped? : Text → Option (Char × Nat)
  | [] => none
  | letter :: rest =>
    match escapeWidth? letter with
    | none => (escape? letter).map (·, 1)
    | some width => do
      let point ← if rest.length < width then none else hexNumber? (rest.take width)
      if (0xD800 ≤ point ∧ point ≤ 0xDFFF) ∨ 0x10FFFF < point then none
      else some (Char.ofNat point, width + 1)

/-- The rest of a double-quoted scalar behind the text `before`, which is given from right to left.
The first number bounds the steps. -/
def doubleQuotedFrom? : Nat → Text → Input → Option ScannedScalar
  | 0, _, _ => none
  | steps + 1, before, input =>
    if input.atDocumentMark then none
    else
      match input.rest with
      | [] => none
      | '"' :: _ => some ⟨before.reverse, input.skip 1, false⟩
      | '\\' :: rest =>
        if rest.head?.any isBreak then
          match (Gap.breaks [] []).extend? 0 rest.length (input.skip 1).takeBreak.2 with
          | none => none
          | some (gap, behind) =>
            doubleQuotedFrom? steps (gap.text.reverse ++ before) behind
        else
          match escaped? rest with
          | none => none
          | some (c, width) => doubleQuotedFrom? steps (c :: before) (input.skip (width + 1))
      | c :: _ =>
        if isGap c then
          match (Gap.spaces []).extend? 0 input.rest.length input with
          | none => none
          | some (gap, behind) =>
            doubleQuotedFrom? steps (gap.text.reverse ++ before) behind
        else doubleQuotedFrom? steps (c :: before) (input.skip 1)

/-- The quoted scalar whose opening quote is at the front. -/
def quotedScalar? (input : Input) : Option ScannedScalar :=
  if input.head? == some '\'' then
    singleQuotedFrom? (input.rest.length + 1) [] (input.skip 1)
  else doubleQuotedFrom? (input.rest.length + 1) [] (input.skip 1)

/-- What becomes of the line ends at the end of a block. -/
inductive Chomping where
  | strip
  | clip
  | keep

/-- The sign of a chomping mode. -/
def chomping? : Char → Option Chomping
  | '+' => some .keep
  | '-' => some .strip
  | _ => none

/-- The indentation that a digit states; nought is none. -/
def indentation? (c : Char) : Option Nat :=
  if c.isDigit && c != '0' then some (c.toNat - '0'.toNat) else none

/-- The chomping and the indentation that a block's header states, in either order, and the
number of characters that state them. -/
def blockHeader? : Text → Option (Chomping × Option Nat × Nat)
  | [] => some (.clip, none, 0)
  | c :: rest =>
    match chomping? c with
    | some chomping =>
      match rest.head? with
      | none => some (chomping, none, 1)
      | some d =>
        if d.isDigit then (indentation? d).map fun width => (chomping, some width, 2)
        else some (chomping, none, 1)
    | none =>
      if c.isDigit then
        (indentation? c).map fun width =>
          match rest.head?.bind chomping? with
          | some chomping => (chomping, some width, 2)
          | none => (.clip, some width, 1)
      else some (.clip, none, 0)

/-- Skips indentation and blank lines within a block. Without an indentation so far, the widest of
these lines is noted. The result holds their line ends, the widest column, and the rest. The first
number bounds the steps. -/
def blockBreaks? (indent : Option Nat) :
    Nat → Text → Nat → Input → Option (Text × Nat × Input)
  | 0, breaks, widest, input => some (breaks, widest, input)
  | steps + 1, breaks, widest, input =>
    let spaces := (input.rest.takeWhile (· == ' ')).length
    let input := input.skip (match indent with
      | some column => min spaces (column - input.column)
      | none => spaces)
    let widest := max widest input.column
    let short := match indent with
      | some column => decide (input.column < column)
      | none => true
    match input.rest with
    | [] => some (breaks, widest, input)
    | c :: _ =>
      if short && c == '\t' then none
      else if isBreak c then
        let (taken, behind) := input.takeBreak
        blockBreaks? indent steps (breaks ++ taken) widest behind
      else some (breaks, widest, input)

/-- The lines of a block at the column `indent`, behind the text `before`. `pending` is the line
end of the line before, `breaks` the line ends of the blank lines behind it, and `afterBlank` tells
whether that line began with a blank. The result holds the text, the line ends left over, and the
rest. The first number bounds the steps. -/
def blockLines? (literal : Bool) (indent : Nat) :
    Nat → Text → Text → Text → Bool → Input → Option (Text × Text × Text × Input)
  | 0, before, pending, breaks, _, input => some (before, pending, breaks, input)
  | steps + 1, before, pending, breaks, afterBlank, input =>
    if input.column != indent || input.rest = [] then some (before, pending, breaks, input)
    else
      let beginsBlank := input.head?.any isSpace
      let folded := !literal && pending.head? == some '\n' && !afterBlank && !beginsBlank
      let joint := if folded then (if breaks = [] then [' '] else []) else pending
      let (line, behind) := input.takeWhile (!isBreak ·)
      let (pending, behind) := behind.takeBreak
      match blockBreaks? (some indent) behind.rest.length [] 0 behind with
      | none => none
      | some (nextBreaks, _, behind) =>
        blockLines? literal indent steps (before ++ joint ++ breaks ++ line) pending nextBreaks
          beginsBlank behind

/-- The block whose indicator is at the front, in a collection that is indented to `parent`. -/
def blockScalar? (literal : Bool) (parent : Int) (input : Input) : Option ScannedScalar := do
  let input := input.skip 1
  let (chomping, stated, width) ← blockHeader? input.rest
  let input ← (input.skip width).finishLine?
  let outer := (max parent 0).toNat
  let (breaks, widest, input) ←
    blockBreaks? (stated.map (outer + ·)) (input.rest.length + 1) [] 0 input
  let indent := (stated.map (outer + ·)).getD (max (max widest (parent + 1).toNat) 1)
  let (text, pending, breaks, input) ←
    blockLines? literal indent (input.rest.length + 1) [] [] breaks false input
  let tail := match chomping with
    | .strip => []
    | .clip => pending
    | .keep => pending ++ breaks
  some ⟨text ++ tail, input, true⟩

end TextTemplate.Yaml
