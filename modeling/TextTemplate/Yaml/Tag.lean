import TextTemplate.Number.Digits
import TextTemplate.Yaml.Input

/-!
# YAML tags

A tag names the kind of a node. It is written in basic characters, and any byte can be written as an
escape; the escapes come in groups that are shaped like characters but need not be any. So a tag is
a sequence of bytes. A zero byte ends it, whatever is written behind.
-/

namespace TextTemplate.Yaml

/-- The bytes of a tag. -/
abbrev Tag : Type :=
  List UInt8

namespace Tag

/-- The tag that a text spells. -/
def ofText (text : Text) : Tag :=
  (String.ofList text).toUTF8.toList

/-- The exclamation mark, which begins the tags that a document makes up for itself. -/
def mark : Tag :=
  ofText ['!']

/-- The tag of the standard schema with a name. -/
def standard (name : String) : Tag :=
  ofText ("tag:yaml.org,2002:".toList ++ name.toList)

/-- The bytes before the first zero byte. -/
def upToZero (bytes : Tag) : Tag :=
  bytes.takeWhile (· != 0)

/-- A tag that begins with the exclamation mark. -/
def isMarked (tag : Tag) : Bool :=
  mark.isPrefixOf tag

/-- A tag that a document makes up for itself: an exclamation mark and then characters. -/
def isOwn (tag : Tag) : Bool :=
  tag.isMarked && (String.fromUTF8? ⟨(tag.drop mark.length).toArray⟩).isSome

/-- A character of a tag. Commas and brackets belong to tags between angle brackets only. -/
def isTagChar (verbatim : Bool) (c : Char) : Bool :=
  isName c || ";/?:@&=+$.%!~*()".toList.contains c || c == '\'' ||
    (verbatim && (c == ',' || c == '[' || c == ']'))

/-- The number of bytes in a group, by its first one. -/
def groupSize? (byte : UInt8) : Option Nat :=
  if byte < 0x80 then some 1
  else if 0xC0 ≤ byte ∧ byte < 0xE0 then some 2
  else if 0xE0 ≤ byte ∧ byte < 0xF0 then some 3
  else if 0xF0 ≤ byte ∧ byte < 0xF8 then some 4
  else none

/-- The byte that is written as a percent sign and two hexadecimal digits. -/
def escapedByte? : Text → Option (UInt8 × Text)
  | '%' :: a :: b :: rest => do
    let high ← Digits.hexadecimal? a
    let low ← Digits.hexadecimal? b
    some (UInt8.ofNat (high * 16 + low), rest)
  | _ => none

/-- Some bytes that continue a group, each of them escaped. -/
def continuation? : Nat → Text → Option (Tag × Text)
  | 0, rest => some ([], rest)
  | count + 1, rest => do
    let (byte, rest) ← escapedByte? rest
    if 0x80 ≤ byte ∧ byte < 0xC0 then
      let (others, rest) ← continuation? count rest
      some (byte :: others, rest)
    else none

/-- The group of escaped bytes at the front. -/
def escapedGroup? (text : Text) : Option (Tag × Text) := do
  let (byte, rest) ← escapedByte? text
  let size ← groupSize? byte
  let (others, rest) ← continuation? (size - 1) rest
  some (byte :: others, rest)

/-- The bytes of the tag text at the front, and the text behind it. The first number bounds the
steps. -/
def frontWithin? (verbatim : Bool) : Nat → Text → Option (Tag × Text)
  | 0, text => some ([], text)
  | _, [] => some ([], [])
  | steps + 1, c :: rest =>
    if !isTagChar verbatim c then some ([], c :: rest)
    else do
      let (bytes, rest) ← if c = '%' then escapedGroup? (c :: rest) else some (ofText [c], rest)
      let (others, rest) ← frontWithin? verbatim steps rest
      some (bytes ++ others, rest)

/-- The bytes of the tag text at the front, and the text behind it. -/
def front? (verbatim : Bool) (text : Text) : Option (Tag × Text) :=
  frontWithin? verbatim text.length text

end Tag

end TextTemplate.Yaml
