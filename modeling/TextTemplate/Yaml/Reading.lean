import TextTemplate.Json.Basic
import TextTemplate.Number.FloatText
import TextTemplate.Yaml.Node

/-!
# Reading YAML documents

A YAML document of variables is read as the JSON document that it stands for. Plain scalars are
null, truth values and numbers if they look so; other scalars are strings. A tag of the standard
schema decides the kind, and a tag of the document's own is refused. Aliases stand for
their nodes, as long as they do not nest or repeat beyond all measure.
-/

namespace TextTemplate.Yaml

/-- The value of a digit in a base up to sixteen. -/
def digitIn? (base : Nat) (c : Char) : Option Nat :=
  (Digits.hexadecimal? c).filter (· < base)

/-- The number that digits of a base denote. -/
def numberIn? (base : Nat) (digits : Text) : Option Nat :=
  if digits = [] then none
  else digits.foldlM (fun value c => (digitIn? base c).map (value * base + ·)) 0

/-- The base that two characters before digits state, and the digits. -/
def based? : Text → Option (Nat × Text)
  | '0' :: 'x' :: rest => some (16, rest)
  | '0' :: 'o' :: rest => some (8, rest)
  | '0' :: 'b' :: rest => some (2, rest)
  | _ => none

/-- Digits with a nought before them, which are no number. -/
def isPaddedDigits (text : Text) : Bool :=
  let unsigned := match text with
    | '-' :: rest => rest
    | '+' :: rest => rest
    | _ => text
  match unsigned with
  | '0' :: c :: rest => (c :: rest).all Char.isDigit
  | _ => false

/-- The size of the whole number that a text without a sign denotes. -/
def wholeSize? (text : Text) : Option Nat :=
  match based? text with
  | some (base, digits) => numberIn? base digits
  | none => if isPaddedDigits text then none else numberIn? 10 text

/-- The whole number that a plain scalar denotes. -/
def whole? (text : Text) : Option Int :=
  match text with
  | '-' :: rest => (wholeSize? rest).map fun n => -(n : Int)
  | '+' :: rest => (wholeSize? rest).map fun n => (n : Int)
  | _ => (wholeSize? text).map fun n => (n : Int)

/-- The whole numbers of 64 bits, which are kept, and those of 128 bits, which are refused. Larger
ones are no whole numbers. -/
inductive Width where
  | fits
  | wide
  | beyond

/-- The width of a whole number. -/
def width (n : Int) : Width :=
  if -(Nat.pow 2 63 : Int) ≤ n ∧ n < Nat.pow 2 64 then .fits
  else if -(Nat.pow 2 127 : Int) ≤ n ∧ n < Nat.pow 2 128 then .wide
  else .beyond

/-- The floating-point number that a plain scalar denotes. What is not finite has no JSON form and
is null. -/
def floating? (text : Text) : Option Json :=
  let unsigned := match text with
    | '+' :: '+' :: _ => []
    | '+' :: '-' :: _ => []
    | '+' :: rest => rest
    | _ => text
  if [".inf", ".Inf", ".INF"].contains (String.ofList unsigned) ||
      ["-.inf", "-.Inf", "-.INF", ".nan", ".NaN", ".NAN"].contains (String.ofList text) then
    some .null
  else
    (FloatText.read? unsigned).bind fun x => if x.isInf || x.isNaN then none else some (.float x)

/-- The plain scalar is a word for null. -/
def isNullWord (text : Text) : Bool :=
  ["null", "Null", "NULL", "~"].contains (String.ofList text)

/-- The truth value that a plain scalar denotes. -/
def truth? (text : Text) : Option Bool :=
  if ["true", "True", "TRUE"].contains (String.ofList text) then some true
  else if ["false", "False", "FALSE"].contains (String.ofList text) then some false
  else none

/-- The document of a plain scalar without a tag. -/
def plain? (text : Text) : Option Json :=
  if text = [] ∨ isNullWord text then some .null
  else if let some b := truth? text then some (.bool b)
  else
    let other :=
      if isPaddedDigits text then .string (String.ofList text)
      else (floating? text).getD (.string (String.ofList text))
    match whole? text with
    | none => some other
    | some n =>
      match width n with
      | .fits => some (.whole n)
      | .wide => none
      | .beyond => some other

/-- The document of a scalar that no tag gives a kind. -/
def untagged? (plain : Bool) (text : Text) : Option Json :=
  if plain then plain? text else some (.string (String.ofList text))

/-- The document of a scalar with a tag. A tag for null, truth values or numbers has to suit the
text, a tag of the document's own is refused, and any other one makes a string. -/
def tagged? (tag : Tag) (plain : Bool) (text : Text) : Option Json :=
  if tag.isOwn then none
  else if tag.isMarked then untagged? plain text
  else if tag = Tag.standard "bool" then (truth? text).map .bool
  else if tag = Tag.standard "int" then
    (whole? text).bind fun n =>
      match width n with
      | .fits => some (.whole n)
      | _ => none
  else if tag = Tag.standard "float" then floating? text
  else if tag = Tag.standard "null" then (if isNullWord text then some .null else none)
  else some (.string (String.ofList text))

/-- The document of a scalar. -/
def scalar? (tag : Option Tag) (plain : Bool) (text : Text) : Option Json :=
  match tag with
  | none => untagged? plain text
  | some tag => tagged? tag plain text

mutual

/-- The number of parts of a node: the node itself, the end of a collection, and what is in it. -/
def Node.parts : Node → Nat
  | .scalar _ _ _ => 1
  | .alias _ => 1
  | .sequence _ items => 2 + partsOfItems items
  | .mapping _ entries => 2 + partsOfEntries entries

/-- The number of parts of items. -/
def partsOfItems : List Node → Nat
  | [] => 0
  | item :: others => item.parts + partsOfItems others

/-- The number of parts of keys and values. -/
def partsOfEntries : List (Node × Node) → Nat
  | [] => 0
  | (key, value) :: others => key.parts + value.parts + partsOfEntries others

end

/-- Converting counts the aliases that it follows and may fail. -/
abbrev Converting (α : Type) : Type :=
  StateT Nat Option α

/-- The node that an alias stands for, or the node itself. No more aliases are followed than
`limit`. -/
def follow (document : Document) (limit : Nat) (node : Node) : Converting Node :=
  match node with
  | .alias number => do
    let count ← get
    set (count + 1)
    if limit < count + 1 then failure
    else StateT.lift (document.anchored number)
  | _ => pure node

/-- The key that a node denotes, which is the text of a scalar. -/
def keyOf (document : Document) (limit : Nat) (node : Node) : Converting String := do
  match ← follow document limit node with
  | .scalar _ _ text => pure (String.ofList text)
  | _ => failure

/-- Puts the entries of a mapping in order, values being converted by `convert`. -/
def putEntries (document : Document) (limit : Nat) (convert : Node → Converting Json) :
    List (String × Json) → List (Node × Node) → Converting (List (String × Json))
  | entries, [] => pure entries
  | entries, (key, value) :: others => do
    let key ← keyOf document limit key
    let value ← convert value
    putEntries document limit convert (Entries.put key value entries) others

/-- The JSON document of a node in which collections nest up to a depth. -/
def toJson (document : Document) (limit : Nat) : Nat → Node → Converting Json
  | 0, node => do
    match ← follow document limit node with
    | .scalar tag plain text => StateT.lift (scalar? tag plain text)
    | _ => failure
  | depth + 1, node => do
    match ← follow document limit node with
    | .scalar tag plain text => StateT.lift (scalar? tag plain text)
    | .sequence tag items =>
      if tag.any Tag.isOwn then failure else .array <$> items.mapM (toJson document limit depth)
    | .mapping tag entries =>
      if tag.any Tag.isOwn then failure
      else .object <$> putEntries document limit (toJson document limit depth) [] entries
    | .alias _ => failure

/-- The greatest depth to which collections may nest. -/
def maxDepth : Nat :=
  128

/-- The entries of the mapping that a text denotes. A document without content has none. -/
def readObject? (text : Text) : Option (List (String × Json)) := do
  let document ← document? text
  match document.root with
  | none => some []
  | some (.scalar _ true []) => some []
  | some (.mapping tag entries) =>
    let limit := (Node.mapping tag entries).parts * 100
    let (entries, _) ←
      (putEntries document limit (toJson document limit (maxDepth - 1)) [] entries).run 0
    some entries
  | some _ => none

end TextTemplate.Yaml
