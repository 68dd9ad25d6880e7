import TextTemplate.Json.Lexer

/-!
# Reading JSON documents

The tokens are read one after the other. The arrays and objects that are still open lie on a
stack; a value that is complete joins the innermost of them, or is the document if none is open.
At most 127 of them may be open at once.
-/

namespace TextTemplate.Json

/-- An array or object that is still open. An array holds its items, the latest first; an object
holds its entries and the key whose value is being read. -/
inductive Frame where
  | array (items : List Json)
  | object (entries : List (String × Json)) (key : String)

/-- What may come next. -/
inductive Stage where
  | value
  | itemOrEnd
  | keyOrEnd
  | key
  | colon
  | afterItem
  | done (document : Json)

/-- The greatest number of arrays and objects that may be open at once. -/
def maxOpen : Nat :=
  127

/-- Gives a complete value to the innermost open array or object. -/
def attach (value : Json) : List Frame → Stage × List Frame
  | [] => (.done value, [])
  | .array items :: frames => (.afterItem, .array (value :: items) :: frames)
  | .object entries key :: frames =>
    (.afterItem, .object (Entries.put key value entries) key :: frames)

/-- Opens an array or object, if one more may be open. -/
def openFrame (frame : Frame) (stage : Stage) (frames : List Frame) :
    Option (Stage × List Frame) :=
  if frames.length < maxOpen then some (stage, frame :: frames) else none

/-- Takes a token that begins a value. -/
def beginValue (frames : List Frame) : Token → Option (Stage × List Frame)
  | .openArray => openFrame (.array []) .itemOrEnd frames
  | .openObject => openFrame (.object [] "") .keyOrEnd frames
  | .string s => some (attach (.string s) frames)
  | .scalar value => some (attach value frames)
  | _ => none

/-- Takes the key of an entry. -/
def takeKey (key : String) : List Frame → Option (Stage × List Frame)
  | .object entries _ :: frames => some (.colon, .object entries key :: frames)
  | _ => none

/-- Takes a comma or the bracket that closes the innermost array or object. -/
def continueFrame : List Frame → Token → Option (Stage × List Frame)
  | .array items :: frames, .comma => some (.value, .array items :: frames)
  | .array items :: frames, .closeArray => some (attach (.array items.reverse) frames)
  | .object entries key :: frames, .comma => some (.key, .object entries key :: frames)
  | .object entries _ :: frames, .closeObject => some (attach (.object entries) frames)
  | _, _ => none

/-- Takes one token. -/
def step (stage : Stage) (frames : List Frame) (token : Token) : Option (Stage × List Frame) :=
  match stage, token with
  | .value, _ => beginValue frames token
  | .itemOrEnd, .closeArray => continueFrame frames .closeArray
  | .itemOrEnd, _ => beginValue frames token
  | .keyOrEnd, .closeObject => continueFrame frames .closeObject
  | .keyOrEnd, .string key => takeKey key frames
  | .key, .string key => takeKey key frames
  | .colon, .colon => some (.value, frames)
  | .afterItem, _ => continueFrame frames token
  | _, _ => none

/-- Takes all tokens, after which the document has to be complete. -/
def run (stage : Stage) (frames : List Frame) : List Token → Option Json
  | [] =>
    match stage with
    | .done document => some document
    | _ => none
  | token :: rest => (step stage frames token).bind fun next => run next.1 next.2 rest

/-- The document that a text denotes. -/
def read? (text : Text) : Option Json :=
  (tokens? text).bind (run .value [])

/-- The entries of the object that a text denotes. -/
def readObject? (text : Text) : Option (List (String × Json)) :=
  match read? text with
  | some (.object entries) => some entries
  | _ => none

end TextTemplate.Json
