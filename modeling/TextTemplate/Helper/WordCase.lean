import TextTemplate.Text

/-!
# Words run together

Camel case and Pascal case: the words of a text without anything between them, each beginning with
a capital letter; camel case keeps the first one small. A word also begins after a number and, as
long as the letter that was last taken over as it is was small, with a capital letter. Only basic
letters change their case.
-/

namespace TextTemplate.WordCase

open Unicode (isAlphanumeric isNumeric isLowercase isUppercase)

/-- What has been seen so far: whether anything was taken, whether the next letter begins a word,
and the last letter that was taken over within a word. -/
structure State where
  started : Bool
  atWordStart : Bool
  lastInner : Char

/-- The letters and numbers of a text, put together from a state on. -/
def joinFrom (state : State) : Text → Text
  | [] => []
  | c :: rest =>
    if !isAlphanumeric c then
      joinFrom (if state.started then { state with atWordStart := true } else state) rest
    else if isNumeric c then
      c :: joinFrom { state with started := true, atWordStart := true } rest
    else if state.atWordStart || (isLowercase state.lastInner && isUppercase c) then
      c.toUpper :: joinFrom { state with started := true, atWordStart := false } rest
    else c.toLower :: joinFrom { state with started := true, lastInner := c } rest

/-- The words of a text run together, the first one beginning with a small letter. -/
def camel (text : Text) : Text :=
  joinFrom ⟨false, false, ' '⟩ text

/-- The words of a text run together, each beginning with a capital letter. -/
def pascal (text : Text) : Text :=
  joinFrom ⟨false, true, ' '⟩ text

end TextTemplate.WordCase
