import TextTemplate.Expression.Path

/-!
# Expressions

An expression is a path that begins with a name, or the look-up of a quoted key followed by the
steps of a path. The look-up reaches keys that a path cannot spell. A leading `Context` and point
may be written before a path and say nothing more.
-/

namespace TextTemplate

/-- An expression: nothing, a look-up by key, or a path from a name. -/
inductive Expression where
  | blank
  | lookup (key : Text) (steps : List Path.Step)
  | path (root : Text) (steps : List Path.Step)

namespace Expression

/-- The word that names the root scope. -/
def scopeWord : Text :=
  "Context".toList

/-- A single or double quote. -/
def isQuote (c : Char) : Bool :=
  c == '"' || c == '\''

/-- The text behind a quote. -/
def afterQuote? : Text → Option Text
  | c :: rest => if isQuote c then some rest else none
  | [] => none

/-- The key of a look-up and the text behind its closing parenthesis, which goes to the end of the
line and of the expression. -/
def lookupParts? (text : Text) : Option (Text × Text) := do
  let rest ← Text.after? scopeWord text
  let rest ← Text.after? ['.'] (Text.trimStart rest)
  let rest ← Text.after? "Get(".toList (Text.trimStart rest)
  let rest ← afterQuote? (Text.trimStart rest)
  let key := rest.takeWhile (!isQuote ·)
  let rest ← afterQuote? (rest.dropWhile (!isQuote ·))
  let rest ← Text.after? [')'] (Text.trimStart rest)
  if rest.contains '\n' then none else some (key, rest)

/-- The path without the word for the root scope before it. -/
def withoutScope (text : Text) : Text :=
  (Text.after? (scopeWord ++ ['.']) text).getD text

/-- The expression that a path denotes. A path that does not begin with a name denotes nothing. -/
def ofSteps : List Path.Step → Expression
  | .member root :: steps => .path root steps
  | _ => .blank

/-- The expression that a text denotes. -/
def ofText (text : Text) : Expression :=
  let text := Text.trim text
  match lookupParts? text with
  | some (key, rest) => .lookup key (Path.steps rest)
  | none => ofSteps (Path.steps (withoutScope text))

/-- The steps of an expression behind its root. -/
def steps : Expression → List Path.Step
  | .blank => []
  | .lookup _ steps => steps
  | .path _ steps => steps

theorem length_afterQuote?_le {text following : Text} (found : afterQuote? text = some following) :
    following.length ≤ text.length := by
  unfold afterQuote? at found
  split at found
  · split at found
    · simp [← Option.some.inj found]
    · simp at found
  · simp at found

theorem length_lookupParts?_le {text key rest : Text}
    (found : lookupParts? text = some (key, rest)) : rest.length ≤ text.length := by
  simp only [lookupParts?, Option.bind_eq_bind, Option.bind_eq_some_iff] at found
  rcases found with ⟨a, ha, b, hb, c, hc, d, hd, e, he, f, hf, last⟩
  split at last
  · simp at last
  · rcases Prod.mk.inj (Option.some.inj last) with ⟨rfl, rfl⟩
    have := Text.length_after?_le ha
    have := Text.length_after?_le hb
    have := Text.length_after?_le hc
    have := length_afterQuote?_le hd
    have := length_afterQuote?_le he
    have := Text.length_after?_le hf
    have := Text.length_trimStart_le a
    have := Text.length_trimStart_le b
    have := Text.length_trimStart_le c
    have := Text.length_dropWhile_le (!isQuote ·) d
    have := Text.length_trimStart_le e
    omega

theorem length_withoutScope_le (text : Text) : (withoutScope text).length ≤ text.length := by
  unfold withoutScope
  cases found : Text.after? (scopeWord ++ ['.']) text with
  | none => simp
  | some following => simpa using Text.length_after?_le found

theorem weight_ofSteps_le (steps : List Path.Step) :
    Path.weight (ofSteps steps).steps ≤ Path.weight steps := by
  unfold ofSteps
  split <;> simp [Expression.steps, Path.weight]

/-- The arguments within an expression are no longer together than its text. -/
theorem weight_steps_ofText_le (text : Text) :
    Path.weight (ofText text).steps ≤ text.length := by
  have trimmed := Text.length_trim_le text
  simp only [ofText]
  split
  · rename_i key rest found
    have := Path.weight_steps_le rest
    have := length_lookupParts?_le found
    simp only [Expression.steps]
    omega
  · have := weight_ofSteps_le (Path.steps (withoutScope (Text.trim text)))
    have := Path.weight_steps_le (withoutScope (Text.trim text))
    have := length_withoutScope_le (Text.trim text)
    omega

end Expression

end TextTemplate
