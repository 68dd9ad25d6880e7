import TextTemplate.Expression.Resolve
import TextTemplate.Helper.Registry

/-!
# Interpolation

A text is interpolated by replacing its spans: a dollar sign and an opening brace, then whatever is
in the way of the first closing brace on the same line. A span is an expression with a fallback for
values that are null or empty, or an expression whose value passes through a chain of helpers. The
fallback counts only in a span without a chain.
-/

namespace TextTemplate

/-- A stage of a chain of helpers. -/
structure Stage where
  name : Text
  argument : Option Text

/-- The content of a span. -/
inductive Span where
  | fallback (expression other : Text)
  | chain (expression : Text) (stages : List Stage)

/-- A part of a text: a character that stands for itself, or the inside of a span. -/
inductive Segment where
  | plain (c : Char)
  | span (inner : Text)

namespace Stage

/-- The stage that a text denotes: a name, and an argument behind a colon. -/
def ofText (text : Text) : Stage :=
  match Text.cutAt? ':' text with
  | some (name, argument) => ⟨Text.trim name, some (Text.unquote (Text.trim argument))⟩
  | none => ⟨text, none⟩

/-- The stages that the texts between bars denote; blank ones are passed over. -/
def ofTexts (texts : List Text) : List Stage :=
  ((texts.map Text.trim).filter (· ≠ [])).map ofText

end Stage

namespace Span

/-- The content that is written inside a span. -/
def ofText (inner : Text) : Span :=
  match Text.pieces '|' inner with
  | [] => .chain [] []
  | [only] =>
    match Text.cut? ['?', '?'] only with
    | some (expression, other) => .fallback expression (Text.unquote (Text.trim other))
    | none => .chain only []
  | expression :: stages => .chain expression (Stage.ofTexts stages)

end Span

namespace Segment

/-- A character that can be inside a span. -/
def isInner (c : Char) : Bool :=
  c != '}' && c != '\n'

/-- The inside of the span that begins behind an opening brace, and the text behind it. -/
def inner? (text : Text) : Option (Text × Text) :=
  match text.dropWhile isInner with
  | '}' :: rest => some (text.takeWhile isInner, rest)
  | _ => none

theorem length_inner?_le {text inner rest : Text} (found : inner? text = some (inner, rest)) :
    rest.length ≤ text.length := by
  have shorter := Text.length_dropWhile_le isInner text
  unfold inner? at found
  split at found
  · rename_i after split_text
    rcases Prod.mk.inj (Option.some.inj found) with ⟨-, rfl⟩
    rw [split_text, List.length_cons] at shorter
    omega
  · simp at found

/-- The segments of a text. -/
def ofText (text : Text) : List Segment :=
  match text with
  | '$' :: '{' :: rest =>
    match _found : inner? rest with
    | some (inner, following) => .span inner :: ofText following
    | none => .plain '$' :: ofText ('{' :: rest)
  | c :: rest => .plain c :: ofText rest
  | [] => []
termination_by text.length
decreasing_by
  · have := length_inner?_le _found
    simp only [List.length_cons]
    omega
  · simp
  · simp

/-- Without a dollar sign there is no span. -/
theorem ofText_of_notMem {text : Text} (plain : '$' ∉ text) : ofText text = text.map .plain := by
  induction text with
  | nil => rw [ofText, List.map_nil]
  | cons c rest ih =>
    rw [List.mem_cons, not_or] at plain
    rw [ofText, List.map_cons, ih plain.2]
    intro following opened
    exact absurd opened.symm plain.1

end Segment

namespace Interpolation

variable {σ : Type} [Host σ]

/-- Passes a value through the stages of a chain. -/
def applyStages (registry : Registry σ) (value : Value σ) : List Stage → Attempt (Value σ)
  | [] => pure value
  | stage :: others => do
    let next ← registry.apply value (String.ofList stage.name) stage.argument
    applyStages registry next others

/-- The text that a span leaves. -/
def resolveSpan (registry : Registry σ) (scope : Scope σ) : Span → Attempt Text
  | .fallback expression other => do
    let value ← Attempt.ofTraced (Expression.resolve scope expression)
    pure (if value.isNull || value.string? == some "" then other else value.display)
  | .chain expression stages => do
    let value ← Attempt.ofTraced (Expression.resolve scope expression)
    let result ← applyStages registry value stages
    pure result.display

/-- The text that segments leave. -/
def resolveSegments (registry : Registry σ) (scope : Scope σ) : List Segment → Attempt Text
  | [] => pure []
  | .plain c :: others => do
    let rest ← resolveSegments registry scope others
    pure (c :: rest)
  | .span inner :: others => do
    let shown ← resolveSpan registry scope (Span.ofText inner)
    let rest ← resolveSegments registry scope others
    pure (shown ++ rest)

/-- The text with all spans replaced. -/
def resolveText (registry : Registry σ) (scope : Scope σ) (text : Text) : Attempt Text :=
  resolveSegments registry scope (Segment.ofText text)

theorem outcome_resolveText_of_notMem (registry : Registry σ) (scope : Scope σ) {text : Text}
    (plain : '$' ∉ text) : (resolveText registry scope text).outcome = .ok text := by
  rw [resolveText, Segment.ofText_of_notMem plain]
  clear plain
  induction text with
  | nil => rfl
  | cons c rest ih =>
    rw [List.map_cons, resolveSegments, Attempt.outcome_bind, ih]
    rfl

end Interpolation

end TextTemplate
