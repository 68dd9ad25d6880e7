import TextTemplate.Text

/-!
# Paths

A path is a sequence of steps: members, which are separated by points, and calls in parentheses.
The argument of a call is a literal if it is written in quotes, and else an expression. The
parenthesis that closes a call balances the opening one; parentheses within quotes do not count,
and a call that is not closed goes to the end of the path.
-/

namespace TextTemplate

namespace Text

/-- The position of the parenthesis that balances the first one, given how many are open and the
quote that is open. -/
def closingFrom (depth : Nat) (quote : Option Char) : Text → Option Nat
  | [] => none
  | c :: rest =>
    match quote with
    | some q => (closingFrom depth (if c = q then none else quote) rest).map (· + 1)
    | none =>
      if c = '\'' ∨ c = '"' then (closingFrom depth (some c) rest).map (· + 1)
      else if c = '(' then (closingFrom (depth + 1) none rest).map (· + 1)
      else if c = ')' then
        if depth = 1 then some 0 else (closingFrom (depth - 1) none rest).map (· + 1)
      else (closingFrom depth none rest).map (· + 1)

/-- The position of the parenthesis that closes the one with which the text begins. -/
def closing? (text : Text) : Option Nat :=
  closingFrom 0 none text

/-- A character closes the outermost parenthesis, or the search goes on behind it. -/
theorem closingFrom_cons (depth : Nat) (quote : Option Char) (c : Char) :
    (c = ')' ∧ ∀ rest, closingFrom depth quote (c :: rest) = some 0) ∨
      ∃ inner open?, ∀ rest,
        closingFrom depth quote (c :: rest) = (closingFrom inner open? rest).map (· + 1) := by
  cases quote with
  | some mark => exact .inr ⟨depth, _, fun rest => rfl⟩
  | none =>
    simp only [closingFrom]
    split
    · exact .inr ⟨_, _, fun rest => rfl⟩
    · split
      · exact .inr ⟨_, _, fun rest => rfl⟩
      · split
        · rename_i closing
          split
          · exact .inl ⟨closing, fun rest => rfl⟩
          · exact .inr ⟨_, _, fun rest => rfl⟩
        · exact .inr ⟨_, _, fun rest => rfl⟩

end Text

namespace Path

/-- The argument of a call. -/
inductive Argument where
  | literal (text : Text)
  | expression (text : Text)
deriving DecidableEq

/-- A step of a path. -/
inductive Step where
  | member (name : Text)
  | call (argument : Argument)
deriving DecidableEq

/-- The argument that is written between the parentheses of a call. -/
def Argument.ofInner (inner : Text) : Argument :=
  let trimmed := Text.trim inner
  let unquoted := Text.unquote trimmed
  if unquoted.length = trimmed.length then .expression trimmed else .literal unquoted

/-- What separates the steps of a path. -/
def isSeparator (c : Char) : Bool :=
  c == '.' || c == ' ' || c == '\t'

/-- A character within the name of a member. -/
def isMemberChar (c : Char) : Bool :=
  c != '.' && c != '('

/-- The steps of a path. -/
def steps (path : Text) : List Step :=
  match path with
  | [] => []
  | c :: rest =>
    if isSeparator c then steps rest
    else if c = '(' then
      let close := (Text.closing? path).getD path.length
      .call (.ofInner (rest.take (close - 1))) :: steps (rest.drop close)
    else
      .member (Text.trim (c :: rest.takeWhile isMemberChar)) ::
        steps (rest.dropWhile isMemberChar)
termination_by path.length
decreasing_by
  · simp
  · simp only [List.length_drop, List.length_cons]
    omega
  · have := Text.length_dropWhile_le isMemberChar rest
    simp only [List.length_cons]
    omega

/-- The room that the expression of a step takes in its path. -/
def Step.weight : Step → Nat
  | .call (.expression text) => text.length + 1
  | _ => 0

/-- The room that the expressions of steps take in their path. -/
def weight : List Step → Nat
  | [] => 0
  | step :: others => step.weight + weight others

theorem weight_ofInner_le (inner : Text) :
    (Step.call (.ofInner inner)).weight ≤ inner.length + 1 := by
  simp only [Argument.ofInner]
  split
  · simpa [Step.weight] using Text.length_trim_le inner
  · simp [Step.weight]

/-- The expressions within a path are no longer together than the path. -/
theorem weight_steps_le (path : Text) : weight (steps path) ≤ path.length := by
  fun_induction steps path with
  | case1 => simp [weight]
  | case2 c rest _ ih => exact Nat.le_trans ih (by simp)
  | case3 rest _ close ih =>
    have inner := weight_ofInner_le (rest.take (close - 1))
    change weight (.call (.ofInner (rest.take (close - 1))) :: steps (rest.drop close)) ≤ _
    generalize close = position at *
    simp only [weight, List.length_drop, List.length_take, List.length_cons] at *
    omega
  | case4 c rest _ _ ih =>
    have shorter := Text.length_dropWhile_le isMemberChar rest
    simp only [weight, List.length_cons, Step.weight] at *
    omega

end Path

end TextTemplate
