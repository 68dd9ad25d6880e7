import TextTemplate.Text

/-!
# Comments

A comment goes from its opening mark to the first closing mark behind it and may span lines. An
opening mark that is never closed is plain text.
-/

namespace TextTemplate.Comment

/-- The mark that opens a comment. -/
def opening : Text :=
  ['@', '*']

/-- The mark that closes a comment. -/
def closing : Text :=
  ['*', '@']

/-- The text without its comments. -/
def strip (text : Text) : Text :=
  match text with
  | '@' :: '*' :: rest =>
    match _found : Text.cut? closing rest with
    | some (_, after) => strip after
    | none => '@' :: strip ('*' :: rest)
  | c :: rest => c :: strip rest
  | [] => []
termination_by text.length
decreasing_by
  · have := Text.length_cut?_add _found
    simp only [List.length_cons]
    omega
  · simp
  · simp

end TextTemplate.Comment
