import TextTemplate.Template.Region

/-!
# Balanced braces

A body is read by counting braces, so a piece of text passes through it unharmed when its own
braces are balanced. `Text.openBraces` follows the count through a piece; a balanced piece leaves
it where it was, and the body behind an opening brace ends at the first brace that closes more
than was opened.
-/

namespace TextTemplate

namespace Text

/-- How many braces are open behind a text when `depth` were open before it. There is no answer if
a brace closes that was never opened. -/
def openBraces (depth : Nat) : Text → Option Nat
  | [] => some depth
  | c :: rest =>
    if c = '{' then openBraces (depth + 1) rest
    else if c = '}' then
      match depth with
      | 0 => none
      | outer + 1 => openBraces outer rest
    else openBraces depth rest

/-- No brace closes before it is opened, and all that are opened are closed. -/
def Balanced (text : Text) : Prop :=
  openBraces 0 text = some 0

instance : DecidablePred Balanced :=
  fun text => inferInstanceAs (Decidable (openBraces 0 text = some 0))

theorem openBraces_append (depth : Nat) (front rest : Text) :
    openBraces depth (front ++ rest) =
      (openBraces depth front).bind fun inner => openBraces inner rest := by
  induction front generalizing depth with
  | nil => rfl
  | cons c front ih =>
      simp only [List.cons_append, openBraces]
      split
      · exact ih (depth + 1)
      · split
        · cases depth with
          | zero => rfl
          | succ outer => exact ih outer
        · exact ih depth

/-- Further braces that are open on the outside stay open. -/
theorem openBraces_add {depth inner : Nat} {text : Text}
    (counted : openBraces depth text = some inner) (outside : Nat) :
    openBraces (depth + outside) text = some (inner + outside) := by
  induction text generalizing depth with
  | nil =>
      simp only [openBraces, Option.some.injEq] at counted ⊢
      omega
  | cons c rest ih =>
      simp only [openBraces] at counted ⊢
      split at counted
      · rename_i opening
        rw [if_pos opening, Nat.add_right_comm]
        exact ih counted
      · rename_i notOpening
        rw [if_neg notOpening]
        split at counted
        · rename_i closing
          rw [if_pos closing]
          cases depth with
          | zero => simp at counted
          | succ outer =>
              rw [Nat.add_right_comm]
              exact ih counted
        · rename_i notClosing
          rw [if_neg notClosing]
          exact ih counted

theorem openBraces_of_notMem {text : Text} (noOpening : '{' ∉ text) (noClosing : '}' ∉ text)
    (depth : Nat) : openBraces depth text = some depth := by
  induction text with
  | nil => rfl
  | cons c rest ih =>
      simp only [List.mem_cons, not_or] at noOpening noClosing
      simp only [openBraces]
      rw [if_neg (Ne.symm noOpening.1), if_neg (Ne.symm noClosing.1)]
      exact ih noOpening.2 noClosing.2

namespace Balanced

theorem openBraces_eq {text : Text} (balanced : Balanced text) (depth : Nat) :
    openBraces depth text = some depth := by
  simpa using openBraces_add balanced depth

theorem append {front rest : Text} (frontBalanced : Balanced front)
    (restBalanced : Balanced rest) : Balanced (front ++ rest) := by
  rw [Balanced, openBraces_append, frontBalanced.openBraces_eq]
  exact restBalanced

theorem of_notMem {text : Text} (noOpening : '{' ∉ text) (noClosing : '}' ∉ text) :
    Balanced text :=
  openBraces_of_notMem noOpening noClosing 0

end Balanced

end Text

namespace Region

open Text (openBraces Balanced)

/-- A body takes in a piece of text whose braces never close the outermost one. -/
theorem bodyFrom_append {depth inner : Nat} {front : Text}
    (counted : openBraces depth front = some inner) (rest : Text) :
    bodyFrom (depth + 1) (front ++ rest) =
      (front ++ (bodyFrom (inner + 1) rest).1, (bodyFrom (inner + 1) rest).2) := by
  induction front generalizing depth with
  | nil =>
      rcases Option.some.inj counted with rfl
      rfl
  | cons c front ih =>
      simp only [openBraces] at counted
      simp only [List.cons_append, bodyFrom]
      split at counted
      · rename_i opening
        rw [if_pos opening, ih counted]
      · rename_i notOpening
        rw [if_neg notOpening]
        split at counted
        · rename_i closing
          rw [if_pos closing]
          cases depth with
          | zero => simp at counted
          | succ outer =>
              rw [if_neg (by omega), Nat.add_sub_cancel, ih counted]
        · rename_i notClosing
          rw [if_neg notClosing, ih counted]

/-- The body behind an opening brace ends at the closing brace that follows a balanced text. -/
theorem bodyFrom_closed {text : Text} (balanced : Balanced text) (rest : Text) :
    bodyFrom 1 (text ++ '}' :: rest) = (text, some rest) := by
  rw [bodyFrom_append balanced]
  simp [bodyFrom]

end Region

end TextTemplate
