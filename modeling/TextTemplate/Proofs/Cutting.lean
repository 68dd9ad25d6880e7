import TextTemplate.Text
import Mathlib.Data.List.Infix

/-!
# Cutting at a token

A text is cut at the first occurrence of a token, and it is left alone if the token is no part of
it. What is in front of that occurrence can be any text that, together with all of the token but
its last character, does not contain the token already (`Text.cut?_append`).

Whether a word with a space on each side is part of a text can be read off the pieces between the
spaces of the text (`Text.spaced_infix_iff`). This makes it easy to say which such words a text
contains that was put together around one of them (`Text.spaced_append`): none begins in one part
and ends in another.
-/

namespace TextTemplate.Text

theorem after?_eq_none {token text : Text} : after? token text = none ↔ ¬token <+: text := by
  constructor
  · rintro missing ⟨rest, rfl⟩
    rw [after?_append] at missing
    contradiction
  · intro absent
    cases found : after? token text with
    | none => rfl
    | some rest => exact absurd ⟨rest, (after?_eq_some found).symm⟩ absent

theorem cut?_eq_none {token text : Text} : cut? token text = none ↔ ¬token <:+: text := by
  constructor
  · intro missing
    induction text with
    | nil =>
        cases token with
        | nil => contradiction
        | cons c token => simp
    | cons c rest ih =>
        rw [cut?] at missing
        split at missing
        · contradiction
        · rename_i notHere
          rw [Option.map_eq_none_iff] at missing
          rw [List.infix_cons_iff, not_or]
          exact ⟨after?_eq_none.mp notHere, ih missing⟩
  · intro absent
    cases found : cut? token text with
    | none => rfl
    | some parts => exact absurd ⟨parts.1, parts.2, (cut?_eq_some found).symm⟩ absent

theorem mentions_iff {token text : Text} : mentions token text = true ↔ token <:+: text := by
  rw [mentions, ← Option.isNone_eq_false_iff, ← Bool.not_eq_true, Option.isNone_iff_eq_none,
    cut?_eq_none, not_not]

theorem cut?_append {token front : Text} (nonempty : token ≠ [])
    (first : ¬token <:+: front ++ token.dropLast) (rest : Text) :
    cut? token (front ++ token ++ rest) = some (front, rest) := by
  induction front with
  | nil =>
      rcases List.exists_cons_of_ne_nil nonempty with ⟨c, others, shape⟩
      have here := after?_append token rest
      rw [List.nil_append, shape, List.cons_append, cut?, ← List.cons_append, ← shape, here]
  | cons c front ih =>
      rw [List.cons_append, List.infix_cons_iff, not_or] at first
      have notHere : after? token (c :: (front ++ token ++ rest)) = none := by
        rw [after?_eq_none]
        intro here
        apply first.1
        have whole : c :: (front ++ token ++ rest) =
            (c :: (front ++ token.dropLast)) ++ (token.getLast nonempty :: rest) := by
          conv_lhs => rw [← List.dropLast_append_getLast nonempty]
          simp
        rw [whole] at here
        apply List.prefix_of_prefix_length_le here (List.prefix_append _ _)
        simp only [List.length_cons, List.length_append, List.length_dropLast]
        omega
      rw [List.cons_append, List.cons_append, cut?]
      simp only [notHere, ih first.2, Option.map_some]

/-- What is in front of the cut does not contain the token. -/
theorem notMem_of_cut? {token text front rest : Text} (nonempty : token ≠ [])
    (found : cut? token text = some (front, rest)) : ¬token <:+: front := by
  induction text generalizing front with
  | nil =>
      rw [cut?] at found
      split at found
      · rename_i empty
        exact absurd (List.isEmpty_iff.mp empty) nonempty
      · contradiction
  | cons c text ih =>
      have whole := cut?_eq_some found
      rw [cut?] at found
      split at found
      · rcases Option.some.inj found with ⟨rfl, -⟩
        simpa using nonempty
      · rename_i notHere
        rcases Option.map_eq_some_iff.mp found with ⟨⟨before, after⟩, later, parts⟩
        rcases Prod.mk.inj parts with ⟨rfl, rfl⟩
        rw [List.infix_cons_iff, not_or]
        refine ⟨?_, ih later⟩
        intro begins
        apply after?_eq_none.mp notHere
        rw [whole, List.append_assoc]
        exact begins.trans (List.prefix_append _ _)

/-! ## Cutting at a character -/

theorem cutAt?_eq_none {mark : Char} {text : Text} :
    cutAt? mark text = none ↔ mark ∉ text := by
  induction text with
  | nil => simp [cutAt?]
  | cons c rest ih =>
      by_cases here : c = mark
      · simp [cutAt?, here]
      · simp [cutAt?, here, Ne.symm here, ih]

theorem cutAt?_append {mark : Char} {front : Text} (absent : mark ∉ front) (rest : Text) :
    cutAt? mark (front ++ mark :: rest) = some (front, rest) := by
  induction front with
  | nil => simp [cutAt?]
  | cons c front ih =>
      simp only [List.mem_cons, not_or] at absent
      simp [cutAt?, Ne.symm absent.1, ih absent.2]

theorem cutAt?_eq_some {mark : Char} {text front rest : Text} :
    cutAt? mark text = some (front, rest) ↔ text = front ++ mark :: rest ∧ mark ∉ front := by
  constructor
  · intro found
    induction text generalizing front with
    | nil => contradiction
    | cons c text ih =>
        by_cases here : c = mark
        · simp only [cutAt?, here, if_true, Option.some.injEq, Prod.mk.injEq] at found
          rcases found with ⟨rfl, rfl⟩
          simp [here]
        · simp only [cutAt?, here, if_false, Option.map_eq_some_iff, Prod.mk.injEq] at found
          rcases found with ⟨parts, found, rfl, rfl⟩
          simp [ih found, Ne.symm here]
  · rintro ⟨rfl, absent⟩
    exact cutAt?_append absent rest

/-! ## Words between spaces -/

/-- The pieces of a text that have a space on each side. -/
def spaced (text : Text) : List Text :=
  (text.splitOn ' ').tail.dropLast

theorem infix_intercalate (mark : Char) (word : Text) {front behind : List Text}
    (begun : front ≠ []) (goesOn : behind ≠ []) :
    mark :: word ++ [mark] <:+: [mark].intercalate (front ++ word :: behind) := by
  induction front with
  | nil => contradiction
  | cons first others ih =>
      cases others with
      | nil =>
          refine ⟨first, [mark].intercalate behind, ?_⟩
          simp [List.intercalate_cons_of_ne_nil goesOn]
      | cons second others =>
          have later := ih (by simp)
          have parted : [mark].intercalate (first :: second :: others ++ word :: behind) =
              first ++ [mark] ++ [mark].intercalate (second :: others ++ word :: behind) :=
            List.intercalate_cons_of_ne_nil (by simp)
          rw [parted]
          exact later.trans (List.suffix_append _ _).isInfix

theorem tail_dropLast_append {front behind : List Text} (begun : front ≠ [])
    (goesOn : behind ≠ []) :
    (front ++ behind).tail.dropLast = front.tail ++ behind.dropLast := by
  rw [List.tail_append_of_ne_nil begun, List.dropLast_append_of_ne_nil goesOn]

theorem spaced_space (front behind : Text) :
    spaced (front ++ ' ' :: behind) = (front.splitOn ' ').tail ++ (behind.splitOn ' ').dropLast := by
  rw [spaced, List.splitOn_append_cons_self]
  exact tail_dropLast_append (List.splitOn_ne_nil _ _) (List.splitOn_ne_nil _ _)

/-- Around a word between spaces there are the words of what comes before it, with the one space,
and of what comes behind it, with the other. -/
theorem spaced_append {word : Text} (solid : ' ' ∉ word) (front behind : Text) :
    spaced (front ++ ' ' :: (word ++ ' ' :: behind)) =
      spaced (front ++ [' ']) ++ word :: spaced (' ' :: behind) := by
  have before : spaced (front ++ [' ']) = (front.splitOn ' ').tail := by
    rw [spaced_space, List.splitOn_nil, List.dropLast_singleton, List.append_nil]
  have after : spaced (' ' :: behind) = (behind.splitOn ' ').dropLast := by
    have parted := spaced_space [] behind
    rwa [List.splitOn_nil, List.tail_cons, List.nil_append, List.nil_append] at parted
  rw [spaced_space, List.splitOn_append_cons_self_of_not_mem solid,
    List.dropLast_cons_of_ne_nil (List.splitOn_ne_nil _ _), before, after]

theorem spaced_append_word {word : Text} (solid : ' ' ∉ word) (front : Text) :
    spaced (front ++ ' ' :: word) = spaced (front ++ [' ']) := by
  rw [spaced_space, spaced_space, List.splitOn_eq_singleton solid, List.splitOn_nil]
  rfl

/-- A word with its spaces is part of a text if it is one of the pieces between two spaces. -/
theorem spaced_infix_iff {word : Text} (solid : ' ' ∉ word) {text : Text} :
    ' ' :: word ++ [' '] <:+: text ↔ word ∈ spaced text := by
  constructor
  · rintro ⟨front, behind, rfl⟩
    have whole : front ++ (' ' :: word ++ [' ']) ++ behind =
        front ++ ' ' :: (word ++ ' ' :: behind) := by
      simp
    rw [whole, spaced_append solid]
    simp
  · intro listed
    rw [spaced] at listed
    rcases List.append_of_mem listed with ⟨front, behind, shape⟩
    have pieces : ∃ first last, text.splitOn ' ' = first :: front ++ word :: (behind ++ [last]) := by
      cases split : text.splitOn ' ' with
      | nil => exact absurd split (List.splitOn_ne_nil _ _)
      | cons first others =>
          rw [split, List.tail_cons] at shape
          have nonempty : others ≠ [] := by
            rintro rfl
            simp at shape
          refine ⟨first, others.getLast nonempty, ?_⟩
          conv_lhs => rw [← List.dropLast_append_getLast nonempty, shape]
          simp
    rcases pieces with ⟨first, last, pieces⟩
    have whole : [' '].intercalate (text.splitOn ' ') = text := List.intercalate_splitOn ' '
    rw [← whole, pieces]
    exact infix_intercalate ' ' word (by simp) (by simp)

end TextTemplate.Text
