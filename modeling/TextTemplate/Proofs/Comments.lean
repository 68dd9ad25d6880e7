import TextTemplate.Proofs.Cutting
import TextTemplate.Template.Comment

/-!
# Comments

The marks of comments share their characters, so in `@*@` or `@**@` an opening and a closing mark can
overlap. They never do where a comment is removed: what is left of a text is found by cutting at the
first opening mark, where two characters are consumed, and from there at the first closing mark
(`strip_comment`). Together with the texts in which no comment is closed these are all texts
(`exists_first_comment`), and so the two equations leave no choice.
-/

namespace TextTemplate.Comment

/-- Somewhere in the text a comment is opened and closed. -/
def Occurs (text : Text) : Prop :=
  ∃ front inner behind, text = front ++ opening ++ inner ++ closing ++ behind

theorem Occurs.cons {text : Text} (occurs : Occurs text) (c : Char) : Occurs (c :: text) := by
  rcases occurs with ⟨front, inner, behind, rfl⟩
  exact ⟨c :: front, inner, behind, rfl⟩

theorem strip_of_commentFree {text : Text} (commentFree : ¬Occurs text) : strip text = text := by
  induction text using Comment.strip.induct with
  | case1 rest inner behind found ih =>
      refine absurd ⟨[], inner, behind, ?_⟩ commentFree
      rw [Text.cut?_eq_some found]
      simp [opening]
  | case2 rest unclosed ih =>
      rw [strip]
      split
      · simp_all
      · rw [ih fun occurs => commentFree (occurs.cons _)]
  | case3 c rest plain ih =>
      rw [strip, ih fun occurs => commentFree (occurs.cons _)]
      exact plain
  | case4 => rw [strip]

/-- Both marks of a comment have a star. -/
theorem not_occurs_of_notMem {text : Text} (absent : '*' ∉ text) : ¬Occurs text := by
  rintro ⟨front, inner, behind, rfl⟩
  simp [opening] at absent

/-- A character that begins no opening mark stays. -/
theorem strip_cons {c : Char} {rest : Text} (plain : ¬opening <+: c :: rest) :
    strip (c :: rest) = c :: strip rest := by
  rw [strip]
  rintro others rfl rfl
  exact plain (List.prefix_append opening others)

/-- The first closing mark is where the comment says, also if a star stands in front of it. -/
theorem cut?_closing {body : Text} (unclosed : ¬closing <:+: body) (behind : Text) :
    Text.cut? closing (body ++ closing ++ behind) = some (body, behind) := by
  apply Text.cut?_append (by simp [closing])
  have star : closing.dropLast = ['*'] := rfl
  rw [star, List.infix_concat_iff, not_or]
  refine ⟨?_, unclosed⟩
  rintro ⟨front, whole⟩
  have last := congrArg List.getLast? whole
  simp [closing] at last

/-- A text in front of an opening mark does not begin with one of its own if it contains none. -/
theorem not_opening_prefix {c : Char} {front : Text} (plain : ¬opening <:+: c :: front)
    (rest : Text) : ¬opening <+: c :: (front ++ opening ++ rest) := by
  rintro ⟨others, whole⟩
  cases front with
  | nil => simp [opening] at whole
  | cons d front =>
      apply plain
      refine ⟨[], front, ?_⟩
      simp only [opening, List.cons_append, List.nil_append, List.cons.injEq] at whole ⊢
      exact ⟨whole.1, whole.2.1, trivial⟩

/-- The leftmost comment, taken to its first closing mark, is removed. -/
theorem strip_comment {front body : Text} (unopened : ¬opening <:+: front)
    (unclosed : ¬closing <:+: body) (behind : Text) :
    strip (front ++ opening ++ body ++ closing ++ behind) = front ++ strip behind := by
  induction front with
  | nil =>
      have found := cut?_closing unclosed behind
      have whole : [] ++ opening ++ body ++ closing ++ behind =
          '@' :: '*' :: (body ++ closing ++ behind) := by
        simp [opening]
      rw [whole, strip]
      split
      · rename_i parted
        rw [found] at parted
        rcases Option.some.inj parted with ⟨-, rfl⟩
        rfl
      · rename_i missing
        rw [found] at missing
        contradiction
  | cons c front ih =>
      have plain := not_opening_prefix unopened (body ++ closing ++ behind)
      rw [List.infix_cons_iff, not_or] at unopened
      have whole : c :: front ++ opening ++ body ++ closing ++ behind =
          c :: (front ++ opening ++ (body ++ closing ++ behind)) := by
        simp
      rw [whole, strip_cons plain, List.cons_append, ← ih unopened.2]
      simp

/-- A closing mark behind an opening one stands behind the first two characters. -/
theorem Occurs.closing_infix {c d : Char} {rest : Text} (occurs : Occurs (c :: d :: rest)) :
    closing <:+: rest := by
  rcases occurs with ⟨front, inner, behind, whole⟩
  have long : 2 ≤ (front ++ opening ++ inner).length := by
    simp [opening]
    omega
  have dropped := congrArg (List.drop 2) whole
  rw [List.append_assoc, List.drop_append_of_le_length long] at dropped
  refine ⟨(front ++ opening ++ inner).drop 2, behind, ?_⟩
  rw [List.append_assoc, ← dropped]
  rfl

/-- A text with a comment has a leftmost one, with a first closing mark. -/
theorem exists_first_comment {text : Text} (occurs : Occurs text) :
    ∃ front body behind, ¬opening <:+: front ∧ ¬closing <:+: body ∧
      text = front ++ opening ++ body ++ closing ++ behind := by
  induction text using Comment.strip.induct with
  | case1 rest body behind found ih =>
      refine ⟨[], body, behind, by simp [opening], ?_, ?_⟩
      · exact Text.notMem_of_cut? (by simp [closing]) found
      · rw [Text.cut?_eq_some found]
        simp [opening]
  | case2 rest unclosed ih =>
      exact absurd occurs.closing_infix (Text.cut?_eq_none.mp unclosed)
  | case3 c rest plain ih =>
      have notHere : ¬opening <+: c :: rest := by
        rintro ⟨others, whole⟩
        rcases List.cons.inj whole with ⟨rfl, rfl⟩
        exact plain others rfl rfl
      rcases occurs with ⟨front, inner, behind, whole⟩
      cases front with
      | nil =>
          refine absurd ?_ notHere
          rw [whole]
          simp [opening]
      | cons d front =>
          have later : Occurs rest := ⟨front, inner, behind, (List.cons.inj whole).2⟩
          rcases ih later with ⟨front, body, behind, unopened, unclosed, rfl⟩
          refine ⟨c :: front, body, behind, ?_, unclosed, rfl⟩
          rw [List.infix_cons_iff, not_or]
          refine ⟨?_, unopened⟩
          intro begins
          apply notHere
          apply begins.trans
          exact ⟨opening ++ body ++ closing ++ behind, by simp⟩
  | case4 =>
      rcases occurs with ⟨front, inner, behind, whole⟩
      simp [opening] at whole

/-- What it means to remove comments: each goes from the leftmost opening mark to the first closing
mark behind it, and a text in which no comment is closed stays as it is. -/
structure Removes (change : Text → Text) : Prop where
  comment : ∀ front body behind, ¬opening <:+: front → ¬closing <:+: body →
    change (front ++ opening ++ body ++ closing ++ behind) = front ++ change behind
  plain : ∀ text, ¬Occurs text → change text = text

/-- Only one function removes comments. -/
theorem Removes.eq {left right : Text → Text} (leftRemoves : Removes left)
    (rightRemoves : Removes right) (text : Text) : left text = right text := by
  induction length : text.length using Nat.strong_induction_on generalizing text with
  | _ size ih =>
      by_cases occurs : Occurs text
      · rcases exists_first_comment occurs with ⟨front, body, behind, unopened, unclosed, rfl⟩
        have shorter : behind.length < size := by
          simp [opening, ← length]
          omega
        rw [leftRemoves.comment front body behind unopened unclosed,
          rightRemoves.comment front body behind unopened unclosed, ih _ shorter behind rfl]
      · rw [leftRemoves.plain text occurs, rightRemoves.plain text occurs]

/-- Exactly the leftmost shortest comments are removed. Every text has a leftmost shortest comment
unless it has none at all, so this says for all texts what is left of them. -/
theorem strip_removes :
    Removes strip ∧
      (∀ text, Occurs text → ∃ front body behind, ¬opening <:+: front ∧ ¬closing <:+: body ∧
        text = front ++ opening ++ body ++ closing ++ behind) ∧
      ∀ change, Removes change → change = strip := by
  have removes : Removes strip := by
    refine ⟨?_, ?_⟩
    · intro front body behind unopened unclosed
      exact strip_comment unopened unclosed behind
    · intro text commentFree
      exact strip_of_commentFree commentFree
  refine ⟨removes, fun _ occurs => exists_first_comment occurs, ?_⟩
  intro change alike
  exact funext (alike.eq removes)

/-- Marks that overlap: behind the comment the star belongs to the opening mark only. -/
theorem strip_removes_overlapping :
    ¬opening <:+: ['@'] ∧ ¬closing <:+: ['*'] ∧
      strip ['@', '@', '*', '*', '*', '@', '@', '*', '@'] = ['@', '@', '*', '@'] := by
  have commentFree : ¬Occurs ['@', '*', '@'] := by
    intro occurs
    have closes := occurs.closing_infix
    revert closes
    decide
  have unopened : ¬opening <:+: ['@'] := by decide
  have unclosed : ¬closing <:+: ['*'] := by decide
  refine ⟨unopened, unclosed, ?_⟩
  calc strip ['@', '@', '*', '*', '*', '@', '@', '*', '@']
    _ = ['@'] ++ strip ['@', '*', '@'] :=
        strip_removes.1.comment ['@'] ['*'] ['@', '*', '@'] unopened unclosed
    _ = ['@', '@', '*', '@'] := by
        rw [strip_removes.1.plain _ commentFree]
        rfl

end TextTemplate.Comment
