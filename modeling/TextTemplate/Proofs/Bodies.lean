import TextTemplate.Proofs.Lines
import TextTemplate.Proofs.Parts

/-!
# Where bodies begin and end

A body begins behind the brace of its header, or on the next line if nothing visible follows the
brace (`BlankRest`). It ends before the first brace that closes more than was opened, and without
such a brace at the end of the text (`BodyWritten`). What is blank behind its last line end is left
out of it (`WithoutMargin`). These three say it without the readers, and for the readers of bodies
they are proved here.
-/

namespace TextTemplate

open Unicode (isBlank)

namespace Text

/-- The rest of a line that is blank, with its line end, and the text behind it. There is no such
rest if something visible is on the line. -/
inductive BlankRest : Text → Text → Prop where
  | line {blanks rest : Text} (blank : ∀ c ∈ blanks, isBlank c = true) (within : '\n' ∉ blanks) :
      BlankRest (blanks ++ ['\n']) rest
  | last {blanks : Text} (blank : ∀ c ∈ blanks, isBlank c = true) (within : '\n' ∉ blanks) :
      BlankRest blanks []
  | visible {front rest : Text} {c : Char} (shown : isBlank c = false) (within : '\n' ∉ front) :
      BlankRest [] (front ++ c :: rest)

/-- A text without the blanks behind its last line end. -/
structure WithoutMargin (written body margin : Text) : Prop where
  parted : written = body ++ margin
  blank : ∀ c ∈ margin, isBlank c = true
  within : '\n' ∉ margin
  behindLine : margin ≠ [] → ['\n'] <:+ body
  whole : ∀ lines tail, written = lines ++ '\n' :: tail → '\n' ∉ tail →
    (∀ c ∈ tail, isBlank c = true) → margin = tail

/-- More braces are closed than opened. -/
def Overclosed (text : Text) : Prop :=
  text.count '{' < text.count '}'

/-- The text up to the end of a body, and what is behind the brace that closes it. With that brace
it is the shortest front part of the text that closes more braces than it opens; if there is none,
the body goes to the end of the text. -/
inductive BodyWritten (text : Text) : Text → Option Text → Prop where
  | closed {written behind : Text} (parted : text = written ++ '}' :: behind)
      (overclosed : Overclosed (written ++ ['}']))
      (shortest : ∀ front, front <+: written → ¬Overclosed front) :
      BodyWritten text written (some behind)
  | unclosed (never : ∀ front, front <+: text → ¬Overclosed front) : BodyWritten text text none

theorem BodyWritten.whole {text written : Text} {behind : Option Text}
    (ends : BodyWritten text written behind) :
    text = written ++ (behind.elim [] fun _ => ['}']) ++ behind.getD [] := by
  cases ends with
  | closed parted overclosed shortest => simpa using parted
  | unclosed never => simp

/-! ## Lines -/

theorem exists_visible {text : Text} (visible : isBlankText text = false) :
    ∃ front c rest, text = front ++ c :: rest ∧ isBlank c = false := by
  simp only [isBlankText, List.all_eq_false, Bool.not_eq_true] at visible
  rcases visible with ⟨c, inside, shown⟩
  rcases List.append_of_mem inside with ⟨front, rest, parted⟩
  exact ⟨front, c, rest, parted, shown⟩

theorem skipBlankLine_rest (text : Text) :
    ∃ room, text = room ++ skipBlankLine text ∧ BlankRest room (skipBlankLine text) := by
  by_cases several : '\n' ∈ text
  · rcases List.eq_append_cons_of_mem several with ⟨front, rest, rfl, within⟩
    have lineEnd : isBlank '\n' = true := by decide
    simp only [skipBlankLine, firstLine_append within, firstLine_lineEnd,
      afterFirstLine_append within, afterFirstLine_lineEnd]
    cases blank : isBlankText front with
    | true =>
        rw [if_pos (by simpa [isBlankText, lineEnd] using blank)]
        rw [isBlankText, List.all_eq_true] at blank
        exact ⟨front ++ ['\n'], by simp, .line blank within⟩
    | false =>
        rw [if_neg (by simpa [isBlankText, lineEnd] using blank)]
        rcases exists_visible blank with ⟨before, c, behind, rfl, visible⟩
        refine ⟨[], rfl, ?_⟩
        rw [List.append_assoc, List.cons_append]
        apply BlankRest.visible visible
        intro inside
        exact within (List.mem_append_left _ inside)
  · rw [skipBlankLine, (firstLine_of_notMem several).1, (firstLine_of_notMem several).2]
    cases blank : isBlankText text with
    | true =>
        rw [if_pos rfl]
        rw [isBlankText, List.all_eq_true] at blank
        exact ⟨text, by simp, .last blank several⟩
    | false =>
        rcases exists_visible blank with ⟨before, c, behind, rfl, visible⟩
        rw [if_neg Bool.false_ne_true]
        refine ⟨[], rfl, .visible visible ?_⟩
        intro inside
        exact several (List.mem_append_left _ inside)

/-- A text has only one part behind its last line end. -/
theorem tail_unique {lines tail lines' tail' : Text} (within : '\n' ∉ tail)
    (within' : '\n' ∉ tail') (same : lines ++ '\n' :: tail = lines' ++ '\n' :: tail') :
    tail = tail' := by
  apply List.reverse_inj.mp
  rw [← takeWhile_reverse_append within lines, same, takeWhile_reverse_append within']

theorem dropBlankTail_margin (written : Text) :
    ∃ margin, WithoutMargin written (dropBlankTail written) margin := by
  by_cases several : '\n' ∈ written
  · rcases List.eq_append_cons_of_mem (List.mem_reverse.mpr several) with
      ⟨tail, lines, reversed, outside⟩
    have parted : written = lines.reverse ++ '\n' :: tail.reverse := by
      rw [← List.reverse_reverse written, reversed]
      simp
    have within : '\n' ∉ tail.reverse := by
      simpa using outside
    generalize lines.reverse = lines at parted
    generalize tail.reverse = tail at parted within
    subst parted
    cases blank : isBlankText tail with
    | true =>
        rw [isBlankText, List.all_eq_true] at blank
        rw [dropBlankTail_append blank within]
        refine ⟨tail, by simp, blank, within, fun _ => List.suffix_append _ _, ?_⟩
        intro others last same within' _
        exact tail_unique within within' same
    | false =>
        rw [dropBlankTail_append_visible blank within]
        refine ⟨[], by simp, by simp, by simp, by simp, ?_⟩
        intro others last same within' allBlank
        rcases tail_unique within within' same with rfl
        rw [← Bool.not_eq_true, isBlankText, List.all_eq_true] at blank
        exact absurd allBlank blank
  · rw [dropBlankTail_of_notMem several]
    refine ⟨[], by simp, by simp, by simp, by simp, ?_⟩
    rintro lines tail rfl
    simp at several

end Text

namespace Region

open Text (BodyWritten Overclosed WithoutMargin)

/-- A brace closes the body, or a character is counted and the body goes on. -/
theorem bodyFrom_step (depth : Nat) (c : Char) (rest : Text) :
    bodyFrom depth (c :: rest) =
      if c = '}' ∧ depth = 1 then ([], some rest)
      else
        (c :: (bodyFrom (depth + [c].count '{' - [c].count '}') rest).1,
          (bodyFrom (depth + [c].count '{' - [c].count '}') rest).2) := by
  by_cases opening : c = '{'
  · simp [bodyFrom, opening]
  · by_cases closing : c = '}'
    · simp [bodyFrom, closing]
    · simp [bodyFrom, opening, closing]

/-- Within a body fewer braces are closed than are open, and at its end as many. -/
theorem bodyFrom_counts {depth : Nat} (positive : 0 < depth) (text : Text) :
    (∀ front, front <+: (bodyFrom depth text).1 → front.count '}' < front.count '{' + depth) ∧
    ((bodyFrom depth text).2.isSome = true →
      (bodyFrom depth text).1.count '}' + 1 = (bodyFrom depth text).1.count '{' + depth) := by
  induction text generalizing depth with
  | nil =>
      refine ⟨?_, by simp [bodyFrom]⟩
      intro front begins
      rcases List.prefix_nil.mp begins with rfl
      simpa using positive
  | cons c rest ih =>
      rw [bodyFrom_step]
      split
      · rename_i closing
        refine ⟨?_, by simp [closing.2]⟩
        intro front begins
        rcases List.prefix_nil.mp begins with rfl
        simpa using positive
      · rename_i goesOn
        have counted : [c].count '}' < depth + [c].count '{' := by
          by_cases closing : c = '}'
          · subst closing
            simp only [true_and] at goesOn
            simp
            omega
          · simp [closing]
            omega
        rcases ih (Nat.sub_pos_of_lt counted) with ⟨fewer, equal⟩
        have split (mark : Char) (front : Text) :
            (c :: front).count mark = [c].count mark + front.count mark := by
          rw [← List.singleton_append, List.count_append]
        refine ⟨?_, ?_⟩
        · intro front begins
          rcases List.prefix_cons_iff.mp begins with rfl | ⟨others, rfl, behind⟩
          · simpa using positive
          · have bound := fewer others behind
            rw [split '}' others, split '{' others]
            omega
        · intro closed
          have sum := equal closed
          simp only [split '}' (bodyFrom _ rest).1, split '{' (bodyFrom _ rest).1]
          omega

theorem body_written (text : Text) :
    ∃ written margin, BodyWritten text written (body text).2 ∧
      WithoutMargin written (body text).1 margin := by
  rcases Text.dropBlankTail_margin (bodyFrom 1 text).1 with ⟨margin, drops⟩
  rcases bodyFrom_counts Nat.one_pos text with ⟨fewer, equal⟩
  have whole := bodyFrom_eq 1 text
  refine ⟨(bodyFrom 1 text).1, margin, ?_, drops⟩
  have shortest : ∀ front, front <+: (bodyFrom 1 text).1 → ¬Overclosed front := by
    intro front begins
    have bound := fewer front begins
    simp only [Overclosed]
    omega
  change BodyWritten text (bodyFrom 1 text).1 (bodyFrom 1 text).2
  cases closed : (bodyFrom 1 text).2 with
  | some rest =>
      rw [closed, Option.elim_some] at whole
      refine .closed whole ?_ shortest
      have sum := equal (by simp [closed])
      simp only [Overclosed, List.count_append, List.count_singleton]
      simp
      omega
  | none =>
      rw [closed, Option.elim_none, List.append_nil] at whole
      rw [← whole] at shortest ⊢
      exact .unclosed shortest

end Region

end TextTemplate
