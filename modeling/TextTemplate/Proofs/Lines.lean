import TextTemplate.Proofs.Blanks
import TextTemplate.Template.Region

/-!
# Lines

What the readers of lines do with a text whose front part is known. A piece without a line end
stays within the first line, and a line that is indented begins at its first visible character.
Behind the last line end only blanks are dropped, and only if there is a line end before them.
-/

namespace TextTemplate.Text

open Unicode (isBlank)

theorem firstLine_append {front : Text} (within : '\n' ∉ front) (rest : Text) :
    firstLine (front ++ rest) = front ++ firstLine rest := by
  induction front with
  | nil => rfl
  | cons c front ih =>
      simp only [List.mem_cons, not_or] at within
      have following := ih within.2
      simp only [firstLine] at following ⊢
      simpa [Ne.symm within.1] using following

theorem afterFirstLine_append {front : Text} (within : '\n' ∉ front) (rest : Text) :
    afterFirstLine (front ++ rest) = afterFirstLine rest := by
  induction front with
  | nil => rfl
  | cons c front ih =>
      simp only [List.mem_cons, not_or] at within
      have following := ih within.2
      simp only [afterFirstLine] at following ⊢
      simpa [Ne.symm within.1] using following

@[simp]
theorem firstLine_lineEnd (rest : Text) : firstLine ('\n' :: rest) = ['\n'] := by
  simp [firstLine]

@[simp]
theorem afterFirstLine_lineEnd (rest : Text) : afterFirstLine ('\n' :: rest) = rest := by
  simp [afterFirstLine]

/-- The first line and the text behind it are the whole text. -/
theorem firstLine_append_afterFirstLine (text : Text) :
    firstLine text ++ afterFirstLine text = text :=
  List.take_append_drop _ text

theorem firstLine_of_mem {text : Text} (several : '\n' ∈ text) :
    ∃ front, firstLine text = front ++ ['\n'] ∧ text = front ++ '\n' :: afterFirstLine text := by
  rcases List.eq_append_cons_of_mem several with ⟨front, behind, rfl, within⟩
  refine ⟨front, ?_, ?_⟩
  · rw [firstLine_append within, firstLine_lineEnd]
  · rw [afterFirstLine_append within, afterFirstLine_lineEnd]

theorem firstLine_of_notMem {text : Text} (single : '\n' ∉ text) :
    firstLine text = text ∧ afterFirstLine text = [] := by
  have first := firstLine_append single []
  have behind := afterFirstLine_append single []
  rw [List.append_nil] at first behind
  refine ⟨first.trans (List.append_nil text), behind⟩

/-- Trimming removes an indentation. -/
theorem trimStart_firstLine_append {margin : Text} (blank : ∀ c ∈ margin, isBlank c = true)
    (within : '\n' ∉ margin) (rest : Text) :
    trimStart (firstLine (margin ++ rest)) = trimStart (firstLine rest) := by
  rw [firstLine_append within, trimStart_append blank]

/-- A line that begins with a visible character has no indentation. -/
theorem trimStart_firstLine_cons {c : Char} (visible : isBlank c = false) (rest : Text) :
    trimStart (firstLine (c :: rest)) = firstLine (c :: rest) := by
  have notEnd : '\n' ∉ [c] := by
    intro inside
    rw [List.mem_singleton] at inside
    subst inside
    revert visible
    decide
  have parted := firstLine_append notEnd rest
  rw [List.singleton_append, List.singleton_append] at parted
  rw [parted, trimStart_cons visible]

@[simp]
theorem skipBlankLine_lineEnd (rest : Text) : skipBlankLine ('\n' :: rest) = rest := by
  have blank : isBlankText ['\n'] = true := by decide
  simp [skipBlankLine, blank]

theorem reverse_ne_lineEnd {text : Text} (within : '\n' ∉ text) :
    ∀ c ∈ text.reverse, (c != '\n') = true := by
  intro c inside
  rw [List.mem_reverse] at inside
  simp only [bne_iff_ne]
  rintro rfl
  exact within inside

/-- Without a line end nothing is dropped. -/
theorem dropBlankTail_of_notMem {text : Text} (within : '\n' ∉ text) :
    dropBlankTail text = text := by
  have whole : text.reverse.takeWhile (· != '\n') = text.reverse :=
    List.takeWhile_eq_self_iff.mpr (reverse_ne_lineEnd within)
  simp [dropBlankTail, whole]

/-- The text behind the last line end, from its end on. -/
theorem takeWhile_reverse_append {tail : Text} (within : '\n' ∉ tail) (front : Text) :
    (front ++ '\n' :: tail).reverse.takeWhile (· != '\n') = tail.reverse := by
  simp only [List.reverse_append, List.reverse_cons, List.append_assoc, List.singleton_append]
  rw [List.takeWhile_append_of_pos (reverse_ne_lineEnd within)]
  simp

/-- Blanks behind the last line end are dropped. -/
theorem dropBlankTail_append {margin : Text} (blank : ∀ c ∈ margin, isBlank c = true)
    (within : '\n' ∉ margin) (front : Text) :
    dropBlankTail (front ++ '\n' :: margin) = front ++ ['\n'] := by
  have tailBlank : isBlankText margin.reverse = true := by
    simpa [isBlankText] using blank
  have shorter : margin.reverse.length < (front ++ '\n' :: margin).length := by
    simp only [List.length_reverse, List.length_append, List.length_cons]
    omega
  have place : (front ++ '\n' :: margin).length - margin.reverse.length =
      (front ++ ['\n']).length := by
    simp only [List.length_reverse, List.length_append, List.length_cons, List.length_nil]
    omega
  have regroup : front ++ '\n' :: margin = (front ++ ['\n']) ++ margin := by simp
  simp only [dropBlankTail, takeWhile_reverse_append within, tailBlank, shorter, and_self,
    ↓reduceIte, place]
  rw [regroup, List.take_left]

/-- Nothing is dropped if something visible is behind the last line end. -/
theorem dropBlankTail_append_visible {tail : Text} (visible : isBlankText tail = false)
    (within : '\n' ∉ tail) (front : Text) :
    dropBlankTail (front ++ '\n' :: tail) = front ++ '\n' :: tail := by
  have shown : isBlankText tail.reverse = false := by
    simpa [isBlankText] using visible
  simp only [dropBlankTail, takeWhile_reverse_append within, shown]
  simp

end TextTemplate.Text
