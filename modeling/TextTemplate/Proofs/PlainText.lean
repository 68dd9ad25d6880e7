import TextTemplate.Command.Run
import TextTemplate.Proofs.Comments
import TextTemplate.Proofs.Lines
import TextTemplate.Proofs.Nesting
import TextTemplate.Proofs.Spans

/-!
# Templates without regions

A line that begins with a word of a region and something else behind it than a parenthesis or a
blank is plain, and so are marks that are never closed. If no line of a template begins a region,
rendering it is interpolation, done twice (`Renderer.render_of_regionFree`). The lines are
interpolated one at a time, which makes no difference because no span goes beyond a line end.
-/

namespace TextTemplate

open Unicode (isBlank)

/-! ## Lines of a text -/

namespace Text

/-- The lines of a text with the line ends that close them. -/
def lines : Text → List Text
  | [] => []
  | c :: rest =>
    if c = '\n' then ['\n'] :: lines rest
    else
      match lines rest with
      | [] => [[c]]
      | line :: others => (c :: line) :: others

theorem lines_eq {text : Text} (notEmpty : text ≠ []) :
    lines text = firstLine text :: lines (afterFirstLine text) := by
  induction text with
  | nil => contradiction
  | cons c rest ih =>
      by_cases lineEnd : c = '\n'
      · subst lineEnd
        rw [lines, if_pos rfl, firstLine_lineEnd, afterFirstLine_lineEnd]
      · have within : '\n' ∉ [c] := by
          rw [List.mem_singleton]
          exact Ne.symm lineEnd
        have first := firstLine_append within rest
        have behind := afterFirstLine_append within rest
        rw [List.singleton_append] at first behind
        rw [lines, if_neg lineEnd, first, behind, List.singleton_append]
        cases rest with
        | nil => rfl
        | cons d rest => rw [ih (List.cons_ne_nil _ _)]

end Text

/-! ## Plain lines -/

namespace Region

theorem opensWith_eq_true {word line : Text} :
    opensWith word line = true ↔
      ∃ c rest, line = word ++ c :: rest ∧ (c = '(' ∨ isBlank c = true) := by
  constructor
  · intro opens
    unfold opensWith at opens
    split at opens
    · rename_i c rest begins
      refine ⟨c, rest, Text.after?_eq_some begins, ?_⟩
      simpa using opens
    · contradiction
  · rintro ⟨c, rest, rfl, next⟩
    rw [opensWith, Text.after?_append]
    simpa using next

/-- Behind its indentation the line begins with a word of a region, and a parenthesis or a blank
follows. The blank may be the line end. -/
def Begins (line : Text) : Prop :=
  ∃ word ∈ [ifWord, foreachWord], ∃ c rest,
    Text.trimStart line = word ++ c :: rest ∧ (c = '(' ∨ isBlank c = true)

theorem begins_iff {line : Text} :
    Begins line ↔
      opensWith ifWord (Text.trimStart line) = true ∨
        opensWith foreachWord (Text.trimStart line) = true := by
  rw [opensWith_eq_true, opensWith_eq_true, Begins]
  simp

instance : DecidablePred Begins :=
  fun _ => decidable_of_iff _ begins_iff.symm

theorem first?_eq_none {text : Text} (plain : ¬Begins (Text.firstLine text)) :
    first? text = none := by
  rw [begins_iff, not_or] at plain
  simp only [first?, if_neg plain.1, if_neg plain.2]

end Region

/-- No line of the text begins a region. -/
def Text.RegionFree (text : Text) : Prop :=
  ∀ line ∈ Text.lines text, ¬Region.Begins line

instance : DecidablePred Text.RegionFree :=
  fun text => inferInstanceAs (Decidable (∀ line ∈ Text.lines text, ¬Region.Begins line))

theorem Text.RegionFree.first {text : Text} (regionFree : RegionFree text) (notEmpty : text ≠ []) :
    ¬Region.Begins (firstLine text) ∧ RegionFree (afterFirstLine text) := by
  rw [RegionFree, lines_eq notEmpty, List.forall_mem_cons] at regionFree
  exact regionFree

theorem Text.RegionFree.first?_eq_none {text : Text} (regionFree : RegionFree text) :
    Region.first? text = none := by
  cases text with
  | nil => exact Region.first?_nil
  | cons c rest => exact Region.first?_eq_none (regionFree.first (List.cons_ne_nil _ _)).1

/-! ## Rendering -/

variable {σ : Type} [Host σ]

theorem Interpolation.resolveText_firstLine (registry : Registry σ) (scope : Scope σ)
    (text : Text) :
    resolveText registry scope text = (do
      let shown ← resolveText registry scope (Text.firstLine text)
      let rest ← resolveText registry scope (Text.afterFirstLine text)
      pure (shown ++ rest)) := by
  by_cases several : '\n' ∈ text
  · rcases Text.firstLine_of_mem several with ⟨front, first, whole⟩
    rw [first, ← resolveText_lineEnd, ← whole]
  · rcases Text.firstLine_of_notMem several with ⟨first, behind⟩
    have nothing : resolveText registry scope [] = pure [] := by
      rw [resolveText, Segment.ofText]
      rfl
    rw [first, behind, nothing]
    simp

namespace Renderer

/-- The nodes of a text without regions are its lines, and these leave what the text leaves. -/
theorem renderNodes_of_regionFree (renderer : Renderer σ) (scope : Scope σ) (depth : Nat)
    {text : Text} (regionFree : Text.RegionFree text) :
    renderer.renderNodes scope depth (Node.parse text) =
      Interpolation.resolveText renderer.helpers scope text := by
  induction text using Node.parse_induction with
  | nil =>
      rw [Node.parse_nil, Interpolation.resolveText, Segment.ofText]
      rfl
  | line text notEmpty plain ih =>
      rw [Node.parse_line notEmpty plain, renderNodes, renderNode,
        ih (regionFree.first notEmpty).2, ← Interpolation.resolveText_firstLine]
  | conditional text clauses behind found bodies ih =>
      rw [regionFree.first?_eq_none] at found
      contradiction
  | iteration text name collection body behind found inner ih =>
      rw [regionFree.first?_eq_none] at found
      contradiction

/-- Rendering a template without regions is interpolation, done twice, of what is left of it without
its comments. A template without comments and spans on top of that is its own rendering. -/
theorem render_of_regionFree (renderer : Renderer σ) (scope : Scope σ) (template : Text)
    (regionFree : Text.RegionFree (Comment.strip template)) :
    renderer.render scope template = (do
        let once ← Interpolation.resolveText renderer.helpers scope (Comment.strip template)
        Interpolation.resolveText renderer.helpers scope once) ∧
      (¬Comment.Occurs template → ¬Segment.SpanOccurs template →
        renderer.render scope template = pure template) := by
  have twice : renderer.render scope template = (do
      let once ← Interpolation.resolveText renderer.helpers scope (Comment.strip template)
      Interpolation.resolveText renderer.helpers scope once) := by
    rw [render, renderBlocks, atDepth, if_neg (Nat.not_lt_zero _),
      renderNodes_of_regionFree renderer scope 0 regionFree]
  refine ⟨twice, ?_⟩
  intro commentFree spanFree
  rw [twice, Comment.strip_of_commentFree commentFree,
    Interpolation.resolveText_of_spanFree _ _ spanFree, pure_bind,
    Interpolation.resolveText_of_spanFree _ _ spanFree]

/-- A brace on the line behind its span, a star in two marks and a letter behind a word. -/
def nearMisses : Text :=
  ['$', '{', '\n', '}', '@', '*', '@', '\n', '\n', ' ', '@', 'i', 'f', 'f', 'y']

theorem render_of_regionFree_nearMisses :
    Text.RegionFree (Comment.strip nearMisses) ∧ ¬Comment.Occurs nearMisses ∧
      ¬Segment.SpanOccurs nearMisses ∧
      standard.render (Scope.empty : Scope Empty) nearMisses = pure nearMisses := by
  have commentFree : ¬Comment.Occurs nearMisses := by
    rintro ⟨front, inner, behind, whole⟩
    have stars := congrArg (List.count '*') whole
    simp only [List.count_append] at stars
    have single : nearMisses.count '*' = 1 := by decide
    have opens : Comment.opening.count '*' = 1 := by decide
    have closes : Comment.closing.count '*' = 1 := by decide
    omega
  have spanFree : ¬Segment.SpanOccurs nearMisses := by
    rintro ⟨front, inner, behind, whole, single⟩
    simp [nearMisses, List.cons_eq_append_iff] at whole
    rcases whole with ⟨-, closed⟩
    cases inner with
    | nil => simp at closed
    | cons c inner =>
        rcases List.cons.inj closed with ⟨rfl, -⟩
        simp at single
  have regionFree : Text.RegionFree (Comment.strip nearMisses) := by
    rw [Comment.strip_of_commentFree commentFree]
    decide
  have rendered := render_of_regionFree standard (Scope.empty : Scope Empty) nearMisses regionFree
  exact ⟨regionFree, commentFree, spanFree, rendered.2 commentFree spanFree⟩

end Renderer

end TextTemplate
