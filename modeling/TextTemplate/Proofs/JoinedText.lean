import TextTemplate.Command.Run
import TextTemplate.Proofs.Spans

/-!
# Joined texts

A text can be cut wherever no span of it goes over the cut, and the parts are interpolated one after
the other (`Interpolation.resolveText_append`). Marks that are opened before the cut and closed
behind it do no harm as long as they are not read as one span: the mark may be within another span,
or a line end may keep it from being closed.

The segments carry the argument. Reading the joined text makes the same choices as reading the front
part until a span reaches the cut (`Segment.ofText_append`).
-/

namespace TextTemplate

namespace Segment

/-- The text that a segment is read from. -/
def written : Segment → Text
  | plain c => [c]
  | span inner => '$' :: '{' :: inner ++ ['}']

theorem flatMap_written_ofText (text : Text) : (ofText text).flatMap written = text := by
  induction text using Segment.ofText.induct with
  | case1 text inner rest found ih =>
      rcases inner?_eq_some.mp found with ⟨rfl, -⟩
      simp [ofText_span found, written, ih]
  | case2 text unclosed ih => simp [ofText_unclosed unclosed, written, ih]
  | case3 c rest plain ih => simp [ofText_plain plain, written, ih]
  | case4 => rw [ofText, List.flatMap_nil]

/-- A span of the joined text begins in the front part and goes on behind it. -/
def CrossesCut (front behind : Text) : Prop :=
  ∃ before inner after, ofText (front ++ behind) = before ++ .span inner :: after ∧
    (before.flatMap written).length < front.length ∧
    front.length < ((before ++ [.span inner]).flatMap written).length

/-- What crosses the cut behind the first segment crosses it with that segment in front, too. -/
theorem CrossesCut.of_rest {front rest behind : Text} {segment : Segment}
    (crosses : CrossesCut rest behind) (whole : front = segment.written ++ rest)
    (read : ofText (front ++ behind) = segment :: ofText (rest ++ behind)) :
    CrossesCut front behind := by
  rcases crosses with ⟨before, inner, after, parted, begins, goesOn⟩
  refine ⟨segment :: before, inner, after, ?_, ?_, ?_⟩
  · rw [read, parted, List.cons_append]
  · rw [whole, List.flatMap_cons, List.length_append, List.length_append]
    omega
  · rw [whole, List.cons_append, List.flatMap_cons, List.length_append, List.length_append]
    omega

/-- The first span of the joined text crosses the cut if it is longer than the front part. -/
theorem CrossesCut.of_first {front behind text inner rest : Text}
    (opened : front ++ behind = '$' :: '{' :: text) (found : inner? text = some (inner, rest))
    (begins : 0 < front.length) (goesOn : front.length < inner.length + 3) :
    CrossesCut front behind := by
  refine ⟨[], inner, ofText rest, ?_, ?_, ?_⟩
  · rw [opened, ofText_span found, List.nil_append]
  · exact begins
  · have long : ([Segment.span inner].flatMap written).length = inner.length + 3 := by
      simp [written]
    rw [List.nil_append, long]
    exact goesOn

/-- What is closed only by the text behind it is closed in that text. -/
theorem length_le_of_unclosed {text behind inner rest : Text} (unclosed : inner? text = none)
    (found : inner? (text ++ behind) = some (inner, rest)) : text.length ≤ inner.length := by
  rcases inner?_eq_some.mp found with ⟨whole, inside⟩
  rcases List.append_eq_append_iff.mp whole with ⟨within, reaches, -⟩ | ⟨within, reaches, brace⟩
  · rw [reaches, List.length_append]
    omega
  · cases within with
    | nil => rw [reaches, List.append_nil]
    | cons c within =>
        rcases List.cons.inj brace with ⟨rfl, -⟩
        rw [inner?_eq_some.mpr ⟨reaches, inside⟩] at unclosed
        contradiction

/-- What is opened in the front part and not closed there stays unclosed. -/
theorem inner?_append_of_unclosed {text behind : Text} (unclosed : inner? text = none)
    (uncrossed : ¬CrossesCut ('$' :: '{' :: text) behind) : inner? (text ++ behind) = none := by
  cases closed : inner? (text ++ behind) with
  | none => rfl
  | some parts =>
      rcases parts with ⟨inner, rest⟩
      have long := length_le_of_unclosed unclosed closed
      refine absurd (CrossesCut.of_first rfl closed ?_ ?_) uncrossed
      · simp
      · simp only [List.length_cons]
        omega

/-- A plain character of the front part is a plain character of the joined text. -/
theorem ofText_plain_append {c : Char} {rest behind : Text}
    (plain : ∀ text, c = '$' → rest ≠ '{' :: text) (uncrossed : ¬CrossesCut (c :: rest) behind) :
    ofText (c :: rest ++ behind) = .plain c :: ofText (rest ++ behind) := by
  by_cases opened : c = '$' ∧ ∃ text, rest ++ behind = '{' :: text
  · -- The character is a dollar sign right before the cut, and a brace comes behind it.
    rcases opened with ⟨rfl, text, brace⟩
    have last : rest = [] := by
      cases rest with
      | nil => rfl
      | cons d rest =>
          rcases List.cons.inj brace with ⟨rfl, -⟩
          exact absurd rfl (plain rest rfl)
    have unclosed : inner? text = none := by
      cases closed : inner? text with
      | none => rfl
      | some parts =>
          rcases parts with ⟨inner, following⟩
          refine absurd (CrossesCut.of_first (congrArg (List.cons '$') brace) closed ?_ ?_) uncrossed
          · simp
          · simp [last]
    rw [List.cons_append, brace, ofText_unclosed unclosed]
  · apply ofText_plain
    intro text dollar brace
    exact opened ⟨dollar, text, brace⟩

theorem ofText_append {front behind : Text} (uncrossed : ¬CrossesCut front behind) :
    ofText (front ++ behind) = ofText front ++ ofText behind := by
  -- The cases are those of the reader; in each the same choice is made with the text behind.
  induction front using Segment.ofText.induct with
  | case1 text inner rest found ih =>
      have here : ofText ('$' :: '{' :: text ++ behind) = .span inner :: ofText (rest ++ behind) :=
        ofText_span (inner?_append found behind)
      have whole : '$' :: '{' :: text = (Segment.span inner).written ++ rest := by
        simp [written, (inner?_eq_some.mp found).1]
      rw [here, ih fun crosses => uncrossed (crosses.of_rest whole here), ofText_span found,
        List.cons_append]
  | case2 text unclosed ih =>
      have here : ofText ('$' :: '{' :: text ++ behind) =
          .plain '$' :: ofText ('{' :: text ++ behind) :=
        ofText_unclosed (inner?_append_of_unclosed unclosed uncrossed)
      rw [here, ih fun crosses => uncrossed (crosses.of_rest rfl here), ofText_unclosed unclosed,
        List.cons_append]
  | case3 c rest plain ih =>
      have here := ofText_plain_append plain uncrossed
      rw [here, ih fun crosses => uncrossed (crosses.of_rest rfl here), ofText_plain plain,
        List.cons_append]
  | case4 => rw [ofText, List.nil_append, List.nil_append]

/-- The segments of a joined text are those of its parts exactly if no span crosses the cut. -/
theorem ofText_append_iff {front behind : Text} :
    ofText (front ++ behind) = ofText front ++ ofText behind ↔ ¬CrossesCut front behind := by
  refine ⟨?_, ofText_append⟩
  rintro parted ⟨before, inner, after, here, begins, goesOn⟩
  rw [parted] at here
  have cut := congrArg List.length (flatMap_written_ofText front)
  rcases List.append_eq_append_iff.mp here with ⟨more, reaches, -⟩ | ⟨more, reaches, brace⟩
  · rw [reaches, List.flatMap_append, List.length_append] at begins
    omega
  · cases more with
    | nil =>
        rw [reaches, List.append_nil] at cut
        omega
    | cons segment more =>
        rcases List.cons.inj brace with ⟨rfl, -⟩
        rw [reaches, List.append_cons, List.flatMap_append, List.length_append] at cut
        omega

end Segment

namespace Interpolation

/-- A text may be interpolated in two parts if no span crosses the cut: first the front part, whose
error is the one that stops, then the part behind. At a line end a text may always be cut. -/
theorem resolveText_append {σ : Type} [Host σ] (registry : Registry σ) (scope : Scope σ) :
    (∀ front behind : Text, ¬Segment.CrossesCut front behind →
        resolveText registry scope (front ++ behind) = (do
          let shown ← resolveText registry scope front
          let rest ← resolveText registry scope behind
          pure (shown ++ rest))) ∧
      ∀ front behind : Text,
        resolveText registry scope (front ++ '\n' :: behind) = (do
          let shown ← resolveText registry scope front
          let rest ← resolveText registry scope behind
          pure (shown ++ '\n' :: rest)) := by
  constructor
  · intro front behind uncrossed
    rw [resolveText, Segment.ofText_append uncrossed, resolveSegments_append]
    rfl
  · intro front behind
    rw [resolveText, Segment.ofText_append_lineEnd, resolveSegments_append, resolveSegments]
    simp only [bind_assoc, pure_bind]
    rfl

/-- A cut within a mark that is not closed on its line, between two spans. -/
theorem resolveText_append_unclosed :
    let scope : Scope Empty := .set .empty "n" (.int 7)
    let front := ['$', '{', 'n', '}', '$']
    let behind := ['{', '\n', '$', '{', 'n', '}']
    ¬Segment.CrossesCut front behind ∧
      resolveText .builtin scope (front ++ behind) = (do
        let shown ← resolveText .builtin scope front
        let rest ← resolveText .builtin scope behind
        pure (shown ++ rest)) := by
  intro scope front behind
  have uncrossed : ¬Segment.CrossesCut front behind := by
    rw [← Segment.ofText_append_iff]
    cbv
  exact ⟨uncrossed, (resolveText_append .builtin scope).1 front behind uncrossed⟩

end Interpolation

end TextTemplate
