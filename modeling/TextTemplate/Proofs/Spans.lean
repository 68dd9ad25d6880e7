import TextTemplate.Interpolation
import Mathlib.Data.List.TakeWhile

/-!
# Spans

The inside of a span has neither a closing brace nor a line end, which makes interpolation a matter
of single lines: a text can be cut behind any of its line ends, and the parts are interpolated one
after the other (`Interpolation.resolveText_lineEnd`). A text in which nothing is closed on the line
where it is opened has no spans and stays as it is (`Interpolation.resolveText_of_spanFree`).
-/

namespace TextTemplate

namespace Segment

theorem inner?_eq_some {text inner rest : Text} :
    inner? text = some (inner, rest) ↔
      text = inner ++ '}' :: rest ∧ ∀ c ∈ inner, isInner c = true := by
  constructor
  · intro found
    unfold inner? at found
    split at found
    · rename_i following stop
      rcases Prod.mk.inj (Option.some.inj found) with ⟨rfl, rfl⟩
      refine ⟨?_, ?_⟩
      · rw [← stop]
        exact List.takeWhile_append_dropWhile.symm
      · intro c inside
        exact List.mem_takeWhile_imp inside
    · contradiction
  · rintro ⟨rfl, inside⟩
    have stop : ¬isInner '}' = true := by decide
    have behind : (inner ++ '}' :: rest).dropWhile isInner = '}' :: rest := by
      rw [List.dropWhile_append_of_pos inside, List.dropWhile_cons_of_neg stop]
    have front : (inner ++ '}' :: rest).takeWhile isInner = inner := by
      rw [List.takeWhile_append_of_pos inside, List.takeWhile_cons_of_neg stop, List.append_nil]
    simp only [inner?, behind, front]

theorem inner?_append {text inner rest : Text} (found : inner? text = some (inner, rest))
    (behind : Text) : inner? (text ++ behind) = some (inner, rest ++ behind) := by
  rcases inner?_eq_some.mp found with ⟨rfl, inside⟩
  exact inner?_eq_some.mpr ⟨by simp, inside⟩

/-- What is not closed on its line is not closed behind the line either. -/
theorem inner?_append_lineEnd {text : Text} (unclosed : inner? text = none) (behind : Text) :
    inner? (text ++ '\n' :: behind) = none := by
  cases closed : inner? (text ++ '\n' :: behind) with
  | none => rfl
  | some parts =>
      rcases parts with ⟨inner, rest⟩
      rcases inner?_eq_some.mp closed with ⟨whole, inside⟩
      rcases List.append_eq_append_iff.mp whole with
        ⟨within, reaches, lineEnd⟩ | ⟨within, reaches, brace⟩
      · -- The inside would go beyond the text and contain the line end.
        cases within with
        | nil => simp at lineEnd
        | cons c within =>
            rcases List.cons.inj lineEnd with ⟨rfl, -⟩
            have noEnd := inside '\n' (by simp [reaches])
            contradiction
      · -- The brace would stand in the text.
        cases within with
        | nil => simp at brace
        | cons c within =>
            rcases List.cons.inj brace with ⟨rfl, -⟩
            rw [inner?_eq_some.mpr ⟨reaches, inside⟩] at unclosed
            contradiction

/-! ## Segments of a text -/

theorem ofText_span {text inner rest : Text} (found : inner? text = some (inner, rest)) :
    ofText ('$' :: '{' :: text) = .span inner :: ofText rest := by
  rw [ofText]
  split <;> simp_all

/-- A span is over at the first brace behind its opening. -/
theorem ofText_enclosed {inner : Text} (inside : ∀ c ∈ inner, isInner c = true) (behind : Text) :
    ofText ('$' :: '{' :: inner ++ '}' :: behind) = .span inner :: ofText behind := by
  rw [List.cons_append, List.cons_append, ofText_span (inner?_eq_some.mpr ⟨rfl, inside⟩)]

theorem ofText_unclosed {text : Text} (unclosed : inner? text = none) :
    ofText ('$' :: '{' :: text) = .plain '$' :: ofText ('{' :: text) := by
  rw [ofText]
  split <;> simp_all

theorem ofText_plain {c : Char} {rest : Text}
    (plain : ∀ text, c = '$' → rest ≠ '{' :: text) :
    ofText (c :: rest) = .plain c :: ofText rest := by
  rw [ofText]
  exact plain

theorem ofText_append_lineEnd (front behind : Text) :
    ofText (front ++ '\n' :: behind) = ofText front ++ .plain '\n' :: ofText behind := by
  -- The cases are those of the reader; each has to make the same choice with the text behind it.
  induction front using Segment.ofText.induct with
  | case1 text inner rest found ih =>
      rw [ofText_span found, List.cons_append, List.cons_append,
        ofText_span (inner?_append found _), ih, List.cons_append]
  | case2 text unclosed ih =>
      rw [ofText_unclosed unclosed, List.cons_append, List.cons_append,
        ofText_unclosed (inner?_append_lineEnd unclosed behind), ← List.cons_append, ih,
        List.cons_append]
  | case3 c rest plain ih =>
      have further : ∀ text, c = '$' → rest ++ '\n' :: behind ≠ '{' :: text := by
        intro text dollar opened
        cases rest with
        | nil => simp at opened
        | cons d rest =>
            rcases List.cons.inj opened with ⟨rfl, -⟩
            exact plain rest dollar rfl
      rw [ofText_plain plain, List.cons_append, ofText_plain further, ih, List.cons_append]
  | case4 =>
      rw [ofText, List.nil_append, List.nil_append, ofText_plain (by simp)]

/-- Somewhere in the text a span is opened and closed on the same line. -/
def SpanOccurs (text : Text) : Prop :=
  ∃ front inner behind, text = front ++ '$' :: '{' :: inner ++ '}' :: behind ∧ '\n' ∉ inner

theorem SpanOccurs.cons {text : Text} (occurs : SpanOccurs text) (c : Char) :
    SpanOccurs (c :: text) := by
  rcases occurs with ⟨front, inner, behind, rfl, single⟩
  exact ⟨c :: front, inner, behind, rfl, single⟩

theorem ofText_of_spanFree {text : Text} (spanFree : ¬SpanOccurs text) :
    ofText text = text.map .plain := by
  induction text using Segment.ofText.induct with
  | case1 text inner rest found ih =>
      rcases inner?_eq_some.mp found with ⟨rfl, inside⟩
      refine absurd ⟨[], inner, rest, rfl, ?_⟩ spanFree
      intro lineEnd
      have noEnd := inside '\n' lineEnd
      contradiction
  | case2 text unclosed ih =>
      rw [ofText_unclosed unclosed, ih fun occurs => spanFree (occurs.cons _)]
      rfl
  | case3 c rest plain ih =>
      rw [ofText_plain plain, ih fun occurs => spanFree (occurs.cons _), List.map_cons]
  | case4 => rw [ofText, List.map_nil]

end Segment

namespace Interpolation

variable {σ : Type} [Host σ] (registry : Registry σ) (scope : Scope σ)

theorem resolveSegments_append (front behind : List Segment) :
    resolveSegments registry scope (front ++ behind) = (do
      let shown ← resolveSegments registry scope front
      let rest ← resolveSegments registry scope behind
      pure (shown ++ rest)) := by
  induction front with
  | nil =>
      rw [List.nil_append, resolveSegments, pure_bind]
      exact (bind_pure _).symm
  | cons segment others ih =>
      cases segment with
      | plain c =>
          simp only [List.cons_append, resolveSegments, ih, bind_assoc, pure_bind]
      | span inner =>
          simp only [List.cons_append, resolveSegments, ih, bind_assoc, pure_bind,
            List.append_assoc]

theorem resolveSegments_plain (text : Text) :
    resolveSegments registry scope (text.map .plain) = pure text := by
  induction text with
  | nil => rfl
  | cons c rest ih => rw [List.map_cons, resolveSegments, ih, pure_bind]

/-- A text may be interpolated line by line. -/
theorem resolveText_lineEnd (front behind : Text) :
    resolveText registry scope (front ++ '\n' :: behind) = (do
      let shown ← resolveText registry scope (front ++ ['\n'])
      let rest ← resolveText registry scope behind
      pure (shown ++ rest)) := by
  have line := Segment.ofText_append_lineEnd front []
  rw [Segment.ofText] at line
  have parted : Segment.ofText (front ++ '\n' :: behind) =
      Segment.ofText (front ++ ['\n']) ++ Segment.ofText behind := by
    rw [Segment.ofText_append_lineEnd front behind, line, List.append_assoc, List.singleton_append]
  rw [resolveText, parted, resolveSegments_append]
  rfl

theorem resolveText_of_spanFree {text : Text} (spanFree : ¬Segment.SpanOccurs text) :
    resolveText registry scope text = pure text := by
  rw [resolveText, Segment.ofText_of_spanFree spanFree, resolveSegments_plain]

end Interpolation

end TextTemplate
