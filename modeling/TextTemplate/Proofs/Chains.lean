import TextTemplate.Proofs.Cutting
import TextTemplate.Proofs.DottedPath
import TextTemplate.Proofs.Quotes
import TextTemplate.Proofs.Spans

/-!
# Chains of helpers

A span with bars in it is a chain: the value of its expression goes through one helper after the
other (`Interpolation.resolveText_chain`). The span is cut at all of its bars, and what is between
them is trimmed, so the blanks around bars belong to no part. An argument in quotes loses these and
nothing else, since the first colon of a stage is the one behind the name.
-/

namespace TextTemplate

/-! ## Texts between bars -/

namespace Text

theorem pieces_eq_splitOn (mark : Char) (text : Text) : pieces mark text = text.splitOn mark := by
  induction text with
  | nil => rw [pieces, List.splitOn_nil]
  | cons c rest ih =>
      rw [pieces, ih, List.splitOn_cons_eq_if_modifyHead]
      cases parts : rest.splitOn mark with
      | nil => exact absurd parts (List.splitOn_ne_nil mark rest)
      | cons piece others => simp

/-- A bar with a space on each side. -/
def bar : Text :=
  [' ', '|', ' ']

/-- What holds of the characters of a bar and of the texts holds of them all. -/
theorem forall_mem_bars {keep : Char → Bool} (ofBar : ∀ c ∈ bar, keep c = true)
    {texts : List Text} (ofTexts : ∀ text ∈ texts, ∀ c ∈ text, keep c = true) :
    ∀ c ∈ bar.intercalate texts, keep c = true := by
  induction texts with
  | nil => simp
  | cons first others ih =>
      rw [List.forall_mem_cons] at ofTexts
      rcases ofTexts with ⟨here, later⟩
      cases others with
      | nil => simpa using here
      | cons second others =>
          rw [List.intercalate_cons_of_ne_nil (by simp), List.forall_mem_append,
            List.forall_mem_append]
          exact ⟨⟨here, ofBar⟩, ih later⟩

/-- Up to blanks the pieces between bars are the texts that were put there. -/
theorem trim_pieces_bars {first : Text} {others : List Text}
    (solid : ∀ text ∈ first :: others, '|' ∉ text) :
    (pieces '|' (bar.intercalate (first :: others))).map trim = (first :: others).map trim := by
  rw [pieces_eq_splitOn]
  -- The space behind a bar becomes part of the next text.
  induction others generalizing first with
  | nil =>
      have alone := solid first (by simp)
      simp [List.splitOn_eq_singleton alone]
  | cons second others ih =>
      rw [List.forall_mem_cons, List.forall_mem_cons] at solid
      rcases solid with ⟨firstSolid, secondSolid, othersSolid⟩
      have space : ∀ c ∈ [' '], Unicode.isBlank c = true := List.all_eq_true.mp (by decide)
      have front : '|' ∉ first ++ [' '] := by simpa using firstSolid
      have later : ∀ text ∈ (' ' :: second) :: others, '|' ∉ text := by
        rw [List.forall_mem_cons]
        exact ⟨by simpa using secondSolid, othersSolid⟩
      have parted : bar.intercalate (first :: second :: others) =
          (first ++ [' ']) ++ '|' :: bar.intercalate ((' ' :: second) :: others) := by
        cases others <;> simp [bar, List.intercalate]
      rw [parted, List.splitOn_append_cons_self_of_not_mem front, List.map_cons, ih later,
        trim_append_blank space, List.map_cons, List.map_cons, List.map_cons]
      exact congrArg (trim first :: · :: others.map trim) (trim_blank_append space second)

end Text

/-! ## Stages -/

/-- A character that may stand in a part of a chain. -/
def Span.isPart (c : Char) : Bool :=
  Segment.isInner c && c != '|'

/-- A stage of a chain as it is written. -/
structure Stage.Written where
  name : Text
  argument : Option (Quote × Text)
  nonempty : name ≠ []
  trimmed : Text.trim name = name
  single : ':' ∉ name
  nameParts : ∀ c ∈ name, Span.isPart c = true
  argumentParts : ∀ quoted ∈ argument, ∀ c ∈ quoted.2, Span.isPart c = true

namespace Stage.Written

/-- The stage as it is written: its name, and its argument in quotes behind a colon. -/
def text (written : Written) : Text :=
  written.name ++
    match written.argument with
    | none => []
    | some (quote, argument) => ':' :: quote.enclose argument

/-- The stage that is meant: its quotes are none of its argument. -/
def stage (written : Written) : Stage :=
  ⟨written.name, written.argument.map Prod.snd⟩

theorem isPart_text (written : Written) : ∀ c ∈ written.text, Span.isPart c = true := by
  intro c inside
  rcases List.mem_append.mp inside with named | behind
  · exact written.nameParts c named
  · split at behind
    · simp at behind
    · rename_i quote argument quoted
      simp only [Quote.enclose, List.mem_cons, List.mem_append, List.not_mem_nil, or_false]
        at behind
      rcases behind with rfl | (rfl | within) | rfl
      · rfl
      · cases quote <;> rfl
      · exact written.argumentParts (quote, argument) quoted c within
      · cases quote <;> rfl

theorem bar_notMem_text (written : Written) : '|' ∉ written.text := by
  intro inside
  have part := written.isPart_text '|' inside
  contradiction

theorem text_nonempty (written : Written) : written.text ≠ [] := by
  simp [text, written.nonempty]

theorem trim_text (written : Written) : Text.trim written.text = written.text := by
  rw [text]
  split
  · rw [List.append_nil, written.trimmed]
  · rename_i quote argument quoted
    rcases Text.head_visible written.trimmed written.nonempty with ⟨c, rest, shape, visible⟩
    have whole : written.name ++ ':' :: quote.enclose argument =
        c :: (rest ++ ':' :: quote.mark :: argument) ++ [quote.mark] := by
      simp [shape, Quote.enclose]
    rw [whole]
    exact Text.trim_between visible quote.mark_visible _

theorem ofText_text (written : Written) : Stage.ofText written.text = written.stage := by
  cases quoted : written.argument with
  | none =>
      have alone : Text.cutAt? ':' written.name = none := Text.cutAt?_eq_none.mpr written.single
      simp only [text, stage, quoted, List.append_nil, Stage.ofText, alone, Option.map_none]
  | some parts =>
      rcases parts with ⟨quote, argument⟩
      have cut := Text.cutAt?_append written.single (quote.enclose argument)
      simp only [text, stage, quoted, Stage.ofText, cut, written.trimmed, quote.trim_enclose,
        quote.unquote_enclose, Option.map_some]

end Stage.Written

theorem Stage.ofTexts_written {texts : List Text} {stages : List Written}
    (same : texts.map Text.trim = stages.map Written.text) :
    Stage.ofTexts texts = stages.map Written.stage := by
  have kept : (stages.map Written.text).filter (· ≠ []) = stages.map Written.text := by
    rw [List.filter_eq_self]
    intro text listed
    rcases List.mem_map.mp listed with ⟨written, -, rfl⟩
    simpa using written.text_nonempty
  rw [Stage.ofTexts, same, kept, List.map_map]
  exact List.map_congr_left fun written _ => written.ofText_text

namespace Span

/-- A chain as it is written in a span. -/
def chainText (expression : Text) (stages : List Stage.Written) : Text :=
  Text.bar.intercalate (expression :: stages.map Stage.Written.text)

theorem isInner_chainText {expression : Text} {stages : List Stage.Written}
    (parts : ∀ c ∈ expression, isPart c = true) :
    ∀ c ∈ chainText expression stages, Segment.isInner c = true := by
  have inner : ∀ c, isPart c = true → Segment.isInner c = true := by
    intro c part
    rw [isPart, Bool.and_eq_true] at part
    exact part.1
  rw [chainText]
  apply Text.forall_mem_bars (List.all_eq_true.mp (by decide))
  rw [List.forall_mem_cons]
  constructor
  · intro c inside
    exact inner c (parts c inside)
  · intro text listed c inside
    rcases List.mem_map.mp listed with ⟨written, -, rfl⟩
    exact inner c (written.isPart_text c inside)

/-- A written chain is read back, up to blanks around the expression. -/
theorem ofText_chainText {expression : Text} {stages : List Stage.Written}
    (parts : ∀ c ∈ expression, isPart c = true) (nonempty : stages ≠ []) :
    ∃ first, ofText (chainText expression stages) = .chain first (stages.map Stage.Written.stage) ∧
      Text.trim first = Text.trim expression := by
  have solid : ∀ text ∈ expression :: stages.map Stage.Written.text, '|' ∉ text := by
    rw [List.forall_mem_cons]
    constructor
    · intro inside
      have part := parts '|' inside
      contradiction
    · intro text listed
      rcases List.mem_map.mp listed with ⟨written, -, rfl⟩
      exact written.bar_notMem_text
  have trimmed := Text.trim_pieces_bars solid
  have texts : (stages.map Stage.Written.text).map Text.trim = stages.map Stage.Written.text := by
    rw [List.map_map]
    exact List.map_congr_left fun written _ => written.trim_text
  rw [List.map_cons, texts] at trimmed
  rcases List.map_eq_cons_iff.mp trimmed with ⟨first, others, pieces, alike, behind⟩
  refine ⟨first, ?_, alike⟩
  cases others with
  | nil => simp [nonempty] at behind
  | cons second others =>
      rw [chainText, ofText, pieces]
      simp only [Stage.ofTexts_written behind]

end Span

/-! ## Passing a value on -/

/-- What follows a computation matters for the results that it has. -/
theorem Attempt.bind_congr {α β : Type} {first : Attempt α} {next other : α → Attempt β}
    (same : ∀ value, first.outcome = .ok value → next value = other value) :
    first >>= next = first >>= other := by
  apply ExceptT.ext
  rw [ExceptT.run_bind, ExceptT.run_bind]
  apply Traced.bind_congr
  cases result : first.run.value with
  | error cause => rfl
  | ok value => simp only [same value result]

theorem Registry.apply_unknown {σ : Type} {registry : Registry σ} {name : String}
    (unknown : registry.exists? name = false) (value : Value σ) (argument : Option Text) :
    (registry.apply value name argument).outcome = .ok value := by
  simp only [Registry.exists?, Bool.or_eq_false_iff, Option.isSome_eq_false_iff,
    Option.isNone_iff_eq_none] at unknown
  rcases unknown with ⟨notAdded, notBuiltin⟩
  rw [apply]
  simp only [notAdded, notBuiltin]
  rfl

namespace Interpolation

variable {σ : Type}

/-- Passes a value through one stage. -/
def pass (registry : Registry σ) (value : Value σ) (stage : Stage) : Attempt (Value σ) :=
  registry.apply value (String.ofList stage.name) stage.argument

theorem applyStages_eq_foldlM (registry : Registry σ) (value : Value σ) (stages : List Stage) :
    applyStages registry value stages = stages.foldlM (pass registry) value := by
  induction stages generalizing value with
  | nil => rfl
  | cons stage others ih =>
      rw [applyStages, List.foldlM_cons, pass]
      simp only [ih]

/-- The first stage that fails ends the chain, whatever stages there are behind it. -/
theorem foldlM_pass_failed {registry : Registry σ} {value next : Value σ} {front : List Stage}
    {stage : Stage} {cause : Error}
    (before : (front.foldlM (pass registry) value).outcome = .ok next)
    (failed : (pass registry next stage).outcome = .error cause) (behind : List Stage) :
    (front ++ stage :: behind).foldlM (pass registry) value =
        (front ++ [stage]).foldlM (pass registry) value ∧
      ((front ++ stage :: behind).foldlM (pass registry) value).outcome = .error cause := by
  constructor
  · rw [List.foldlM_append, List.foldlM_append]
    apply Attempt.bind_congr
    intro reached same
    rcases Except.ok.inj (same.symm.trans before) with rfl
    rw [List.foldlM_cons, List.foldlM_cons]
    apply Attempt.bind_congr
    intro result applied
    rw [failed] at applied
    contradiction
  · rw [List.foldlM_append, Attempt.outcome_bind_eq_error]
    refine .inr ⟨next, before, ?_⟩
    rw [List.foldlM_cons, Attempt.outcome_bind_eq_error]
    exact .inl failed

variable [Host σ]

theorem resolveText_span (registry : Registry σ) (scope : Scope σ) {inner : Text}
    (inside : ∀ c ∈ inner, Segment.isInner c = true) :
    resolveText registry scope ('$' :: '{' :: inner ++ ['}']) =
      resolveSpan registry scope (Span.ofText inner) := by
  rw [resolveText, Segment.ofText_enclosed inside, Segment.ofText, resolveSegments,
    resolveSegments]
  simp

/-- A chain passes the value of its expression through its stages from left to right and shows what
comes out. A helper that is unknown passes the value on, and the first one that fails ends the chain.
There is no fallback in a span with bars. -/
theorem resolveText_chain (registry : Registry σ) (scope : Scope σ) :
    (∀ (expression : Text) (stages : List Stage.Written),
        (∀ c ∈ expression, Span.isPart c = true) → stages ≠ [] →
        resolveText registry scope ('$' :: '{' :: Span.chainText expression stages ++ ['}']) = (do
          let value ← Attempt.ofTraced (Expression.resolve scope expression)
          let result ← (stages.map Stage.Written.stage).foldlM (pass registry) value
          pure result.display)) ∧
      (∀ value name argument, registry.exists? name = false →
        (registry.apply value name argument).outcome = .ok value) ∧
      ∀ (front behind : List Stage) (stage : Stage) (value next : Value σ) (cause : Error),
        (front.foldlM (pass registry) value).outcome = .ok next →
        (pass registry next stage).outcome = .error cause →
        (front ++ stage :: behind).foldlM (pass registry) value =
            (front ++ [stage]).foldlM (pass registry) value ∧
          ((front ++ stage :: behind).foldlM (pass registry) value).outcome = .error cause := by
  refine ⟨?_, fun value name argument unknown => Registry.apply_unknown unknown value argument,
    fun front behind stage value next cause before failed =>
      foldlM_pass_failed before failed behind⟩
  intro expression stages parts nonempty
  rcases Span.ofText_chainText parts nonempty with ⟨first, read, same⟩
  have denoted : Expression.ofText first = Expression.ofText expression := by
    rw [Expression.ofText, Expression.ofText, same]
  rw [resolveText_span registry scope (Span.isInner_chainText parts), read, resolveSpan,
    Expression.resolve_congr scope denoted]
  simp only [applyStages_eq_foldlM]

/-- A helper that always fails. -/
def refusing : Registry Empty :=
  Registry.builtin.register "Refuse" fun _ _ => .error (.helper "Refuse" "never")

/-- A mark of a fallback in the expression, a helper that is unknown and an argument with blanks,
both quotes, a colon and a comma; and two stages of which the second fails. -/
theorem resolveText_chain_awkward :
    let scope : Scope Empty := .set .empty "n" (.string "x")
    let expression := "Context.n ?? 'y'".toList
    let stages : List Stage.Written :=
      [⟨"no such".toList, none, by decide, by decide +kernel, by decide,
          List.all_eq_true.mp (by decide), by simp⟩,
        ⟨"default".toList, some (.single, " it's: a, \"b\" ".toList), by decide, by decide +kernel,
          by decide, List.all_eq_true.mp (by decide),
          fun _ quoted => Option.some.inj quoted ▸ List.all_eq_true.mp (by decide)⟩]
    let stage : Stage := ⟨"REFUSE".toList, none⟩
    let unknown : Stage := ⟨"no such".toList, none⟩
    (∀ c ∈ expression, Span.isPart c = true) ∧ stages ≠ [] ∧
      refusing.exists? "no such" = false ∧
      ([unknown].foldlM (pass refusing) .null).outcome = .ok .null ∧
      (pass refusing .null stage).outcome = .error (.helper "Refuse" "never") ∧
      Span.chainText expression stages =
        "Context.n ?? 'y' | no such | default:' it's: a, \"b\" '".toList ∧
      resolveText refusing scope ('$' :: '{' :: Span.chainText expression stages ++ ['}']) = (do
        let value ← Attempt.ofTraced (Expression.resolve scope expression)
        let result ← (stages.map Stage.Written.stage).foldlM (pass refusing) value
        pure result.display) ∧
      (refusing.apply .null "no such" none).outcome = .ok .null ∧
      ([unknown, stage, unknown].foldlM (pass refusing) .null).outcome =
        .error (.helper "Refuse" "never") := by
  intro scope expression stages stage unknown
  have parts : ∀ c ∈ expression, Span.isPart c = true := List.all_eq_true.mp (by decide)
  have nonempty : stages ≠ [] := by simp [stages]
  have missing : refusing.exists? "no such" = false := by decide +kernel
  have law := resolveText_chain refusing scope
  have passed : (refusing.apply .null "no such" none).outcome = .ok .null :=
    law.2.1 .null "no such" none missing
  have before : ([unknown].foldlM (pass refusing) .null).outcome = .ok .null := by
    simp only [List.foldlM_cons, List.foldlM_nil, bind_pure]
    exact passed
  have same : Unicode.foldName (String.ofList stage.name) = Unicode.foldName "Refuse" := by
    decide +kernel
  have failed : (pass refusing .null stage).outcome = .error (.helper "Refuse" "never") := by
    rw [pass, Registry.apply, same, refusing, Registry.register, Entries.get?_put_same]
    rfl
  exact ⟨parts, nonempty, missing, before, failed, by decide, law.1 expression stages parts nonempty,
    passed, (law.2.2 [unknown] [unknown] stage .null .null _ before failed).2⟩

end Interpolation

end TextTemplate
