import TextTemplate.Calendar.Directive
import TextTemplate.Proofs.Quotes
import Mathlib.Data.List.Chain
import Mathlib.Data.List.TakeWhile

/-!
# Date patterns

A date pattern goes through two languages: its tokens become directives, and the directives are read
again. Nothing is lost on the way. Every pattern becomes known directives, in which a percent sign of
the pattern is never one of a directive (`describe?_directives`), so a date is always shown after its
pattern. A pattern that is put together from parts has the tokens of its parts, as long as no run of a
letter is continued by the next one (`format_parts`).
-/

namespace TextTemplate.Calendar

/-! ## Directives are read back -/

theorem Field.ofDirective?_directive (field : Field) (rest : Text) :
    ∃ behind, field.directive ++ rest = '%' :: behind ∧ behind.head? ≠ some '%' ∧
      ofDirective? behind = some (field, rest) := by
  cases field <;> exact ⟨_, rfl, by simp, rfl⟩

theorem readDirectives?_field (field : Field) (rest : Text) :
    readDirectives? (field.directive ++ rest) =
      (readDirectives? rest).map (.field field :: ·) := by
  rcases field.ofDirective?_directive rest with ⟨behind, shape, single, found⟩
  rw [shape, readDirectives?]
  · split
    · rename_i same
      rw [found] at same
      rcases Option.some.inj same with ⟨rfl, rfl⟩
      rfl
    · rename_i missing
      rw [found] at missing
      contradiction
  · intro following twice
    rw [twice] at single
    contradiction

theorem readDirectives?_literal (c : Char) (rest : Text) :
    readDirectives? (literalDirective c ++ rest) =
      (readDirectives? rest).map (.literal [c] :: ·) := by
  unfold literalDirective
  split
  · rename_i percent
    rw [percent, List.cons_append, List.cons_append, readDirectives?]
    rfl
  · rename_i ordinary
    rw [List.cons_append, readDirectives?]
    · rfl
    · intro following percent
      contradiction
    · intro percent
      contradiction

theorem describe?_token (moment : DateTime) (token : Token) (rest : Text) :
    describe? moment (token.directive ++ rest) =
      (describe? moment rest).map (token.text moment ++ ·) := by
  cases token with
  | field field =>
      simp [describe?, Token.directive, readDirectives?_field, Token.text, Function.comp_def]
  | literal characters =>
      induction characters with
      | nil => simp [Token.directive, Token.text]
      | cons c characters ih =>
          simp only [Token.directive, List.flatMap_cons, List.append_assoc] at ih ⊢
          have one : describe? moment (literalDirective c ++
              (characters.flatMap literalDirective ++ rest)) =
              (describe? moment (characters.flatMap literalDirective ++ rest)).map (c :: ·) := by
            simp [describe?, readDirectives?_literal, Token.text, Function.comp_def]
          rw [one, ih]
          simp [Token.text, Function.comp_def]

/-- Every pattern is translated into known directives, and they describe what its tokens show. -/
theorem describe?_directives (moment : DateTime) (pattern : Text) :
    describe? moment (directives pattern) =
      some ((tokens pattern).flatMap (Token.text moment)) := by
  unfold directives
  induction tokens pattern with
  | nil => simp [describe?, readDirectives?]
  | cons token others ih =>
      rw [List.flatMap_cons, describe?_token, ih]
      simp

theorem format_eq (moment : DateTime) (pattern : Text) :
    format moment pattern = (tokens pattern).flatMap (Token.text moment) := by
  rw [format, describe?_directives, Option.getD_some]

/-! ## Parts of a pattern -/

/-- The letters whose runs are fields. -/
def fieldLetters : List Char :=
  ['y', 'M', 'd', 'H', 'h', 'm', 's', 'f', 'F', 't']

theorem isSome_ofRun? (letter : Char) (length : Nat) :
    (Field.ofRun? letter length).isSome = true ↔ letter ∈ fieldLetters := by
  unfold Field.ofRun?
  split <;> simp_all [fieldLetters]

/-- What a pattern can be put together from: a run of a letter, a text in quotes that is without that
quote, a character behind a backslash, and a character that stands for itself. -/
inductive Part where
  | run (letter : Char) (isField : letter ∈ fieldLetters) (more : Nat)
  | quoted (quote : Quote) (text : Text) (single : quote.mark ∉ text)
  | escaped (c : Char)
  | plain (c : Char) (ordinary : c ∉ fieldLetters ++ ['\'', '"', '\\'])

namespace Part

/-- The part as it is written. -/
def pattern : Part → Text
  | run letter _ more => List.replicate (more + 1) letter
  | quoted quote text _ => quote.enclose text
  | escaped c => ['\\', c]
  | plain c _ => [c]

/-- The field of a run of a letter. -/
def field (letter : Char) (isField : letter ∈ fieldLetters) (length : Nat) : Field :=
  (Field.ofRun? letter length).get ((isSome_ofRun? letter length).mpr isField)

/-- What a part shows of a date and time. -/
def text (moment : DateTime) : Part → Text
  | run letter isField more => (field letter isField (more + 1)).text moment
  | quoted _ text _ => text
  | escaped c => [c]
  | plain c _ => [c]

/-- The part is a run of the letter. -/
def IsRunOf (letter : Char) : Part → Prop
  | run other _ _ => other = letter
  | _ => False

/-- No run of a letter is followed by another run of that letter. -/
def Apart (parts : List Part) : Prop :=
  parts.IsChain fun left right => ∀ letter, left.IsRunOf letter → ¬right.IsRunOf letter

/-- The token of a part. -/
def token : Part → Token
  | run letter isField more => .field (field letter isField (more + 1))
  | quoted _ text _ => .literal text
  | escaped c => .literal [c]
  | plain c _ => .literal [c]

theorem text_token (moment : DateTime) (part : Part) : part.token.text moment = part.text moment := by
  cases part <;> rfl

theorem ofRun?_of_notMem {letter : Char} (ordinary : letter ∉ fieldLetters) (length : Nat) :
    Field.ofRun? letter length = none := by
  rw [← isSome_ofRun? letter length] at ordinary
  simpa using ordinary

theorem mem_of_isRunOf {part : Part} {letter : Char} (run : part.IsRunOf letter) :
    letter ∈ fieldLetters := by
  cases part with
  | run other isField more =>
      rcases run with rfl
      exact isField
  | _ => contradiction

/-- A part that begins with the letter of a field is a run of it. -/
theorem isRunOf_of_head {part : Part} {rest : Text} {letter : Char} (isField : letter ∈ fieldLetters)
    (first : (part.pattern ++ rest).head? = some letter) : part.IsRunOf letter := by
  cases part with
  | run other isField more =>
      have same : other = letter := by simpa [pattern, List.replicate_succ] using first
      exact same
  | quoted quote text single =>
      have mark : quote.mark = letter := by simpa [pattern, Quote.enclose] using first
      rw [← mark] at isField
      cases quote <;> contradiction
  | escaped c =>
      have backslash : '\\' = letter := by simpa [pattern] using first
      rw [← backslash] at isField
      contradiction
  | plain c ordinary =>
      have same : c = letter := by simpa [pattern] using first
      rw [same] at ordinary
      exact absurd (List.mem_append_left _ isField) ordinary

/-- A run of a letter ends where another character follows. -/
theorem run_append {letter : Char} {rest : Text} (stop : rest.head? ≠ some letter) (more : Nat) :
    (List.replicate more letter ++ rest).takeWhile (· == letter) = List.replicate more letter ∧
      (List.replicate more letter ++ rest).dropWhile (· == letter) = rest := by
  have run : ∀ c ∈ List.replicate more letter, (c == letter) = true := by
    intro c inside
    simp [List.eq_of_mem_replicate inside]
  rw [List.takeWhile_append_of_pos run, List.dropWhile_append_of_pos run]
  cases rest with
  | nil => simp
  | cons c rest =>
      have other : c ≠ letter := by simpa using stop
      simp [other]

theorem quote_append (quote : Quote) {text : Text} (single : quote.mark ∉ text) (rest : Text) :
    (text ++ quote.mark :: rest).takeWhile (· != quote.mark) = text ∧
      (text ++ quote.mark :: rest).dropWhile (· != quote.mark) = quote.mark :: rest := by
  have inside : ∀ c ∈ text, (c != quote.mark) = true := by
    intro c within
    simpa using ne_of_mem_of_not_mem within single
  rw [List.takeWhile_append_of_pos inside, List.dropWhile_append_of_pos inside]
  simp

theorem tokens_part (part : Part) {rest : Text}
    (stops : ∀ letter, part.IsRunOf letter → rest.head? ≠ some letter) :
    tokens (part.pattern ++ rest) = part.token :: tokens rest := by
  cases part with
  -- Only the length of a run depends on what follows; the other parts show where they end.
  | run letter isField more =>
      rcases run_append (stops letter rfl) more with ⟨run, behind⟩
      have found : Field.ofRun? letter (more + 1) = some (field letter isField (more + 1)) :=
        (Option.some_get _).symm
      rw [pattern, List.replicate_succ, List.cons_append, tokens.eq_def]
      simp [run, behind, found, token]
  | quoted quote text single =>
      rcases quote_append quote single rest with ⟨inside, behind⟩
      have noField : Field.ofRun? quote.mark
          (((text ++ quote.mark :: rest).takeWhile (· == quote.mark)).length + 1) = none := by
        apply ofRun?_of_notMem
        cases quote <;> decide
      have written : (quoted quote text single).pattern ++ rest =
          quote.mark :: (text ++ quote.mark :: rest) := by
        simp [pattern, Quote.enclose]
      have isQuote : quote.mark = '\'' ∨ quote.mark = '"' := by cases quote <;> simp [Quote.mark]
      rw [written, tokens.eq_def]
      simp [noField, isQuote, inside, behind, token]
  | escaped c =>
      have noField : Field.ofRun? '\\' (((c :: rest).takeWhile (· == '\\')).length + 1) = none :=
        ofRun?_of_notMem (by decide) _
      rw [pattern, List.cons_append, tokens.eq_def]
      simp [noField, token]
  | plain c ordinary =>
      simp only [List.mem_append, List.mem_cons, List.not_mem_nil, or_false, not_or] at ordinary
      rcases ordinary with ⟨noLetter, noSingle, noDouble, noBackslash⟩
      have noField : Field.ofRun? c ((rest.takeWhile (· == c)).length + 1) = none :=
        ofRun?_of_notMem noLetter _
      rw [pattern, List.cons_append, tokens.eq_def]
      simp [noField, noSingle, noDouble, noBackslash, token]

/-- The tokens of parts that are put together are the tokens of the parts. -/
theorem tokens_parts {parts : List Part} (apart : Apart parts) :
    tokens (parts.flatMap pattern) = parts.map token := by
  induction apart with
  | nil => simp [tokens]
  | singleton part =>
      have alone := @tokens_part part [] (by simp)
      simpa [tokens] using alone
  | @cons_cons left right others different apart ih =>
      have stops : ∀ letter, left.IsRunOf letter →
          ((right :: others).flatMap pattern).head? ≠ some letter := by
        intro letter run first
        have isField : letter ∈ fieldLetters := left.mem_of_isRunOf run
        exact different letter run (isRunOf_of_head isField first)
      rw [List.flatMap_cons, tokens_part left stops, ih]
      rfl

end Part

/-- A date is always shown after its pattern, whatever the pattern is. One that is put together from
parts shows them one after the other: fields as their runs ask for and all other characters as they
are. -/
theorem format_parts (moment : DateTime) {parts : List Part} (apart : Part.Apart parts) :
    (∀ pattern, describe? moment (directives pattern) = some (format moment pattern)) ∧
      format moment (parts.flatMap Part.pattern) = parts.flatMap (Part.text moment) := by
  constructor
  · intro pattern
    rw [describe?_directives, format_eq]
  · rw [format_eq, Part.tokens_parts apart, List.flatMap_map]
    simp only [Part.text_token]

/-- Two runs of a letter with empty quotes between them, and texts that look like fields and
directives. -/
theorem format_parts_quoted :
    let moment : DateTime :=
      ⟨⟨2024, 3, 5, by decide, by decide⟩,
        ⟨14, 7, 9, 123456789, by decide, by decide, by decide, by decide⟩⟩
    let parts : List Part := [.run 'y' (by decide) 3, .quoted .single [] (by decide),
      .run 'y' (by decide) 1, .plain '%' (by decide), .escaped 'd',
      .quoted .double "it's %Y".toList (by decide), .run 'f' (by decide) 0]
    Part.Apart parts ∧ parts.flatMap Part.pattern = "yyyy''yy%\\d\"it's %Y\"f".toList ∧
      parts.flatMap (Part.text moment) = "202424%dit's %Y123".toList ∧
      (∀ pattern, describe? moment (directives pattern) = some (format moment pattern)) ∧
      format moment (parts.flatMap Part.pattern) = parts.flatMap (Part.text moment) := by
  intro moment parts
  have apart : Part.Apart parts := by simp [parts, Part.Apart, Part.IsRunOf]
  exact ⟨apart, by decide +kernel, by decide +kernel, format_parts moment apart⟩

end TextTemplate.Calendar
