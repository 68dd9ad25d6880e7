import TextTemplate.Proofs.PathSteps

/-!
# Looking keys up

A key in quotes is looked up as it is written, whatever points, parentheses, blanks and line ends
there are in it, provided that it has no quote of either kind (`Expression.resolve_keyLookup`). The
search for the end of the key does not ask which quote it began with, so a key that contains the
other quote is cut there. What is left behind the cut hardly ever closes the look-up, and then the
text is read as a path: a call of something named `Get`.
-/

namespace TextTemplate

namespace Quote

/-- The other kind of quote. -/
def other : Quote → Quote
  | single => double
  | double => single

theorem isQuote_mark (quote : Quote) : Expression.isQuote quote.mark = true := by
  cases quote <;> rfl

theorem mark_ne_closing (quote : Quote) : quote.mark ≠ ')' := by
  cases quote <;> decide

theorem mark_ne_mark_other (quote : Quote) : quote.mark ≠ quote.other.mark := by
  cases quote <;> decide

end Quote

namespace Expression

/-- The look-up of a key in quotes, as it is written. -/
def keyLookup (quote : Quote) (key : Text) : Text :=
  scopeWord ++ '.' :: ("Get(".toList ++ (quote.enclose key ++ [')']))

theorem trim_keyLookup (quote : Quote) (key : Text) :
    Text.trim (keyLookup quote key) = keyLookup quote key := by
  have written : keyLookup quote key =
      'C' :: ("ontext.Get(".toList ++ quote.enclose key) ++ [')'] :=
    (List.append_assoc "Context.Get(".toList (quote.enclose key) [')']).symm
  rw [written]
  exact Text.trim_between (by decide) (by decide) _

theorem unquoted_of_all {text : Text} (unquoted : text.all (!isQuote ·) = true) :
    ∀ c ∈ text, isQuote c = false := by
  simpa using unquoted

/-! ## The end of the key -/

theorem afterQuote?_mark (quote : Quote) (rest : Text) :
    afterQuote? (quote.mark :: rest) = some rest := by
  rw [afterQuote?, if_pos quote.isQuote_mark]

/-- The key goes up to the first quote of either kind. -/
theorem lookupParts?_quoted (opening closing : Quote) {front : Text}
    (unquoted : ∀ c ∈ front, isQuote c = false) (behind : Text) :
    lookupParts? (scopeWord ++ '.' :: ("Get(".toList ++
        opening.mark :: (front ++ closing.mark :: behind))) =
      (Text.after? [')'] (Text.trimStart behind)).bind fun rest =>
        if rest.contains '\n' then none else some (front, rest) := by
  have point (rest : Text) : Text.after? ['.'] (Text.trimStart ('.' :: rest)) = some rest :=
    Text.after?_trimStart (by decide) [] rest
  have word (rest : Text) : Text.after? "Get(".toList (Text.trimStart ("Get(".toList ++ rest)) =
      some rest :=
    Text.after?_trimStart (by decide) "et(".toList rest
  have inside : ∀ c ∈ front, (!isQuote c) = true := by
    intro c within
    rw [unquoted c within, Bool.not_false]
  have key : (front ++ closing.mark :: behind).takeWhile (!isQuote ·) = front := by
    rw [List.takeWhile_append_of_pos inside]
    simp [closing.isQuote_mark]
  have after : (front ++ closing.mark :: behind).dropWhile (!isQuote ·) = closing.mark :: behind := by
    rw [List.dropWhile_append_of_pos inside]
    simp [closing.isQuote_mark]
  have opened : Text.trimStart (opening.mark :: (front ++ closing.mark :: behind)) =
      opening.mark :: (front ++ closing.mark :: behind) :=
    Text.trimStart_cons opening.mark_visible _
  simp only [lookupParts?, Option.bind_eq_bind, Text.after?_append, Option.bind_some, point,
    word, opened, afterQuote?_mark, key, after]

theorem lookupParts?_keyLookup (quote : Quote) {key : Text}
    (unquoted : ∀ c ∈ key, isQuote c = false) :
    lookupParts? (keyLookup quote key) = some (key, []) := by
  have written : keyLookup quote key = scopeWord ++ '.' :: ("Get(".toList ++
      quote.mark :: (key ++ quote.mark :: [')'])) := by
    simp [keyLookup, Quote.enclose]
  rw [written, lookupParts?_quoted quote quote unquoted]
  rfl

/-- A key with the other quote goes up to that quote if a parenthesis closes the look-up there. -/
theorem lookupParts?_keyLookup_cut (quote : Quote) {front : Text}
    (unquoted : ∀ c ∈ front, isQuote c = false) (behind : Text) :
    lookupParts? (keyLookup quote (front ++ quote.other.mark :: behind)) =
      (Text.after? [')'] (Text.trimStart behind ++ [quote.mark, ')'])).bind fun rest =>
        if rest.contains '\n' then none else some (front, rest) := by
  have written : keyLookup quote (front ++ quote.other.mark :: behind) =
      scopeWord ++ '.' :: ("Get(".toList ++
        quote.mark :: (front ++ quote.other.mark :: (behind ++ [quote.mark, ')']))) := by
    simp [keyLookup, Quote.enclose]
  rw [written, lookupParts?_quoted quote quote.other unquoted,
    Text.trimStart_append_cons quote.mark_visible]

/-! ## Reading it as a path -/

/-- The path that the text is if it is no look-up. -/
def getCall (quote : Quote) (key : Text) (single : quote.mark ∉ key) : Path.Written :=
  ⟨⟨"Get".toList, List.cons_ne_nil _ _, rfl, List.all_eq_true.mp rfl⟩,
    [.literal quote key single]⟩

theorem behindScope_getCall (quote : Quote) {key : Text} (single : quote.mark ∉ key) :
    behindScope (getCall quote key single) = keyLookup quote key := by
  simp [behindScope, getCall, Path.Written.text, Path.linked, Path.Link.text, keyLookup]

variable {σ : Type} [Host σ] (scope : Scope σ)

theorem resolve_keyLookup_of_unquoted (quote : Quote) {key : Text}
    (unquoted : ∀ c ∈ key, isQuote c = false) :
    resolve scope (keyLookup quote key) = pure ((scope.get? (String.ofList key)).getD .null) := by
  have read : ofText (keyLookup quote key) = .lookup key [] := by
    simp only [ofText, trim_keyLookup, lookupParts?_keyLookup quote unquoted]
    rw [Path.steps]
  rw [resolve_lookup scope read, follow]

theorem resolve_keyLookup_cut (quote : Quote) {front behind rest : Text}
    (unquoted : ∀ c ∈ front, isQuote c = false) (closed : Text.trimStart behind = ')' :: rest)
    (single : '\n' ∉ rest) :
    resolve scope (keyLookup quote (front ++ quote.other.mark :: behind)) =
      follow scope ((scope.get? (String.ofList front)).getD .null)
        (Path.steps (rest ++ [quote.mark, ')'])) := by
  have parts := lookupParts?_keyLookup_cut quote unquoted behind
  have following : Text.after? [')'] (')' :: rest ++ [quote.mark, ')']) =
      some (rest ++ [quote.mark, ')']) :=
    Text.after?_append [')'] (rest ++ [quote.mark, ')'])
  have noEnd : (rest ++ [quote.mark, ')']).contains '\n' = false := by
    cases quote <;> simp [Quote.mark, single]
  simp only [closed, following, Option.bind_some, noEnd, Bool.false_eq_true, if_false] at parts
  apply resolve_lookup
  simp only [ofText, trim_keyLookup, parts]

theorem resolve_keyLookup_call (quote : Quote) {front behind : Text}
    (unquoted : ∀ c ∈ front, isQuote c = false) (single : quote.mark ∉ behind)
    (open? : ∀ rest, Text.trimStart behind = ')' :: rest → '\n' ∈ rest) :
    resolve scope (keyLookup quote (front ++ quote.other.mark :: behind)) =
      root scope "Get" >>= fun start =>
        follow scope start [.call (.literal (front ++ quote.other.mark :: behind))] := by
  have absent : quote.mark ∉ front ++ quote.other.mark :: behind := by
    rw [List.mem_append, List.mem_cons, not_or, not_or]
    refine ⟨?_, quote.mark_ne_mark_other, single⟩
    intro inside
    have noQuote := unquoted quote.mark inside
    rw [quote.isQuote_mark] at noQuote
    contradiction
  have noLookup : lookupParts? (behindScope (getCall quote _ absent)) = none := by
    rw [behindScope_getCall, lookupParts?_keyLookup_cut quote unquoted]
    -- Next is the outer quote, a parenthesis with a line end behind it, or another character.
    cases shape : Text.trimStart behind with
    | nil => simp [Text.after?, Ne.symm quote.mark_ne_closing]
    | cons c rest =>
        by_cases closes : c = ')'
        · subst closes
          have lineEnd := open? rest shape
          simp [Text.after?, lineEnd]
        · simp [Text.after?, Ne.symm closes]
  rw [← behindScope_getCall quote absent, resolve_path scope (ofText_behindScope noLookup)]
  rfl

omit [Host σ] in
theorem root_of_unknown {name : String} (unbound : scope.get? name = none)
    (notServices : Unicode.sameName name "Services" = false)
    (unregistered : scope.hasService name = false) : root scope name = pure .null := by
  simp [root, unbound, notServices, unregistered]

/-- What the look-up of a key in quotes is. A key without quotes is looked up. A key that contains
the other quote is looked up as far as that quote, if a parenthesis follows there and no line end
behind it, and the rest is taken for steps; else something named `Get` is called with the key. -/
theorem resolve_keyLookup (quote : Quote) :
    (∀ key : Text, (∀ c ∈ key, isQuote c = false) →
        resolve scope (keyLookup quote key) =
          pure ((scope.get? (String.ofList key)).getD .null)) ∧
      ∀ front behind : Text, (∀ c ∈ front, isQuote c = false) → quote.mark ∉ behind →
        (∀ rest, Text.trimStart behind = ')' :: rest → '\n' ∉ rest →
            resolve scope (keyLookup quote (front ++ quote.other.mark :: behind)) =
              follow scope ((scope.get? (String.ofList front)).getD .null)
                (Path.steps (rest ++ [quote.mark, ')']))) ∧
          ((∀ rest, Text.trimStart behind = ')' :: rest → '\n' ∈ rest) →
            resolve scope (keyLookup quote (front ++ quote.other.mark :: behind)) =
              root scope "Get" >>= fun start =>
                follow scope start [.call (.literal (front ++ quote.other.mark :: behind))]) := by
  refine ⟨fun key unquoted => resolve_keyLookup_of_unquoted scope quote unquoted, ?_⟩
  intro front behind unquoted single
  exact ⟨fun rest closed noEnd => resolve_keyLookup_cut scope quote unquoted closed noEnd,
    resolve_keyLookup_call scope quote unquoted single⟩

/-- A key that no path can spell, and two keys with an apostrophe between double quotes. -/
theorem resolve_keyLookup_awkward :
    let key := "a. (b)\né".toList
    let scope : Scope Empty := .set .empty (String.ofList key) (.int 7)
    (∀ c ∈ key, isQuote c = false) ∧ (∀ c ∈ ['i', 't'], isQuote c = false) ∧
      Quote.double.mark ∉ " )s".toList ∧ '\n' ∉ ['s'] ∧
      resolve scope (keyLookup .single key) = pure (.int 7) ∧
      resolve scope (keyLookup .double "it' )s".toList) =
        follow scope .null (Path.steps "s\")".toList) ∧
      resolve scope (keyLookup .double "it's".toList) =
        root scope "Get" >>= fun start => follow scope start [.call (.literal "it's".toList)] := by
  intro key scope
  have free : ∀ c ∈ key, isQuote c = false := unquoted_of_all (by decide)
  have frontFree : ∀ c ∈ ['i', 't'], isQuote c = false := unquoted_of_all (by decide)
  have bound : scope.get? (String.ofList key) = some (.int 7) :=
    (NameTable.get?_insert .empty _ _ _).trans (if_pos rfl)
  have different : Unicode.foldName (String.ofList ['i', 't']) ≠
      Unicode.foldName (String.ofList key) := by
    decide +kernel
  have unbound : scope.get? (String.ofList ['i', 't']) = none :=
    (NameTable.get?_insert .empty _ _ _).trans (if_neg different)
  have visible : ∀ rest, Text.trimStart ['s'] = ')' :: rest → '\n' ∈ rest := by
    rw [Text.trimStart_cons (by decide)]
    simp
  have single := resolve_keyLookup scope .single
  have double := resolve_keyLookup scope .double
  refine ⟨free, frontFree, by decide, by decide, ?_, ?_, ?_⟩
  · have found := single.1 key free
    rw [bound] at found
    exact found
  · have cut := (double.2 ['i', 't'] " )s".toList frontFree (by decide)).1 ['s'] (by decide)
      (by decide)
    rw [unbound] at cut
    exact cut
  · exact (double.2 ['i', 't'] ['s'] frontFree (by decide)).2 visible

/-- A key with an apostrophe is not found although it is bound and stands in double quotes. -/
theorem resolve_keyLookup_apostrophe :
    let key := "it's".toList
    let scope : Scope Empty := .set .empty (String.ofList key) (.int 1)
    keyLookup .double key = "Context.Get(\"it's\")".toList ∧ '"' ∉ key ∧
      scope.get? (String.ofList key) = some (.int 1) ∧
      resolve scope (keyLookup .double key) = pure .null := by
  intro key scope
  have bound : scope.get? (String.ofList key) = some (.int 1) :=
    (NameTable.get?_insert .empty _ _ _).trans (if_pos rfl)
  have different : Unicode.foldName "Get" ≠ Unicode.foldName (String.ofList key) := by
    decide +kernel
  have unbound : scope.get? "Get" = none :=
    (NameTable.get?_insert .empty _ _ _).trans (if_neg different)
  have unknown := root_of_unknown scope unbound (by decide +kernel) rfl
  have visible : ∀ rest, Text.trimStart ['s'] = ')' :: rest → '\n' ∈ rest := by
    rw [Text.trimStart_cons (by decide)]
    simp
  have called := @resolve_keyLookup_call _ _ scope .double ['i', 't'] ['s']
    (unquoted_of_all (by decide)) (by decide) visible
  rw [unknown, pure_bind, follow_eq_foldlM, foldlM_advance_null] at called
  exact ⟨by decide, by decide, bound, called⟩

end Expression

end TextTemplate
