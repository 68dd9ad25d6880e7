import TextTemplate.Proofs.PathSteps

/-!
# Calls of services

A service is called through the directory of services, which takes its name in quotes, or by its name
alone. Both lead to the same function and so to the same value of the whole path, whatever is called
and looked up behind it (`Expression.resolve_directoryCall`). The directory never fails for a name
that is registered, and its own call leaves no trace.

The text must go on with a call. Otherwise a service named `Context` would be taken for the word for
the root scope: a path is told apart from a look-up by key and from a path behind that word by what
comes first, a point or a parenthesis.
-/

namespace TextTemplate.Expression

/-! ## Texts that begin with a call -/

theorem isMemberChar_of_isBlank {c : Char} (blank : Unicode.isBlank c = true) :
    Path.isMemberChar c = true := by
  by_contra separator
  simp only [Path.isMemberChar, Bool.not_eq_true, Bool.and_eq_false_iff, bne_eq_false_iff_eq]
    at separator
  rcases separator with rfl | rfl <;> contradiction

/-- The first point or parenthesis of a text is a parenthesis. -/
theorem dropWhile_call {front : Text} (member : ∀ c ∈ front, Path.isMemberChar c = true)
    (rest : Text) : (front ++ '(' :: rest).dropWhile Path.isMemberChar = '(' :: rest := by
  rw [List.dropWhile_append_of_pos member]
  rfl

/-- Behind the word for the root scope a point may come after blanks. -/
theorem dropWhile_point {word behind rest : Text}
    (member : ∀ c ∈ word, Path.isMemberChar c = true) (point : Text.trimStart behind = '.' :: rest) :
    (word ++ behind).dropWhile Path.isMemberChar = '.' :: rest := by
  have parted : behind = behind.takeWhile Unicode.isBlank ++ '.' :: rest := by
    rw [← point]
    exact List.takeWhile_append_dropWhile.symm
  have blanks : ∀ c ∈ behind.takeWhile Unicode.isBlank, Path.isMemberChar c = true := by
    intro c inside
    exact isMemberChar_of_isBlank (List.mem_takeWhile_imp inside)
  rw [parted, List.dropWhile_append_of_pos member, List.dropWhile_append_of_pos blanks]
  rfl

theorem member_scopeWord : ∀ c ∈ scopeWord, Path.isMemberChar c = true :=
  List.all_eq_true.mp (by decide)

/-- A text whose first point or parenthesis is a parenthesis is no look-up by key. -/
theorem lookupParts?_call {front : Text} (member : ∀ c ∈ front, Path.isMemberChar c = true)
    (rest : Text) : lookupParts? (front ++ '(' :: rest) = none := by
  by_contra found
  rcases Option.ne_none_iff_exists'.mp found with ⟨parts, found⟩
  simp only [lookupParts?, Option.bind_eq_bind, Option.bind_eq_some_iff] at found
  rcases found with ⟨behind, hasScope, following, hasPoint, -⟩
  have point := dropWhile_point member_scopeWord (Text.after?_eq_some hasPoint)
  rw [← Text.after?_eq_some hasScope, dropWhile_call member] at point
  simp at point

/-- It is not behind the word for the root scope, either. -/
theorem withoutScope_call {front : Text} (member : ∀ c ∈ front, Path.isMemberChar c = true)
    (rest : Text) : withoutScope (front ++ '(' :: rest) = front ++ '(' :: rest := by
  cases found : Text.after? (scopeWord ++ ['.']) (front ++ '(' :: rest) with
  | none => rw [withoutScope, found, Option.getD_none]
  | some following =>
      have whole := Text.after?_eq_some found
      rw [List.append_assoc, List.singleton_append] at whole
      have visible : Text.trimStart ('.' :: following) = '.' :: following :=
        Text.trimStart_cons (by decide) following
      have point := dropWhile_point member_scopeWord visible
      rw [← whole, dropWhile_call member] at point
      simp at point

theorem ofText_call (name : Path.Name) (rest : Text) :
    ofText (name.text ++ '(' :: rest) =
      .path name.text (Path.steps ('(' :: Text.trimEnd rest)) := by
  have trimmed : Text.trim (name.text ++ '(' :: rest) = name.text ++ '(' :: Text.trimEnd rest := by
    rcases Text.head_visible name.trimmed name.nonempty with ⟨c, tail, shape, visible⟩
    rw [Text.trim, shape, List.cons_append, Text.trimStart_cons visible, ← List.cons_append,
      Text.trimEnd_append_cons (by decide)]
  have steps := @Path.steps_name name ('(' :: Text.trimEnd rest) (by simp [Path.isMemberChar])
  simp only [ofText, trimmed, lookupParts?_call name.member, withoutScope_call name.member, steps]
  rfl

/-! ## Both ways to a service -/

/-- The name of the directory of services. -/
def directoryName : Path.Name :=
  ⟨"Services".toList, List.cons_ne_nil _ _, rfl, List.all_eq_true.mp rfl⟩

/-- The call of the directory with a name in quotes. -/
def directoryCall (quote : Quote) (name : Text) : Text :=
  directoryName.text ++ '(' :: (quote.enclose name ++ [')'])

theorem ofText_directoryCall (quote : Quote) {name : Text} (single : quote.mark ∉ name) (rest : Text) :
    ofText (directoryCall quote name ++ '(' :: rest) =
      .path directoryName.text
        (.call (.literal name) :: Path.steps ('(' :: Text.trimEnd rest)) := by
  have written : directoryCall quote name ++ '(' :: rest =
      directoryName.text ++ '(' :: (quote.enclose name ++ ')' :: '(' :: rest) := by
    simp [directoryCall]
  have kept : Text.trimEnd (quote.enclose name ++ ')' :: '(' :: rest) =
      quote.enclose name ++ ')' :: '(' :: Text.trimEnd rest := by
    have visible := @Text.trimEnd_append_cons '(' (by decide) (quote.enclose name ++ [')']) rest
    simpa using visible
  have call := Path.steps_call (Path.closing?_enclose quote single) ('(' :: Text.trimEnd rest)
  rw [written, ofText_call, kept, ← Path.ofInner_enclose quote name, ← call]
  simp

variable {σ : Type}

theorem root_directory {scope : Scope σ} (free : scope.get? "Services" = none) :
    root scope "Services" = pure (.function scope.directory) := by
  have same : Unicode.sameName "Services" "Services" = true := Unicode.sameName_iff.mpr rfl
  simp [root, free, same]

theorem root_service {scope : Scope σ} {name : String} (unbound : scope.get? name = none)
    (notDirectory : Unicode.sameName name "Services" = false)
    (registered : scope.hasService name = true) :
    root scope name = Value.function <$> scope.service name := by
  simp [root, unbound, notDirectory, registered]

variable [Host σ]

/-- The directory leads to the service of the name, and the steps behind it go on from there. -/
theorem follow_directory (scope : Scope σ) (name : Text) (steps : List Path.Step) :
    follow scope (.function scope.directory) (.call (.literal name) :: steps) =
      scope.service (String.ofList name) >>= fun service =>
        follow scope (.function service) steps := by
  have shown : (Value.ofText name : Value σ).toString = String.ofList name := by
    simp [Value.ofText, Value.toString, Value.display]
  simp [follow, Value.isNull, Function.call, Scope.directory, shown, settle, Scope.service]

/-- A service may be called through the directory or by its name. If no variable has the name of
either, both are the service itself with the steps behind it. -/
theorem resolve_directoryCall (scope : Scope σ) (name : Path.Name) (quote : Quote)
    (single : quote.mark ∉ name.text)
    (registered : scope.hasService (String.ofList name.text) = true)
    (unbound : scope.get? (String.ofList name.text) = none)
    (notDirectory : Unicode.sameName (String.ofList name.text) "Services" = false)
    (free : scope.get? "Services" = none) (rest : Text) :
    resolve scope (directoryCall quote name.text ++ '(' :: rest) =
        resolve scope (name.text ++ '(' :: rest) ∧
      resolve scope (name.text ++ '(' :: rest) =
        scope.service (String.ofList name.text) >>= fun service =>
          follow scope (.function service) (Path.steps ('(' :: Text.trimEnd rest)) := by
  have byName : resolve scope (name.text ++ '(' :: rest) =
      scope.service (String.ofList name.text) >>= fun service =>
        follow scope (.function service) (Path.steps ('(' :: Text.trimEnd rest)) := by
    rw [resolve_path scope (ofText_call name rest), root_service unbound notDirectory registered]
    simp
  have start : root scope (String.ofList directoryName.text) = pure (.function scope.directory) :=
    root_directory free
  refine ⟨?_, byName⟩
  rw [resolve_path scope (ofText_directoryCall quote single rest), start, pure_bind,
    follow_directory, byName]

/-- A service under another spelling of its name, with a parenthesis and a quote in the name, and a
path behind it with a call of a service that fails. -/
theorem resolve_directoryCall_spelled :
    let scope : Scope Reply := (Scope.register .empty "Ä\" b)" .echo).register "no" .refuse
    let name : Path.Name :=
      ⟨"ä\" B)".toList, by decide, by decide +kernel, List.all_eq_true.mp (by decide)⟩
    let rest := "no('x')).Key ( '.' ) \n".toList
    Quote.single.mark ∉ name.text ∧ scope.hasService (String.ofList name.text) = true ∧
      scope.get? (String.ofList name.text) = none ∧
      Unicode.sameName (String.ofList name.text) "Services" = false ∧
      scope.get? "Services" = none ∧
      directoryCall .single name.text = "Services('ä\" B)')".toList ∧
      resolve scope (directoryCall .single name.text ++ '(' :: rest) =
        resolve scope (name.text ++ '(' :: rest) ∧
      resolve scope (name.text ++ '(' :: rest) =
        scope.service (String.ofList name.text) >>= fun service =>
          follow scope (.function service) (Path.steps ('(' :: Text.trimEnd rest)) := by
  intro scope name rest
  have single : Quote.single.mark ∉ name.text := by decide
  have registered : scope.hasService (String.ofList name.text) = true := by decide +kernel
  have notDirectory : Unicode.sameName (String.ofList name.text) "Services" = false := by
    decide +kernel
  have law := resolve_directoryCall scope name .single single registered rfl notDirectory rfl rest
  exact ⟨single, registered, rfl, notDirectory, rfl, by decide, law.1, law.2⟩

end TextTemplate.Expression
