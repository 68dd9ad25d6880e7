import TextTemplate.Command.Run
import TextTemplate.Proofs.Blanks
import TextTemplate.Proofs.Fields

/-!
# Dotted paths

A path of names with points between them is read as the members that it names, and resolving it
looks one field up after the other. Every one of these look-ups takes names of the same lower case
for one name, so a whole path may be written in any case: `Expression.resolve_anyCase`.
-/

namespace TextTemplate

open Unicode (foldName sameName)

/-- What follows a computation matters for its result only. -/
theorem Traced.bind_congr {α β : Type} {first : Traced α} {next other : α → Traced β}
    (same : next first.value = other first.value) : first >>= next = first >>= other := by
  simp only [bind, same]

/-! ## Text of a path -/

/-- The name of a member as it is written in a path. -/
structure Path.Name where
  text : Text
  nonempty : text ≠ []
  trimmed : Text.trim text = text
  member : ∀ c ∈ text, Path.isMemberChar c = true

namespace Path

/-- Names with points between them. -/
def dotted (names : List Name) : Text :=
  List.intercalate ['.'] (names.map Name.text)

/-- The step to the member of that name. -/
def Name.step (name : Name) : Step :=
  .member name.text

@[simp]
theorem dotted_nil : dotted [] = [] :=
  rfl

@[simp]
theorem dotted_single (name : Name) : dotted [name] = name.text := by
  simp [dotted, List.intercalate]

@[simp]
theorem dotted_cons_cons (name other : Name) (names : List Name) :
    dotted (name :: other :: names) = name.text ++ '.' :: dotted (other :: names) := by
  simp [dotted, List.intercalate]

theorem Name.foldName_congr {name other : Name}
    (same : Unicode.lower name.text = Unicode.lower other.text) :
    foldName (String.ofList name.text) = foldName (String.ofList other.text) := by
  simp [foldName, same]

theorem steps_nil : steps [] = [] := by
  rw [steps]

theorem steps_separator {c : Char} (separates : isSeparator c = true) (rest : Text) :
    steps (c :: rest) = steps rest := by
  rw [steps, if_pos separates]

/-- A member goes up to the next point or parenthesis. -/
theorem steps_member {c : Char} {name rest : Text} (begins : isSeparator c = false ∧ c ≠ '(')
    (within : ∀ d ∈ name, isMemberChar d = true)
    (ends : ∀ d ∈ rest.head?, isMemberChar d = false) :
    steps (c :: (name ++ rest)) = .member (Text.trim (c :: name)) :: steps rest := by
  have behind : rest.takeWhile isMemberChar = [] ∧ rest.dropWhile isMemberChar = rest := by
    cases rest with
    | nil => exact ⟨rfl, rfl⟩
    | cons d rest =>
        have stop := ends d rfl
        simp [stop]
  rw [steps, if_neg (by simp [begins.1]), if_neg begins.2, List.takeWhile_append_of_pos within,
    List.dropWhile_append_of_pos within, behind.1, behind.2, List.append_nil]

theorem steps_name (name : Name) {rest : Text} (ends : ∀ c ∈ rest.head?, isMemberChar c = false) :
    steps (name.text ++ rest) = name.step :: steps rest := by
  rcases Text.head_visible name.trimmed name.nonempty with ⟨c, tail, shape, visible⟩
  have member := name.member
  rw [shape, List.forall_mem_cons] at member
  rcases member with ⟨head, member⟩
  have between : isSeparator c = false := by
    by_contra separator
    simp only [isSeparator, Bool.not_eq_false, Bool.or_eq_true, beq_iff_eq] at separator
    rcases separator with (rfl | rfl) | rfl <;> contradiction
  have notOpening : c ≠ '(' := by
    rintro rfl
    contradiction
  rw [Name.step, shape, List.cons_append, steps_member ⟨between, notOpening⟩ member ends, ← shape,
    name.trimmed]

theorem steps_dotted (names : List Name) : steps (dotted names) = names.map Name.step := by
  induction names with
  | nil => rw [dotted_nil, steps, List.map_nil]
  | cons name others ih =>
      cases others with
      | nil =>
          have alone := @steps_name name [] (by simp)
          rw [List.append_nil, steps] at alone
          rw [dotted_single, alone]
          rfl
      | cons other others =>
          have point : isSeparator '.' = true := rfl
          rw [dotted_cons_cons, steps_name name (by simp [isMemberChar]), steps, if_pos point, ih]
          rfl

theorem Name.trimEnd_append (name : Name) (front : Text) :
    Text.trimEnd (front ++ name.text) = front ++ name.text :=
  Text.trimEnd_append (Text.trimStart_trimEnd_of_trim name.trimmed).2 name.nonempty front

theorem trimEnd_dotted {names : List Name} (nonempty : names ≠ []) (front : Text) :
    Text.trimEnd (front ++ dotted names) = front ++ dotted names := by
  induction names generalizing front with
  | nil => contradiction
  | cons name others ih =>
      cases others with
      | nil =>
          rw [dotted_single]
          exact name.trimEnd_append front
      | cons other others =>
          have later := ih (by simp) (front ++ name.text ++ ['.'])
          simpa using later

theorem notMem_dotted {names : List Name} : '(' ∉ dotted names := by
  induction names with
  | nil => simp
  | cons name others ih =>
      have here : '(' ∉ name.text := by
        intro inside
        have member := name.member '(' inside
        contradiction
      cases others with
      | nil => simpa using here
      | cons other others => simpa using ⟨here, ih⟩

end Path

/-! ## Resolving a path -/

namespace Expression

/-- A path of names behind the word for the root scope. -/
def dotted (names : List Path.Name) : Text :=
  scopeWord ++ '.' :: Path.dotted names

theorem trim_dotted (names : List Path.Name) : Text.trim (dotted names) = dotted names := by
  have start : Text.trimStart (dotted names) = dotted names :=
    Text.trimStart_cons (by decide) _
  rw [Text.trim, start]
  cases names with
  | nil => decide +kernel
  | cons name others =>
      have nonempty : name :: others ≠ [] := by simp
      have ending := Path.trimEnd_dotted nonempty (scopeWord ++ ['.'])
      simpa [dotted] using ending

/-- A look-up by key has a parenthesis. -/
theorem lookupParts?_of_notMem {text : Text} (absent : '(' ∉ text) : lookupParts? text = none := by
  by_contra found
  rcases Option.ne_none_iff_exists'.mp found with ⟨parts, found⟩
  simp only [lookupParts?, Option.bind_eq_bind, Option.bind_eq_some_iff] at found
  rcases found with ⟨scope, hasScope, point, hasPoint, opened, hasOpening, -⟩
  apply absent
  have opening : '(' ∈ Text.trimStart point := by
    rw [Text.after?_eq_some hasOpening]
    simp
  have within : '(' ∈ Text.trimStart scope := by
    rw [Text.after?_eq_some hasPoint]
    exact List.mem_append_right _ ((List.dropWhile_suffix _).subset opening)
  rw [Text.after?_eq_some hasScope]
  exact List.mem_append_right _ ((List.dropWhile_suffix _).subset within)

theorem withoutScope_append (path : Text) : withoutScope (scopeWord ++ '.' :: path) = path := by
  have found := Text.after?_append (scopeWord ++ ['.']) path
  rw [List.append_assoc, List.singleton_append] at found
  rw [withoutScope, found, Option.getD_some]

theorem ofText_dotted (names : List Path.Name) :
    ofText (dotted names) = ofSteps (names.map Path.Name.step) := by
  have noLookup : lookupParts? (dotted names) = none := by
    have notWord : '(' ∉ scopeWord := by decide
    apply lookupParts?_of_notMem
    simp [dotted, notWord, Path.notMem_dotted]
  have path : withoutScope (dotted names) = Path.dotted names :=
    withoutScope_append (Path.dotted names)
  simp only [ofText, trim_dotted, noLookup, path, Path.steps_dotted]

variable {σ : Type}

/-- The spelling of a name shows only in the stand-in of a missing service. -/
theorem service_congr {scope : Scope σ} {left right : String}
    (same : foldName left = foldName right) (known : scope.hasService right = true) :
    scope.service left = scope.service right := by
  rcases Option.isSome_iff_exists.mp known with ⟨entry, found⟩
  have other : scope.services.find? left = some entry := by
    rw [← found]
    simp [NameTable.find?, same]
  simp [Scope.service, Function.ofServices, found, other]

theorem root_congr (scope : Scope σ) {left right : String} (same : foldName left = foldName right) :
    root scope left = root scope right := by
  have bound : scope.get? left = scope.get? right := by
    simp [Scope.get?, NameTable.get?, NameTable.find?, same]
  have known : scope.hasService left = scope.hasService right := by
    simp [Scope.hasService, NameTable.contains, NameTable.find?, same]
  simp only [root, bound, Unicode.sameName_congr same, known]
  split
  · rfl
  · split
    · rfl
    · split
      · rename_i registered
        rw [service_congr same registered]
      · rfl

theorem unambiguous_root {scope : Scope σ}
    (unambiguous : ∀ name value, scope.get? name = some value → value.Unambiguous)
    (name : String) : (root scope name).value.Unambiguous := by
  unfold root
  split
  · rename_i value found
    exact unambiguous name value found
  · split
    · trivial
    · split <;> trivial

variable [Host σ]

theorem follow_congr (scope : Scope σ) {current : Value σ} (unambiguous : current.Unambiguous)
    {left right : List Path.Name}
    (same : left.map (fun name => Unicode.lower name.text) =
      right.map fun name => Unicode.lower name.text) :
    follow scope current (left.map Path.Name.step) =
      follow scope current (right.map Path.Name.step) := by
  induction left generalizing current right with
  | nil =>
      rw [List.map_nil, eq_comm, List.map_eq_nil_iff] at same
      rw [same]
  | cons name others ih =>
      cases right with
      | nil => simp at same
      | cons other right =>
          rcases List.cons.inj same with ⟨here, behind⟩
          have folded := Path.Name.foldName_congr here
          have found : ((current.field? (String.ofList other.text)).getD .null).Unambiguous := by
            cases field : current.field? (String.ofList other.text) with
            | none => trivial
            | some value => exact unambiguous.field? field
          simp only [List.map_cons, Path.Name.step, follow, Value.field?_congr unambiguous folded]
          split
          · rfl
          · exact ih found behind

theorem resolve_path (scope : Scope σ) {text name : Text} {steps : List Path.Step}
    (parsed : ofText text = .path name steps) :
    resolve scope text = root scope (String.ofList name) >>= fun start =>
      follow scope start steps := by
  rw [resolve]
  split <;> simp_all

/-- A path of one name leads to its root. -/
theorem resolve_dotted_single (scope : Scope σ) (name : Path.Name) :
    resolve scope (dotted [name]) = root scope (String.ofList name.text) := by
  rw [resolve_path scope (ofText_dotted [name])]
  simp only [List.map_nil, follow]
  exact bind_pure _

theorem resolve_lookup (scope : Scope σ) {text key : Text} {steps : List Path.Step}
    (parsed : ofText text = .lookup key steps) :
    resolve scope text = follow scope ((scope.get? (String.ofList key)).getD .null) steps := by
  rw [resolve]
  split <;> simp_all

/-- The value of an expression depends on what its text denotes. -/
theorem resolve_congr (scope : Scope σ) {left right : Text} (same : ofText left = ofText right) :
    resolve scope left = resolve scope right := by
  rw [resolve, resolve]
  split <;> split <;> simp_all

theorem resolve_dotted_congr {scope : Scope σ}
    (unambiguous : ∀ name value, scope.get? name = some value → value.Unambiguous)
    {left right : List Path.Name}
    (same : left.map (fun name => Unicode.lower name.text) =
      right.map fun name => Unicode.lower name.text) :
    resolve scope (dotted left) = resolve scope (dotted right) := by
  cases left with
  | nil =>
      rw [List.map_nil, eq_comm, List.map_eq_nil_iff] at same
      rw [same]
  | cons name others =>
      cases right with
      | nil => simp at same
      | cons other right =>
          rcases List.cons.inj same with ⟨here, behind⟩
          have folded := Path.Name.foldName_congr here
          have start := unambiguous_root unambiguous (String.ofList other.text)
          rw [resolve_path scope (ofText_dotted (name :: others)),
            resolve_path scope (ofText_dotted (other :: right)), root_congr scope folded]
          exact Traced.bind_congr (follow_congr scope start behind)

/-- Being one name is having one lower case, which is what tables of names go by, and a path leads
to the same value in whatever case its names are written. -/
theorem resolve_anyCase :
    (∀ left right : String, sameName left right = true ↔
        Unicode.lower left.toList = Unicode.lower right.toList) ∧
      (Equivalence fun left right => sameName left right = true) ∧
      (∀ {α : Type} (table : NameTable α) (name other : String) (value : α),
        (table.insert name value).get? other =
            (if sameName other name then some value else table.get? other) ∧
          (table.erase name).get? other =
            if sameName other name then none else table.get? other) ∧
      ∀ scope : Scope σ, (∀ name value, scope.get? name = some value → value.Unambiguous) →
        ∀ left right : List Path.Name,
          left.map (fun name => Unicode.lower name.text) =
            right.map (fun name => Unicode.lower name.text) →
          resolve scope (dotted left) = resolve scope (dotted right) := by
  refine ⟨?_, ?_, ?_, ?_⟩
  · intro left right
    exact Unicode.sameFolded_iff
  · simp only [Unicode.sameName_iff]
    exact ⟨fun _ => rfl, Eq.symm, Eq.trans⟩
  · intro α table name other value
    simp only [Unicode.sameName_iff]
    exact ⟨table.get?_insert name other value, table.get?_erase name other⟩
  · intro scope unambiguous left right same
    exact resolve_dotted_congr unambiguous same

/-- Capital and small letters with a final sigma and a sharp s, and a position in a list. -/
theorem resolve_anyCase_finalSigma :
    let scope : Scope Empty :=
      .set .empty "Größe" (.map [("ΣΑΣ", .list [.int 7, .string "x"]), ("σ", .null)])
    let capital : List Path.Name :=
      [⟨"GRÖẞE".toList, by decide, by decide +kernel, List.all_eq_true.mp (by decide)⟩,
        ⟨"σας".toList, by decide, by decide +kernel, List.all_eq_true.mp (by decide)⟩,
        ⟨['1'], by decide, by decide +kernel, List.all_eq_true.mp (by decide)⟩]
    let small : List Path.Name :=
      [⟨"größe".toList, by decide, by decide +kernel, List.all_eq_true.mp (by decide)⟩,
        ⟨"ΣΑΣ".toList, by decide, by decide +kernel, List.all_eq_true.mp (by decide)⟩,
        ⟨['1'], by decide, by decide +kernel, List.all_eq_true.mp (by decide)⟩]
    (∀ name value, scope.get? name = some value → value.Unambiguous) ∧
      capital.map (fun name => Unicode.lower name.text) =
        small.map (fun name => Unicode.lower name.text) ∧
      resolve scope (dotted capital) = resolve scope (dotted small) := by
  intro scope capital small
  have unambiguous : ∀ name value, scope.get? name = some value → value.Unambiguous := by
    intro name value found
    have bound := (NameTable.get?_insert .empty "Größe" name
      (.map [("ΣΑΣ", .list [.int 7, .string "x"]), ("σ", .null)] : Value Empty)).symm.trans found
    split at bound
    · rw [← Option.some.inj bound]
      simp only [Value.Unambiguous, Value.EntriesUnambiguous, Value.AllUnambiguous, and_true]
      decide +kernel
    · contradiction
  have same : capital.map (fun name => Unicode.lower name.text) =
      small.map (fun name => Unicode.lower name.text) := by
    decide +kernel
  exact ⟨unambiguous, same, resolve_anyCase.2.2.2 scope unambiguous capital small same⟩

end Expression

end TextTemplate
