import TextTemplate.Expression.Path

/-!
# Regions

A region is a part of a template that is rendered under a condition or once for every item of a
collection. It begins with a header, a keyword with text in parentheses and an opening brace, and
its body goes to the brace that balances the opening one. A body that is never closed goes to the
end of the template. What is blank on the lines of the braces belongs to neither body nor output.
-/

namespace TextTemplate

namespace Text

/-- The first line with the line end that closes it. -/
def firstLine (text : Text) : Text :=
  text.take ((text.takeWhile (· != '\n')).length + 1)

/-- The text behind the first line. -/
def afterFirstLine (text : Text) : Text :=
  text.drop ((text.takeWhile (· != '\n')).length + 1)

/-- The text without its first line if that is blank. -/
def skipBlankLine (text : Text) : Text :=
  if isBlankText (firstLine text) then afterFirstLine text else text

/-- The text without the spaces and tabs before it. -/
def skipSpaces (text : Text) : Text :=
  text.dropWhile fun c => c == ' ' || c == '\t'

/-- The text without what is behind its last line end, if that is blank. -/
def dropBlankTail (text : Text) : Text :=
  let tail := text.reverse.takeWhile (· != '\n')
  if tail.length < text.length ∧ isBlankText tail then text.take (text.length - tail.length)
  else text

theorem length_skipBlankLine_le (text : Text) : (skipBlankLine text).length ≤ text.length := by
  unfold skipBlankLine afterFirstLine
  split
  · simp
  · simp

theorem length_skipSpaces_le (text : Text) : (skipSpaces text).length ≤ text.length :=
  length_dropWhile_le _ text

theorem length_dropBlankTail_le (text : Text) : (dropBlankTail text).length ≤ text.length := by
  simp only [dropBlankTail]
  split
  · simp only [List.length_take]
    omega
  · simp

end Text

/-- An alternative of a conditional region. One without a condition is taken whenever it is
reached. -/
structure Clause where
  condition : Option Text
  body : Text

/-- A region as it stands in a template. -/
inductive Region where
  | conditional (clauses : List Clause)
  | iteration (name collection body : Text)

/-- The room that bodies take in a template. -/
def Clause.weight : List Clause → Nat
  | [] => 0
  | clause :: others => clause.body.length + 1 + weight others

/-- The room that the bodies of a region take in a template. -/
def Region.weight : Region → Nat
  | .conditional clauses => Clause.weight clauses
  | .iteration _ _ body => body.length + 1

namespace Region

/-- The word before the header of a conditional region. -/
def ifWord : Text :=
  "@if".toList

/-- The word before the header of an iteration. -/
def foreachWord : Text :=
  "@foreach".toList

/-- A line opens a region if it begins with the word and a parenthesis or a blank behind it. -/
def opensWith (word line : Text) : Bool :=
  match Text.after? word line with
  | some (c :: _) => c == '(' || Unicode.isBlank c
  | _ => false

/-- The text in the parentheses with which a text begins, and what is behind them. -/
def parenthesized? (text : Text) : Option (Text × Text) :=
  match text with
  | '(' :: rest =>
    (Text.closing? text).map fun position =>
      (Text.trim (rest.take (position - 1)), rest.drop position)
  | _ => none

/-- The text in the parentheses of a header, and what is behind its brace. -/
def header? (word text : Text) : Option (Text × Text) := do
  let rest ← Text.after? word text
  let (inner, rest) ← parenthesized? (Text.trimStart rest)
  let rest ← Text.after? ['{'] (Text.trimStart rest)
  some (inner, Text.skipBlankLine rest)

/-- The text before the brace that closes `depth` open ones, and what is behind it; there is
nothing behind it if they are not all closed. -/
def bodyFrom (depth : Nat) : Text → Text × Option Text
  | [] => ([], none)
  | c :: rest =>
    if c = '{' then
      let parts := bodyFrom (depth + 1) rest
      (c :: parts.1, parts.2)
    else if c = '}' then
      if depth = 1 then ([], some rest)
      else
        let parts := bodyFrom (depth - 1) rest
        (c :: parts.1, parts.2)
    else
      let parts := bodyFrom depth rest
      (c :: parts.1, parts.2)

/-- The body behind an opening brace, without the indentation of the closing brace, and what is
behind that brace. -/
def body (text : Text) : Text × Option Text :=
  let parts := bodyFrom 1 text
  (Text.dropBlankTail parts.1, parts.2)

/-- The condition of the clause that continues a conditional region, and the text behind its
brace. -/
def continuation? (text : Text) : Option (Option Text × Text) := do
  let rest ← Text.after? "else".toList (Text.skipSpaces text)
  let rest := Text.skipSpaces rest
  if (Text.after? "if".toList rest).isSome then
    (header? "if".toList rest).map fun parts => (some parts.1, parts.2)
  else
    (Text.after? ['{'] rest).map fun behind => (none, Text.skipBlankLine behind)

theorem length_parenthesized?_le {text inner rest : Text}
    (found : parenthesized? text = some (inner, rest)) : rest.length < text.length := by
  unfold parenthesized? at found
  split at found
  · rcases Option.map_eq_some_iff.mp found with ⟨position, -, parts⟩
    rcases Prod.mk.inj parts with ⟨-, rfl⟩
    simp only [List.length_drop, List.length_cons]
    omega
  · simp at found

theorem length_header?_lt {word text inner rest : Text}
    (found : header? word text = some (inner, rest)) :
    rest.length + word.length + 1 < text.length := by
  simp only [header?, Option.bind_eq_bind, Option.bind_eq_some_iff] at found
  rcases found with ⟨a, ha, ⟨header, b⟩, hb, c, hc, last⟩
  rcases Prod.mk.inj (Option.some.inj last) with ⟨-, rfl⟩
  have := Text.length_after?_add ha
  have := length_parenthesized?_le hb
  have := Text.length_after?_add hc
  have := Text.length_trimStart_le a
  have := Text.length_trimStart_le b
  have := Text.length_skipBlankLine_le c
  simp only [List.length_singleton] at *
  omega

theorem length_bodyFrom (depth : Nat) (text : Text) :
    (bodyFrom depth text).1.length + ((bodyFrom depth text).2.elim 0 fun rest => rest.length + 1) =
      text.length := by
  induction text generalizing depth with
  | nil => simp [bodyFrom]
  | cons c rest ih =>
    unfold bodyFrom
    split
    · simp only [List.length_cons, ← ih (depth + 1)]
      omega
    · split
      · split
        · simp
        · simp only [List.length_cons, ← ih (depth - 1)]
          omega
      · simp only [List.length_cons, ← ih depth]
        omega

theorem length_body_le (text : Text) :
    (body text).1.length + ((body text).2.elim 0 fun behind => behind.length + 1) ≤
      text.length := by
  have := length_bodyFrom 1 text
  have := Text.length_dropBlankTail_le (bodyFrom 1 text).1
  simp only [body]
  omega

theorem length_continuation?_lt {text rest : Text} {condition : Option Text}
    (found : continuation? text = some (condition, rest)) : rest.length < text.length := by
  simp only [continuation?, Option.bind_eq_bind, Option.bind_eq_some_iff] at found
  rcases found with ⟨a, ha, last⟩
  have := Text.length_after?_add ha
  have := Text.length_skipSpaces_le text
  have := Text.length_skipSpaces_le a
  split at last
  · rcases Option.map_eq_some_iff.mp last with ⟨⟨inner, behind⟩, header, parts⟩
    rcases Prod.mk.inj parts with ⟨-, rfl⟩
    have := length_header?_lt header
    change behind.length < text.length
    omega
  · rcases Option.map_eq_some_iff.mp last with ⟨behind, opened, parts⟩
    rcases Prod.mk.inj parts with ⟨-, rfl⟩
    have := Text.length_after?_add opened
    have := Text.length_skipBlankLine_le behind
    simp only [List.length_singleton] at *
    omega

/-- The clauses of a conditional region from the body of the first one on, and the text behind
the last brace. A clause without a condition is the last one. -/
def clauses (condition : Option Text) (text : Text) : List Clause × Text :=
  match _parts : body text with
  | (bodyText, none) => ([⟨condition, bodyText⟩], [])
  | (bodyText, some rest) =>
    if condition.isNone then ([⟨condition, bodyText⟩], rest)
    else
      match _next : continuation? rest with
      | none => ([⟨condition, bodyText⟩], rest)
      | some (following, behind) =>
        let others := clauses following behind
        (⟨condition, bodyText⟩ :: others.1, others.2)
termination_by text.length
decreasing_by
  have bound := length_body_le text
  have := length_continuation?_lt _next
  simp only [_parts, Option.elim_some] at bound
  omega

/-- A clause without a condition is the last one, and so is one that nothing continues. -/
theorem clauses_last {condition : Option Text} {text bodyText rest : Text}
    (parts : body text = (bodyText, some rest))
    (last : condition = none ∨ continuation? rest = none) :
    clauses condition text = ([⟨condition, bodyText⟩], rest) := by
  rw [clauses]
  split
  · simp_all
  · rename_i found
    rcases Prod.mk.inj (found.symm.trans parts) with ⟨rfl, rest_eq⟩
    rcases Option.some.inj rest_eq with rfl
    split
    · rfl
    · split <;> simp_all

/-- The clauses behind a clause with a condition. -/
theorem clauses_next {condition text bodyText rest behind : Text} {following : Option Text}
    (parts : body text = (bodyText, some rest))
    (next : continuation? rest = some (following, behind)) :
    clauses (some condition) text =
      (⟨some condition, bodyText⟩ :: (clauses following behind).1,
        (clauses following behind).2) := by
  rw [clauses]
  split
  · simp_all
  · rename_i found
    rcases Prod.mk.inj (found.symm.trans parts) with ⟨rfl, rest_eq⟩
    rcases Option.some.inj rest_eq with rfl
    split
    · simp_all
    · split <;> simp_all

theorem weight_clauses_le (condition : Option Text) (text : Text) :
    Clause.weight (clauses condition text).1 + (clauses condition text).2.length ≤
      text.length + 1 := by
  fun_induction clauses condition text with
  | case1 condition text bodyText parts =>
    have := length_body_le text
    simp only [parts, Clause.weight,
      List.length_nil, Option.elim_none] at *
    omega
  | case2 condition text bodyText rest parts =>
    have := length_body_le text
    simp only [parts, Clause.weight,
      Option.elim_some] at *
    omega
  | case3 condition text bodyText rest parts =>
    have := length_body_le text
    simp only [parts, Clause.weight,
      Option.elim_some] at *
    omega
  | case4 condition text bodyText rest parts _ following behind next others ih =>
    have := length_body_le text
    have := length_continuation?_lt next
    have : Clause.weight others.1 + others.2.length ≤ behind.length + 1 := ih
    simp only [parts, Clause.weight, Option.elim_some] at *
    omega

/-- The conditional region at the front of a text, and the text behind it. -/
def conditional? (text : Text) : Option (Region × Text) :=
  (header? ifWord text).map fun parts =>
    let found := clauses (some parts.1) parts.2
    (.conditional found.1, Text.skipBlankLine found.2)

/-- The text behind a run of blanks of which there is at least one. -/
def afterBlanks? : Text → Option Text
  | c :: rest => if Unicode.isBlank c then some (Text.trimStart rest) else none
  | [] => none

/-- The variable and the collection that the header of an iteration names. -/
def loopParts? (header : Text) : Option (Text × Text) := do
  let rest ← Text.after? "var".toList header
  let rest ← afterBlanks? rest
  let name := rest.takeWhile Unicode.isWord
  let rest ← afterBlanks? (rest.dropWhile Unicode.isWord)
  let rest ← Text.after? "in".toList rest
  let collection ← afterBlanks? rest
  if name = [] ∨ collection = [] ∨ collection.contains '\n' then none
  else some (name, Text.trim collection)

/-- The iteration at the front of a text, and the text behind it. -/
def iteration? (text : Text) : Option (Region × Text) := do
  let (header, rest) ← header? foreachWord text
  let (name, collection) ← loopParts? header
  let parts := body rest
  some (.iteration name collection parts.1, Text.skipBlankLine (parts.2.getD []))

/-- The region that begins on the first line of a text, and the text behind it. -/
def first? (text : Text) : Option (Region × Text) :=
  let line := Text.trimStart (Text.firstLine text)
  let opened := line ++ Text.afterFirstLine text
  if opensWith ifWord line then conditional? opened
  else if opensWith foreachWord line then iteration? opened
  else none

/-- No region begins in the empty text. -/
theorem first?_nil : first? [] = none :=
  rfl

theorem length_trimStart_firstLine_le (text : Text) :
    (Text.trimStart (Text.firstLine text) ++ Text.afterFirstLine text).length ≤ text.length := by
  have := Text.length_trimStart_le (Text.firstLine text)
  simp only [Text.firstLine, Text.afterFirstLine, List.length_append, List.length_take,
    List.length_drop] at *
  omega

theorem weight_conditional?_lt {text rest : Text} {region : Region}
    (found : conditional? text = some (region, rest)) :
    region.weight + rest.length < text.length := by
  rcases Option.map_eq_some_iff.mp found with ⟨⟨inner, behind⟩, header, parts⟩
  rcases Prod.mk.inj parts with ⟨rfl, rfl⟩
  have := length_header?_lt header
  have := weight_clauses_le (some inner) behind
  have := Text.length_skipBlankLine_le (clauses (some inner) behind).2
  simp only [weight]
  omega

theorem weight_iteration?_lt {text rest : Text} {region : Region}
    (found : iteration? text = some (region, rest)) :
    region.weight + rest.length < text.length := by
  simp only [iteration?, Option.bind_eq_bind, Option.bind_eq_some_iff] at found
  rcases found with ⟨⟨header, behind⟩, opened, ⟨name, collection⟩, -, last⟩
  rcases Prod.mk.inj (Option.some.inj last) with ⟨rfl, rfl⟩
  have := length_header?_lt opened
  have := length_body_le behind
  have := Text.length_skipBlankLine_le ((body behind).2.getD [])
  cases closed : (body behind).2 <;>
    simp only [weight, closed, Option.elim_none, Option.elim_some, Option.getD_none,
      Option.getD_some, List.length_nil] at * <;>
    omega

/-- The bodies of a region and the text behind it are shorter together than the text in which it
was found. -/
theorem weight_first?_lt {text rest : Text} {region : Region}
    (found : first? text = some (region, rest)) :
    region.weight + rest.length < text.length := by
  have := length_trimStart_firstLine_le text
  simp only [first?] at found
  split at found
  · have := weight_conditional?_lt found
    omega
  · split at found
    · have := weight_iteration?_lt found
      omega
    · simp at found

end Region

end TextTemplate
