import TextTemplate.Proofs.DottedPath
import TextTemplate.Proofs.Parentheses
import TextTemplate.Proofs.Quotes

/-!
# Paths with calls

A path that is written step by step is read back as these steps, and its value is that of its root
after one step after the other: `Expression.resolve_written`.

A call is read up to the parenthesis that balances the first one. A literal cannot end before its
own quote, so all it must not contain is that quote; an expression says itself that it is closed by
the parenthesis behind it.
-/

namespace TextTemplate

namespace Path

/-- A step behind the root of a path, as it is written. -/
inductive Link where
  | member (name : Name)
  | literal (quote : Quote) (argument : Text) (single : quote.mark ∉ argument)
  | expression (argument : Text) (trimmed : Text.trim argument = argument)
    (bare : Text.unquote argument = argument)
    (closed : Text.closing? ('(' :: argument ++ [')']) = some (argument.length + 1))

namespace Link

/-- The step as it is written, from its point or parenthesis on. -/
def text : Link → Text
  | member name => '.' :: name.text
  | literal quote argument _ => '(' :: quote.enclose argument ++ [')']
  | expression argument _ _ _ => '(' :: argument ++ [')']

/-- The step that is meant. -/
def step : Link → Step
  | member name => name.step
  | literal _ argument _ => .call (.literal argument)
  | expression argument _ _ _ => .call (.expression argument)

/-- A step ends the name before it. -/
theorem head_text (link : Link) : ∃ c rest, link.text = c :: rest ∧ isMemberChar c = false := by
  cases link with
  | member name => exact ⟨'.', name.text, rfl, rfl⟩
  | literal quote argument single => exact ⟨'(', quote.enclose argument ++ [')'], rfl, rfl⟩
  | expression argument trimmed bare closed => exact ⟨'(', argument ++ [')'], rfl, rfl⟩

theorem trimEnd_text (link : Link) (front : Text) :
    Text.trimEnd (front ++ link.text) = front ++ link.text := by
  have call : ∀ inner : Text,
      Text.trimEnd (front ++ ('(' :: inner ++ [')'])) = front ++ ('(' :: inner ++ [')']) := by
    intro inner
    have ending := @Text.trimEnd_append [')'] (by decide) (by simp) (front ++ '(' :: inner)
    simpa using ending
  cases link with
  | member name =>
      have ending := name.trimEnd_append (front ++ ['.'])
      simpa [text] using ending
  | literal quote argument single => exact call (quote.enclose argument)
  | expression argument trimmed bare closed => exact call argument

end Link

/-- The steps behind the root of a path, as they are written. -/
def linked (links : List Link) : Text :=
  (links.map Link.text).flatten

@[simp]
theorem linked_cons (link : Link) (links : List Link) :
    linked (link :: links) = link.text ++ linked links :=
  rfl

theorem head_linked (links : List Link) : ∀ c ∈ (linked links).head?, isMemberChar c = false := by
  intro c first
  cases links with
  | nil => contradiction
  | cons link others =>
      rcases link.head_text with ⟨d, rest, shape, ends⟩
      rw [linked_cons, shape] at first
      rw [← Option.some.inj first]
      exact ends

theorem closing?_enclose (quote : Quote) {argument : Text} (single : quote.mark ∉ argument) :
    Text.closing? ('(' :: quote.enclose argument ++ [')']) =
      some ((quote.enclose argument).length + 1) := by
  have opened : ∀ rest, Text.closing? ('(' :: quote.mark :: rest) =
      (Text.closingFrom 1 (some quote.mark) rest).map (· + 2) := by
    intro rest
    cases quote <;>
      · rw [Text.closing?_cons, Text.closingFrom, if_pos (by decide), Option.map_map]
        rfl
  have written : '(' :: quote.enclose argument ++ [')'] =
      '(' :: quote.mark :: (argument ++ quote.mark :: [')']) := by
    simp [Quote.enclose]
  rw [written, opened, Text.closingFrom_quoted 1 single]
  simp [Text.closingFrom, Quote.enclose]

theorem steps_call {inner : Text}
    (closed : Text.closing? ('(' :: inner ++ [')']) = some (inner.length + 1)) (rest : Text) :
    steps ('(' :: inner ++ [')'] ++ rest) = .call (.ofInner inner) :: steps rest := by
  have written : '(' :: inner ++ [')'] ++ rest = '(' :: (inner ++ ')' :: rest) := by
    simp
  have place : Text.closing? ('(' :: (inner ++ ')' :: rest)) = some (inner.length + 1) := by
    rw [← written]
    exact Text.closingFrom_append closed rest
  have opening : ¬isSeparator '(' = true := by
    decide
  have behind : (inner ++ ')' :: rest).drop (inner.length + 1) = rest := by
    simp
  rw [written, steps, if_neg opening, if_pos rfl, place]
  simp only [Option.getD_some, behind, Nat.add_sub_cancel, List.take_left]

theorem ofInner_enclose (quote : Quote) (argument : Text) :
    Argument.ofInner (quote.enclose argument) = .literal argument := by
  have longer : argument.length ≠ (quote.enclose argument).length := by
    simp only [Quote.enclose, List.length_append, List.length_cons, List.length_nil]
    omega
  simp only [Argument.ofInner, quote.trim_enclose, quote.unquote_enclose, if_neg longer]

theorem steps_linked (links : List Link) : steps (linked links) = links.map Link.step := by
  induction links with
  | nil =>
      rw [linked, List.map_nil, List.flatten_nil, steps]
      rfl
  | cons link others ih =>
      rw [linked_cons, List.map_cons, ← ih]
      cases link with
      | member name =>
          have point : isSeparator '.' = true := rfl
          rw [Link.text, List.cons_append, steps, if_pos point, steps_name name (head_linked others)]
          rfl
      | literal quote argument single =>
          rw [Link.text, steps_call (closing?_enclose quote single), ofInner_enclose]
          rfl
      | expression argument trimmed bare closed =>
          rw [Link.text, steps_call closed, Argument.ofInner]
          simp only [trimmed, bare, if_true]
          rfl

/-- A path with calls, as it is written. -/
structure Written where
  root : Name
  links : List Link

namespace Written

variable (written : Written)

/-- The path as it is written: the name of its root and the links behind it. -/
def text : Text :=
  written.root.text ++ linked written.links

/-- The steps that are meant, the first of them the root. -/
def steps : List Step :=
  written.root.step :: written.links.map Link.step

theorem steps_text : Path.steps written.text = written.steps := by
  rw [text, steps_name written.root (head_linked written.links), steps_linked]
  rfl

theorem trimEnd_text (front : Text) :
    Text.trimEnd (front ++ written.text) = front ++ written.text := by
  rw [text]
  cases List.eq_nil_or_concat written.links with
  | inl alone =>
      rw [alone, linked, List.map_nil, List.flatten_nil, List.append_nil]
      exact written.root.trimEnd_append front
  | inr more =>
      rcases more with ⟨others, last, parted⟩
      have ending := last.trimEnd_text (front ++ written.root.text ++ linked others)
      rw [parted]
      simpa [linked] using ending

end Written

end Path

namespace Expression

/-- A path with calls behind the word for the root scope. -/
def behindScope (written : Path.Written) : Text :=
  scopeWord ++ '.' :: written.text

theorem trim_behindScope (written : Path.Written) :
    Text.trim (behindScope written) = behindScope written := by
  have start : Text.trimStart (behindScope written) = behindScope written :=
    Text.trimStart_cons (by decide) _
  have ending := written.trimEnd_text (scopeWord ++ ['.'])
  rw [Text.trim, start]
  simpa [behindScope] using ending

theorem ofText_behindScope {written : Path.Written}
    (noLookup : lookupParts? (behindScope written) = none) :
    ofText (behindScope written) =
      .path written.root.text (written.links.map Path.Link.step) := by
  have path : withoutScope (behindScope written) = written.text :=
    withoutScope_append written.text
  simp only [ofText, trim_behindScope, noLookup, path, written.steps_text]
  rfl

variable {σ : Type} [Host σ]

/-- The value of an argument. -/
def argument (scope : Scope σ) : Path.Argument → Traced (Value σ)
  | .literal text => pure (.ofText text)
  | .expression text => resolve scope text

/-- The value that one step leads to. It is null where there is no such member, where there is
nothing to call or the call fails, and from null on. -/
def advance (scope : Scope σ) (current : Value σ) (step : Path.Step) : Traced (Value σ) :=
  match current, step with
  | .null, _ => pure .null
  | current, .member name => pure ((current.field? (String.ofList name)).getD .null)
  | .function function, .call written => do
    let value ← argument scope written
    match ← function.call value with
    | .ok result => pure result
    | .error cause => do
      Traced.report (.callFailed function.name cause)
      pure .null
  | current, .call _ => do
    Traced.report (.notCallable current.toString)
    pure .null

theorem advance_call (scope : Scope σ) (function : Function σ) (written : Path.Argument) :
    advance scope (.function function) (.call written) = (do
      let value ← argument scope written
      let result ← function.call value
      settle function result) := by
  rw [advance]
  apply bind_congr
  intro value
  apply bind_congr
  intro result
  cases result with
  | ok value => rfl
  | error cause => rfl

theorem foldlM_advance_null (scope : Scope σ) (steps : List Path.Step) :
    steps.foldlM (advance scope) .null = pure .null := by
  induction steps with
  | nil => rfl
  | cons step others ih =>
      rw [List.foldlM_cons, advance, pure_bind, ih]

theorem follow_eq_foldlM (scope : Scope σ) (current : Value σ) (steps : List Path.Step) :
    follow scope current steps = steps.foldlM (advance scope) current := by
  induction steps generalizing current with
  | nil =>
      rw [follow]
      rfl
  | cons step others ih =>
      cases current with
      | null =>
          rw [follow.eq_def, foldlM_advance_null]
          rfl
      | function function =>
          cases step with
          | member name => simp [follow, advance, Value.isNull, ih]
          | call written =>
              cases written <;> simp [follow, advance_call, argument, Value.isNull, ih]
      | _ =>
          cases step with
          | member name => simp [follow, advance, Value.isNull, ih]
          | call written =>
              cases written <;> simp [follow, advance, Value.isNull, foldlM_advance_null]

/-- A path with calls is read back, and resolving it goes from its root step by step. From null no
step leads further. -/
theorem resolve_written (written : Path.Written) :
    Path.steps written.text = written.steps ∧
      ∀ scope : Scope σ,
        (lookupParts? (behindScope written) = none →
          resolve scope (behindScope written) =
            root scope (String.ofList written.root.text) >>= fun start =>
              (written.links.map Path.Link.step).foldlM (advance scope) start) ∧
        ∀ steps : List Path.Step, steps.foldlM (advance scope) .null = pure .null := by
  refine ⟨written.steps_text, fun scope => ⟨?_, foldlM_advance_null scope⟩⟩
  intro noLookup
  simp only [resolve_path scope (ofText_behindScope noLookup), follow_eq_foldlM]

/-- What the services of a small host do: one answers with its argument, one fails. -/
inductive Reply where
  | echo
  | refuse

instance : Host Reply :=
  ⟨fun reply argument =>
    match reply with
    | .echo => .ok argument
    | .refuse => .error (.context .unreadable)⟩

/-- A scope with both services, the first under a name that would end a call too early. -/
def replies : Scope Reply :=
  (Scope.register .empty "it's)" .echo).register "no" .refuse

/-- A call that follows a call and takes the value of another path, with a parenthesis and a quote
within quotes; and a call that fails, with a step behind it. -/
theorem resolve_written_replies :
    let directory : Path.Name :=
      ⟨"Services".toList, by decide, by decide +kernel, List.all_eq_true.mp (by decide)⟩
    let length : Path.Name :=
      ⟨"Length".toList, by decide, by decide +kernel, List.all_eq_true.mp (by decide)⟩
    let inner : Path.Written := ⟨directory, [.literal .double "it's)".toList (by decide),
      .literal .single "é)".toList (by decide)]⟩
    let outer : Path.Written := ⟨directory, [.literal .double "it's)".toList (by decide),
      .expression (behindScope inner) (by decide) (by decide) (by decide), .member length]⟩
    let failing : Path.Written :=
      ⟨⟨"no".toList, by decide, by decide +kernel, List.all_eq_true.mp (by decide)⟩,
        [.literal .single "x".toList (by decide), .member length]⟩
    outer.text = "Services(\"it's)\")(Context.Services(\"it's)\")('é)')).Length".toList ∧
      failing.text = "no('x').Length".toList ∧
      lookupParts? (behindScope outer) = none ∧ lookupParts? (behindScope failing) = none ∧
      Path.steps outer.text = [.member "Services".toList, .call (.literal "it's)".toList),
        .call (.expression "Context.Services(\"it's)\")('é)')".toList),
        .member "Length".toList] ∧
      resolve replies (behindScope outer) = pure (.int 2) ∧
      resolve replies (behindScope failing) =
        ⟨.null, [.callFailed "no" (.context .unreadable)]⟩ := by
  intro directory length inner outer failing
  have innerPath : lookupParts? (behindScope inner) = none := by decide
  have outerPath : lookupParts? (behindScope outer) = none := by decide
  have failingPath : lookupParts? (behindScope failing) = none := by decide
  have quotedSteps : (root replies "Services" >>= fun start =>
      [.call (.literal "it's)".toList), .call (.literal "é)".toList)].foldlM (advance replies)
        start) = pure (.ofText "é)".toList) :=
    rfl
  have failed : (root replies "no" >>= fun start =>
      [.call (.literal "x".toList), .member "Length".toList].foldlM (advance replies) start) =
        ⟨.null, [.callFailed "no" (.context .unreadable)]⟩ :=
    rfl
  have named : (root replies "Services" >>= fun start =>
      advance replies start (.call (.literal "it's)".toList))) =
        pure (.function ⟨"it's)", .service .echo⟩) :=
    rfl
  have quoted : resolve replies (behindScope inner) = pure (.ofText "é)".toList) :=
    (((resolve_written inner).2 replies).1 innerPath).trans quotedSteps
  have echoed : advance replies (.function ⟨"it's)", .service .echo⟩)
      (.call (.expression (behindScope inner))) = pure (.ofText "é)".toList) := by
    rw [advance_call, argument, quoted]
    rfl
  refine ⟨by decide, by decide, outerPath, failingPath, (resolve_written (σ := Reply) outer).1, ?_,
    (((resolve_written failing).2 replies).1 failingPath).trans failed⟩
  -- The argument is a path of its own, so its value is put in its place first.
  calc resolve replies (behindScope outer)
      = (root replies "Services" >>= fun start =>
          advance replies start (.call (.literal "it's)".toList))) >>= fun function =>
            advance replies function (.call (.expression (behindScope inner))) >>= fun value =>
              [.member "Length".toList].foldlM (advance replies) value := by
        rw [((resolve_written outer).2 replies).1 outerPath, bind_assoc]
        rfl
    _ = pure (.int 2) := by
        rw [named, pure_bind, echoed]
        rfl

end Expression

end TextTemplate
