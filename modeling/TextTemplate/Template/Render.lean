import TextTemplate.Condition
import TextTemplate.Interpolation
import TextTemplate.Template.Comment
import TextTemplate.Template.Tree

/-!
# Rendering

A template is rendered against a scope: its comments are removed, its regions are expanded from
the outside inwards, and spans are replaced, first in every line by the scope of that line and at
the end once more by the outermost scope. Bodies may nest up to a depth that the renderer sets.
-/

namespace TextTemplate

/-- The helpers that templates may use, and how deep their regions may nest. -/
structure Renderer (σ : Type) where
  helpers : Registry σ
  maxDepth : Nat

/-- The built-in helpers and a depth of 64. -/
def Renderer.standard {σ : Type} : Renderer σ :=
  ⟨.builtin, 64⟩

namespace Renderer

variable {σ : Type}

/-- The items of a collection with their keys. Null has none, and a value that is no collection is
its own single item. -/
def items : Value σ → List (Value σ × Option String)
  | .null => []
  | .list items => items.map fun item => (item, none)
  | .map entries => entries.map fun entry => (.entry entry.1 entry.2, some entry.1)
  | value => [(value, none)]

/-- The scope in which the body of an iteration is rendered for one item. -/
def itemScope (scope : Scope σ) (name : String) (item : Value σ) (index : Nat)
    (key : Option String) : Scope σ :=
  ((scope.child (some name)).set name item).pushCursor ⟨item, index, key⟩

/-- The collection that an iteration goes through; strings are none. -/
def collection [Host σ] (scope : Scope σ) (expression : Text) :
    Attempt (List (Value σ × Option String)) := do
  let value ← Attempt.ofTraced (Expression.resolve scope expression)
  match value with
  | .string _ => throw (.stringCollection (String.ofList expression))
  | _ => pure (items value)

/-- Renders a body for every item, beginning at an index, and joins the results. -/
def forItems (render : Nat → Value σ × Option String → Attempt Text) (index : Nat) :
    List (Value σ × Option String) → Attempt Text
  | [] => pure []
  | item :: others => do
    let shown ← render index item
    let rest ← forItems render (index + 1) others
    pure (shown ++ rest)

theorem outcome_collection [Host σ] (scope : Scope σ) (expression : Text) :
    (collection scope expression).outcome =
      match (Expression.resolve scope expression).value with
      | .string _ => .error (.stringCollection (String.ofList expression))
      | value => .ok (items value) := by
  rw [collection, Attempt.outcome_bind, Attempt.outcome_ofTraced]
  cases (Expression.resolve scope expression).value <;> rfl

theorem outcome_forItems (render : Nat → Value σ × Option String → Attempt Text) (index : Nat)
    (items : List (Value σ × Option String)) :
    (forItems render index items).outcome =
      (do
        let shown ← (items.zipIdx index).mapM fun entry => (render entry.2 entry.1).outcome
        pure shown.flatten) := by
  induction items generalizing index with
  | nil => rfl
  | cons item others ih =>
    rw [forItems, Attempt.outcome_bind, List.zipIdx_cons, List.mapM_cons]
    cases (render index item).outcome with
    | error cause => rfl
    | ok shown =>
      simp only [Attempt.outcome_bind, ih]
      simp only [bind, Except.bind]
      cases (others.zipIdx (index + 1)).mapM fun entry => (render entry.2 entry.1).outcome with
      | error cause => rfl
      | ok rest => rfl

/-- Renders a body at a depth, which must not be beyond the limit. -/
@[macro_inline]
def atDepth (renderer : Renderer σ) (depth : Nat) (body : Attempt Text) : Attempt Text :=
  if renderer.maxDepth < depth then throw (.nesting renderer.maxDepth) else body

variable [Host σ]

mutual

/-- Renders nodes one after the other. -/
def renderNodes (renderer : Renderer σ) (scope : Scope σ) (depth : Nat) :
    List Node → Attempt Text
  | [] => pure []
  | node :: others => do
    let shown ← renderNode renderer scope depth node
    let rest ← renderNodes renderer scope depth others
    pure (shown ++ rest)

/-- Renders a node. -/
def renderNode (renderer : Renderer σ) (scope : Scope σ) (depth : Nat) : Node → Attempt Text
  | .line text => Interpolation.resolveText renderer.helpers scope text
  | .conditional clauses => renderClauses renderer scope depth 1 clauses.length clauses
  | .iteration name expression body => do
    let items ← collection scope expression
    Attempt.ofTraced (Traced.report (.iterating (String.ofList expression) items.length))
    forItems (fun index item =>
      atDepth renderer (depth + 1) <|
        renderNodes renderer (itemScope scope (String.ofList name) item.1 index item.2)
          (depth + 1) body) 0 items

/-- Renders the body of the first clause whose condition holds. The clauses are counted from
`position` on. -/
def renderClauses (renderer : Renderer σ) (scope : Scope σ) (depth position count : Nat) :
    List (Option Text × List Node) → Attempt Text
  | [] => do
    Attempt.ofTraced (Traced.report .noClauseSelected)
    pure []
  | (condition, body) :: others => do
    let selected ← match condition with
      | some text => Attempt.ofTraced (Condition.holdsIn scope text)
      | none => pure true
    if selected then
      Attempt.ofTraced (Traced.report (.clauseSelected position count))
      atDepth renderer (depth + 1) (renderNodes renderer scope (depth + 1) body)
    else renderClauses renderer scope depth (position + 1) count others

end

theorem outcome_renderClauses_some (renderer : Renderer σ) (scope : Scope σ)
    (depth position count : Nat) (condition : Text) (body : List Node)
    (others : List (Option Text × List Node)) :
    (renderer.renderClauses scope depth position count ((some condition, body) :: others)).outcome =
      if (Condition.holdsIn scope condition).value then
        (atDepth renderer (depth + 1) (renderer.renderNodes scope (depth + 1) body)).outcome
      else (renderer.renderClauses scope depth (position + 1) count others).outcome := by
  rw [renderClauses, Attempt.outcome_bind, Attempt.outcome_ofTraced]
  simp only [bind, Except.bind]
  split <;> rfl

theorem outcome_renderClauses_none (renderer : Renderer σ) (scope : Scope σ)
    (depth position count : Nat) (body : List Node) (others : List (Option Text × List Node)) :
    (renderer.renderClauses scope depth position count ((none, body) :: others)).outcome =
      (atDepth renderer (depth + 1) (renderer.renderNodes scope (depth + 1) body)).outcome :=
  rfl

/-- Renders the body of an iteration for one item. -/
def renderItem (renderer : Renderer σ) (scope : Scope σ) (depth : Nat) (name : Text)
    (body : List Node) (index : Nat) (item : Value σ × Option String) : Attempt Text :=
  atDepth renderer (depth + 1) <|
    renderNodes renderer (itemScope scope (String.ofList name) item.1 index item.2) (depth + 1) body

theorem outcome_renderNode_iteration (renderer : Renderer σ) (scope : Scope σ) (depth : Nat)
    (name expression : Text) (body : List Node) :
    (renderer.renderNode scope depth (.iteration name expression body)).outcome =
      (collection scope expression).outcome >>= fun items =>
        (forItems (renderer.renderItem scope depth name body) 0 items).outcome := by
  rw [renderNode, Attempt.outcome_bind]
  rfl

/-- Renders the regions of a text at a depth. -/
def renderBlocks (renderer : Renderer σ) (scope : Scope σ) (depth : Nat) (text : Text) :
    Attempt Text :=
  atDepth renderer depth (renderNodes renderer scope depth (Node.parse text))

/-- Renders a template. -/
def render (renderer : Renderer σ) (scope : Scope σ) (template : Text) : Attempt Text := do
  let expanded ← renderBlocks renderer scope 0 (Comment.strip template)
  Interpolation.resolveText renderer.helpers scope expanded

end Renderer

end TextTemplate
