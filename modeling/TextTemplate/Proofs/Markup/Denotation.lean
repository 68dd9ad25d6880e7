import TextTemplate.Proofs.Markup.Reading
import TextTemplate.Template.Render

/-!
# The meaning of markup

What a markup tree renders to, said on the tree and without its text. A line stands for itself
with its spans replaced, a choice for the first body whose condition holds, and a loop for its
body once for every item. The parts are joined from left to right, the first error ends the whole,
and a body counts one more level of nesting than the region that it belongs to.

`Markup.outcome_renderNodes` compares the meaning with the rendering of the nodes that a tree is
read as, and `Markup.renderBlocks_print` with the rendering of its text.
-/

namespace TextTemplate

variable {σ : Type}

/-- A meaning at a depth, which must not be beyond the limit. -/
def Markup.within (renderer : Renderer σ) (depth : Nat) (meaning : Except Error Text) :
    Except Error Text :=
  if renderer.maxDepth < depth then .error (.nesting renderer.maxDepth) else meaning

/-- A body that lies deeper is beyond the limit whenever the one around it is. -/
theorem Markup.within_within (renderer : Renderer σ) {outer inner : Nat} (deeper : outer ≤ inner)
    (meaning : Except Error Text) :
    within renderer outer (within renderer inner meaning) = within renderer inner meaning := by
  unfold within
  split
  · rw [if_pos (by omega)]
  · rfl

variable [Host σ]

mutual

/-- The meaning of a node. -/
def Markup.denote (renderer : Renderer σ) (scope : Scope σ) (depth : Nat) :
    Markup → Except Error Text
  | .line line => (Interpolation.resolveText renderer.helpers scope line.text).outcome
  | .choice condition body rest =>
    if (Condition.holdsIn scope condition.text).value then
      Markup.within renderer (depth + 1) (Markup.denoteAll renderer scope (depth + 1) body)
    else rest.denote renderer scope depth
  | .loop header body =>
    match (Expression.resolve scope header.collection.text).value with
    | .string _ => .error (.stringCollection (String.ofList header.collection.text))
    | value => do
      let shown ← (Renderer.items value).zipIdx.mapM fun entry =>
        let name := String.ofList header.name
        let child := ((scope.child (some name)).set name entry.1.1).pushCursor
          ⟨entry.1.1, entry.2, entry.1.2⟩
        Markup.within renderer (depth + 1) (Markup.denoteAll renderer child (depth + 1) body)
      pure shown.flatten

/-- The meaning of nodes one after the other. -/
def Markup.denoteAll (renderer : Renderer σ) (scope : Scope σ) (depth : Nat) :
    List Markup → Except Error Text
  | [] => pure []
  | node :: others => do
    let shown ← node.denote renderer scope depth
    let rest ← Markup.denoteAll renderer scope depth others
    pure (shown ++ rest)

/-- The meaning of what comes behind a clause that was not chosen. -/
def Alternatives.denote (renderer : Renderer σ) (scope : Scope σ) (depth : Nat) :
    Alternatives → Except Error Text
  | .close => pure []
  | .otherwise body =>
    Markup.within renderer (depth + 1) (Markup.denoteAll renderer scope (depth + 1) body)
  | .elseIf condition body rest =>
    if (Condition.holdsIn scope condition.text).value then
      Markup.within renderer (depth + 1) (Markup.denoteAll renderer scope (depth + 1) body)
    else rest.denote renderer scope depth

end

/-- The meaning of a block at a depth. -/
def Markup.denoteBlock (renderer : Renderer σ) (scope : Scope σ) (depth : Nat)
    (block : List Markup) : Except Error Text :=
  Markup.within renderer depth (Markup.denoteAll renderer scope depth block)

/-! ## Rendering the nodes of a tree -/

omit [Host σ] in
@[simp]
theorem Renderer.outcome_atDepth (renderer : Renderer σ) (depth : Nat) (body : Attempt Text) :
    (atDepth renderer depth body).outcome = Markup.within renderer depth body.outcome := by
  rw [atDepth, Markup.within]
  split <;> rfl

mutual

theorem Markup.outcome_renderNode (renderer : Renderer σ) (scope : Scope σ) (depth : Nat)
    (node : Markup) :
    (renderer.renderNode scope depth (node.node .flush)).outcome =
      node.denote renderer scope depth := by
  cases node with
  | line line => rfl
  | choice condition body rest =>
      rw [Markup.node_flush_choice, Renderer.renderNode, Renderer.outcome_renderClauses_some,
        Renderer.outcome_atDepth, Markup.outcome_renderNodes renderer scope _ body,
        rest.outcome_renderClauses, Markup.denote]
  | loop header body =>
      have each (item : Value σ × Option String) (index : Nat) :=
        Markup.outcome_renderNodes renderer
          (Renderer.itemScope scope (String.ofList header.name) item.1 index item.2) (depth + 1)
          body
      rw [Markup.node_flush_loop, Renderer.outcome_renderNode_iteration,
        Renderer.outcome_collection, Markup.denote]
      simp only [Renderer.outcome_forItems, Renderer.renderItem, Renderer.outcome_atDepth, each]
      cases (Expression.resolve scope header.collection.text).value <;> rfl

/-- Rendering the nodes of a block gives the meaning of the block. -/
theorem Markup.outcome_renderNodes (renderer : Renderer σ) (scope : Scope σ) (depth : Nat)
    (block : List Markup) :
    (renderer.renderNodes scope depth (Markup.nodes .flush block)).outcome =
      Markup.denoteAll renderer scope depth block := by
  cases block with
  | nil => rfl
  | cons node others =>
      rw [Markup.nodes, Renderer.renderNodes, Markup.denoteAll, Attempt.outcome_bind,
        node.outcome_renderNode, Margins.drop_flush]
      simp only [Attempt.outcome_bind, Markup.outcome_renderNodes renderer scope depth others,
        Attempt.outcome_pure]
      rfl

theorem Alternatives.outcome_renderClauses (renderer : Renderer σ) (scope : Scope σ)
    (depth position count : Nat) (rest : Alternatives) :
    (renderer.renderClauses scope depth position count (rest.clauses .flush)).outcome =
      rest.denote renderer scope depth := by
  cases rest with
  | close => rfl
  | otherwise body =>
      rw [Alternatives.clauses_flush_otherwise, Renderer.outcome_renderClauses_none,
        Renderer.outcome_atDepth, Markup.outcome_renderNodes renderer scope _ body,
        Alternatives.denote]
  | elseIf condition body rest =>
      rw [Alternatives.clauses_flush_elseIf, Renderer.outcome_renderClauses_some,
        Renderer.outcome_atDepth, Markup.outcome_renderNodes renderer scope _ body,
        rest.outcome_renderClauses, Alternatives.denote]

end

/-- Rendering the text of a block gives the meaning of the block. -/
theorem Markup.renderBlocks_print (renderer : Renderer σ) (scope : Scope σ) (depth : Nat)
    (block : List Markup) :
    (renderer.renderBlocks scope depth (Markup.print block)).outcome =
      Markup.denoteBlock renderer scope depth block := by
  rw [Renderer.renderBlocks, Renderer.outcome_atDepth, Markup.print, Markup.parse_writeAll,
    Markup.outcome_renderNodes, Markup.denoteBlock]

end TextTemplate
