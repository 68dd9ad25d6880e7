import TextTemplate.Command.Run
import TextTemplate.Proofs.Markup.Denotation
import Mathlib.Algebra.Order.Ring.Nat

/-!
# Indented markup

Markup with indented delimiter lines renders to the same text as markup that is flush left, but
for the blanks that closing lines leave in empty bodies. The indentation of a closing line is
dropped only behind a line end, and the line end behind an opening brace belongs to the header:
an empty body has none of its own, so the indentation stays in it and is shown whenever the body
is rendered.

`Markup.strayAll` counts the characters that are shown in this way. The rendering of the indented
text is compared node by node with the rendering of the flush one, under the relation `Widened`.
-/

namespace TextTemplate

variable {σ : Type}

namespace Markup

/-- The number of characters that the indentation of a closing brace leaves in a body. -/
def residueLength (margin : Margin) : List Markup → Nat
  | [] => margin.text.length
  | _ :: _ => 0

end Markup

mutual

/-- Every line that closes an empty body is flush left. -/
def Markup.ClosesFlush (margins : Margins) : Markup → Prop
  | .line _ => True
  | .choice _ body rest =>
    (body = [] → (margins.behind body).next.text = []) ∧
      Markup.AllCloseFlush (margins.drop 1) body ∧
      rest.ClosesFlush (margins.behind body)
  | .loop _ body =>
    (body = [] → (margins.behind body).next.text = []) ∧ Markup.AllCloseFlush (margins.drop 1) body

/-- Every line that closes an empty body of the nodes is flush left. -/
def Markup.AllCloseFlush (margins : Margins) : List Markup → Prop
  | [] => True
  | node :: others =>
    node.ClosesFlush margins ∧ Markup.AllCloseFlush (margins.drop node.delimiters) others

/-- Every line that closes an empty body of the alternatives is flush left. -/
def Alternatives.ClosesFlush (margins : Margins) : Alternatives → Prop
  | .close => True
  | .otherwise body =>
    (body = [] → (margins.behind body).next.text = []) ∧ Markup.AllCloseFlush (margins.drop 1) body
  | .elseIf _ body rest =>
    (body = [] → (margins.behind body).next.text = []) ∧
      Markup.AllCloseFlush (margins.drop 1) body ∧
      rest.ClosesFlush (margins.behind body)

end

section Stray

variable [Host σ]

mutual

/-- The number of characters that indentations leave in the bodies that a node renders. -/
def Markup.stray (scope : Scope σ) (margins : Margins) : Markup → Nat
  | .line _ => 0
  | .choice condition body rest =>
    if (Condition.holdsIn scope condition.text).value then
      Markup.residueLength (margins.behind body).next body +
        Markup.strayAll scope (margins.drop 1) body
    else rest.stray scope (margins.behind body)
  | .loop header body =>
    let items := Renderer.items (Expression.resolve scope header.collection.text).value
    (items.zipIdx.map fun entry =>
      Markup.residueLength (margins.behind body).next body +
        Markup.strayAll
          (Renderer.itemScope scope (String.ofList header.name) entry.1.1 entry.2 entry.1.2)
          (margins.drop 1) body).sum

/-- The number of characters that indentations leave in what the nodes render. -/
def Markup.strayAll (scope : Scope σ) (margins : Margins) : List Markup → Nat
  | [] => 0
  | node :: others =>
    node.stray scope margins + Markup.strayAll scope (margins.drop node.delimiters) others

/-- The number of characters that indentations leave in the alternative that is rendered. -/
def Alternatives.stray (scope : Scope σ) (margins : Margins) : Alternatives → Nat
  | .close => 0
  | .otherwise body =>
    Markup.residueLength (margins.behind body).next body +
      Markup.strayAll scope (margins.drop 1) body
  | .elseIf condition body rest =>
    if (Condition.holdsIn scope condition.text).value then
      Markup.residueLength (margins.behind body).next body +
        Markup.strayAll scope (margins.drop 1) body
    else rest.stray scope (margins.behind body)

end

end Stray

/-! ## Texts with stray blanks -/

/-- Both results are the same error, or the second text has so many characters more than the
first and is the first if it has no more. -/
inductive Widened (stray : Nat) : Except Error Text → Except Error Text → Prop where
  | failed (cause : Error) : Widened stray (.error cause) (.error cause)
  | shown {plain wide : Text} (length : wide.length = plain.length + stray)
      (same : stray = 0 → wide = plain) : Widened stray (.ok plain) (.ok wide)

namespace Widened

variable {stray others : Nat} {plain wide plainRest wideRest : Except Error Text}

theorem refl (result : Except Error Text) : Widened 0 result result := by
  cases result with
  | error cause => exact .failed cause
  | ok text => exact .shown rfl (fun _ => rfl)

theorem atDepth {plain wide : Attempt Text} (renderer : Renderer σ) (depth : Nat)
    (widened : Widened stray plain.outcome wide.outcome) :
    Widened stray (Renderer.atDepth renderer depth plain).outcome
      (Renderer.atDepth renderer depth wide).outcome := by
  rw [Renderer.outcome_atDepth, Renderer.outcome_atDepth, Markup.within, Markup.within]
  split
  · exact .failed _
  · exact widened

theorem append (first : Widened stray plain wide) (second : Widened others plainRest wideRest) :
    Widened (stray + others)
      (do let front ← plain; let rest ← plainRest; pure (front ++ rest))
      (do let front ← wide; let rest ← wideRest; pure (front ++ rest)) := by
  cases first with
  | failed cause => exact .failed cause
  | shown firstLength firstSame =>
      cases second with
      | failed cause => exact .failed cause
      | shown secondLength secondSame =>
          refine .shown ?_ ?_
          · rw [List.length_append, List.length_append, firstLength, secondLength]
            omega
          · intro noStray
            rw [firstSame (by omega), secondSame (by omega)]

/-- The two results are equal unless blanks are shown. -/
theorem eq_iff (widened : Widened stray plain wide) :
    wide = plain ↔ (∃ cause, plain = .error cause) ∨ stray = 0 := by
  cases widened with
  | failed cause => simp
  | shown length same =>
      constructor
      · intro equal
        rw [Except.ok.inj equal] at length
        exact .inr (by omega)
      · intro cases
        rcases cases with ⟨cause, failed⟩ | noStray
        · contradiction
        · rw [same noStray]

end Widened

/-! ## Rendering indented markup -/

namespace Renderer

theorem widened_forItems {flush indented : Nat → Value σ × Option String → Attempt Text}
    {stray : (Value σ × Option String) × Nat → Nat}
    (each : ∀ index item,
      Widened (stray (item, index)) (flush index item).outcome (indented index item).outcome)
    (index : Nat) (items : List (Value σ × Option String)) :
    Widened ((items.zipIdx index).map stray).sum (forItems flush index items).outcome
      (forItems indented index items).outcome := by
  induction items generalizing index with
  | nil => exact .refl _
  | cons item others ih =>
      simp only [List.zipIdx_cons, List.map_cons, List.sum_cons, forItems, Attempt.outcome_bind]
      exact (each index item).append (ih (index + 1))

end Renderer

variable [Host σ]

/-- A body shows the indentation behind it if it is empty, and what is shown in its nodes. -/
theorem Markup.widened_body (renderer : Renderer σ) (scope : Scope σ) (depth : Nat)
    (margin : Margin) {margins : Margins} {block : List Markup}
    (inner : Widened (Markup.strayAll scope margins block)
      (renderer.renderNodes scope depth (Markup.nodes .flush block)).outcome
      (renderer.renderNodes scope depth (Markup.nodes margins block)).outcome) :
    Widened (Markup.residueLength margin block + Markup.strayAll scope margins block)
      (renderer.renderNodes scope depth (Markup.nodes .flush block)).outcome
      (renderer.renderNodes scope depth
        (Markup.residue margin block ++ Markup.nodes margins block)).outcome := by
  cases block with
  | cons node others =>
      rw [Markup.residueLength, Nat.zero_add]
      exact inner
  | nil =>
      -- Only the residue is there: a line of blanks, in which there is no span.
      have plain := Interpolation.outcome_resolveText_of_notMem renderer.helpers scope
        (margin.notMem (c := '$') (by decide))
      have wide : (renderer.renderNodes scope depth
          (Markup.residue margin [] ++ Markup.nodes margins [])).outcome = .ok margin.text := by
        rw [Markup.residue, Markup.nodes, List.append_nil]
        split
        · rename_i empty
          rw [empty]
          rfl
        · simp only [Renderer.renderNodes, Renderer.renderNode, Attempt.outcome_bind, plain,
            Attempt.outcome_pure]
          simp [bind, Except.bind]
      rw [wide]
      refine .shown ?_ ?_
      · simp [Markup.residueLength, Markup.strayAll]
      · intro noStray
        simpa [Markup.residueLength, Markup.strayAll] using noStray

mutual

theorem Markup.widened_renderNode (renderer : Renderer σ) (scope : Scope σ) (depth : Nat)
    (margins : Margins) (node : Markup) :
    Widened (node.stray scope margins)
      (renderer.renderNode scope depth (node.node .flush)).outcome
      (renderer.renderNode scope depth (node.node margins)).outcome := by
  cases node with
  | line line => exact .refl _
  | choice condition body rest =>
      have chosen := Markup.widened_body renderer scope (depth + 1)
        (margins.behind body).next
        (Markup.widened_renderNodes renderer scope (depth + 1) (margins.drop 1) body)
      rw [Markup.node_flush_choice, Markup.node, Renderer.renderNode, Renderer.renderNode,
        Renderer.outcome_renderClauses_some, Renderer.outcome_renderClauses_some, Markup.stray]
      split
      · exact chosen.atDepth renderer (depth + 1)
      · exact rest.widened_renderClauses renderer scope depth _ _ _ _
  | loop header body =>
      have each (index : Nat) (item : Value σ × Option String) :=
        (Markup.widened_body renderer
          (Renderer.itemScope scope (String.ofList header.name) item.1 index item.2) (depth + 1)
          (margins.behind body).next
          (Markup.widened_renderNodes renderer _ (depth + 1) (margins.drop 1) body)).atDepth
          renderer (depth + 1)
      rw [Markup.node_flush_loop, Markup.node, Renderer.outcome_renderNode_iteration,
        Renderer.outcome_renderNode_iteration, Renderer.outcome_collection, Markup.stray]
      cases (Expression.resolve scope header.collection.text).value with
      | string text => exact .failed _
      | _ => exact Renderer.widened_forItems each 0 _

/-- The rendering of indented nodes is the rendering of the flush ones and the blanks that are
shown. -/
theorem Markup.widened_renderNodes (renderer : Renderer σ) (scope : Scope σ) (depth : Nat)
    (margins : Margins) (block : List Markup) :
    Widened (Markup.strayAll scope margins block)
      (renderer.renderNodes scope depth (Markup.nodes .flush block)).outcome
      (renderer.renderNodes scope depth (Markup.nodes margins block)).outcome := by
  cases block with
  | nil => exact .refl _
  | cons node others =>
      simp only [Markup.nodes, Renderer.renderNodes, Attempt.outcome_bind, Markup.strayAll,
        Margins.drop_flush]
      exact (node.widened_renderNode renderer scope depth margins).append
        (Markup.widened_renderNodes renderer scope depth (margins.drop node.delimiters) others)

/-- The number of clauses is only reported, so that the two sides may differ in it. -/
theorem Alternatives.widened_renderClauses (renderer : Renderer σ) (scope : Scope σ)
    (depth position flushCount count : Nat) (margins : Margins) (rest : Alternatives) :
    Widened (rest.stray scope margins)
      (renderer.renderClauses scope depth position flushCount (rest.clauses .flush)).outcome
      (renderer.renderClauses scope depth position count (rest.clauses margins)).outcome := by
  cases rest with
  | close => exact .refl _
  | otherwise body =>
      have chosen := Markup.widened_body renderer scope (depth + 1)
        (margins.behind body).next
        (Markup.widened_renderNodes renderer scope (depth + 1) (margins.drop 1) body)
      rw [Alternatives.clauses_flush_otherwise, Alternatives.clauses, Alternatives.stray]
      exact chosen.atDepth renderer (depth + 1)
  | elseIf condition body rest =>
      have chosen := Markup.widened_body renderer scope (depth + 1)
        (margins.behind body).next
        (Markup.widened_renderNodes renderer scope (depth + 1) (margins.drop 1) body)
      rw [Alternatives.clauses_flush_elseIf, Alternatives.clauses,
        Renderer.outcome_renderClauses_some, Renderer.outcome_renderClauses_some,
        Alternatives.stray]
      split
      · exact chosen.atDepth renderer (depth + 1)
      · exact rest.widened_renderClauses renderer scope depth _ _ _ _

end

/-! ## Flush closing lines -/

theorem Markup.residueLength_of_flush {margin : Margin} {body : List Markup}
    (flush : body = [] → margin.text = []) : Markup.residueLength margin body = 0 := by
  cases body with
  | nil => rw [Markup.residueLength, flush rfl, List.length_nil]
  | cons node others => rfl

mutual

theorem Markup.stray_of_closesFlush (scope : Scope σ) (margins : Margins) (node : Markup)
    (flush : node.ClosesFlush margins) : node.stray scope margins = 0 := by
  cases node with
  | line line => rfl
  | choice condition body rest =>
      rcases flush with ⟨closing, inner, other⟩
      rw [Markup.stray, Markup.residueLength_of_flush closing,
        Markup.strayAll_of_allCloseFlush scope _ body inner,
        rest.stray_of_closesFlush scope _ other]
      split <;> rfl
  | loop header body =>
      rcases flush with ⟨closing, inner⟩
      have once (child : Scope σ) := Markup.strayAll_of_allCloseFlush child _ body inner
      rw [Markup.stray]
      apply List.sum_eq_zero_iff_forall_eq_nat.mpr
      intro count listed
      rcases List.mem_map.mp listed with ⟨entry, -, rfl⟩
      rw [Markup.residueLength_of_flush closing, once]

theorem Markup.strayAll_of_allCloseFlush (scope : Scope σ) (margins : Margins)
    (block : List Markup) (flush : Markup.AllCloseFlush margins block) :
    Markup.strayAll scope margins block = 0 := by
  cases block with
  | nil => rfl
  | cons node others =>
      rcases flush with ⟨first, second⟩
      rw [Markup.strayAll, node.stray_of_closesFlush scope margins first,
        Markup.strayAll_of_allCloseFlush scope _ others second]

theorem Alternatives.stray_of_closesFlush (scope : Scope σ) (margins : Margins)
    (rest : Alternatives) (flush : rest.ClosesFlush margins) : rest.stray scope margins = 0 := by
  cases rest with
  | close => rfl
  | otherwise body =>
      rcases flush with ⟨closing, inner⟩
      rw [Alternatives.stray, Markup.residueLength_of_flush closing,
        Markup.strayAll_of_allCloseFlush scope _ body inner]
  | elseIf condition body rest =>
      rcases flush with ⟨closing, inner, other⟩
      rw [Alternatives.stray, Markup.residueLength_of_flush closing,
        Markup.strayAll_of_allCloseFlush scope _ body inner,
        rest.stray_of_closesFlush scope _ other]
      split <;> rfl

end

/-! ## The rendered text -/

theorem Markup.widened_renderBlocks (renderer : Renderer σ) (scope : Scope σ) (depth : Nat)
    (margins : Margins) (block : List Markup) :
    Widened (Markup.strayAll scope margins block)
      (renderer.renderBlocks scope depth (Markup.print block)).outcome
      (renderer.renderBlocks scope depth (Markup.writeAll margins block)).outcome := by
  rw [Renderer.renderBlocks, Renderer.renderBlocks, Markup.print, Markup.parse_writeAll,
    Markup.parse_writeAll]
  exact (Markup.widened_renderNodes renderer scope depth margins block).atDepth renderer depth

/-- Indentation does not show if every line that closes an empty body is flush left. In any case
it shows in a rendering that succeeds exactly if an empty body with an indented closing line is
rendered. -/
theorem Markup.renderBlocks_writeAll_eq_print (margins : Margins) (block : List Markup) :
    (Markup.AllCloseFlush margins block →
      ∀ (renderer : Renderer σ) (scope : Scope σ) (depth : Nat),
        (renderer.renderBlocks scope depth (Markup.writeAll margins block)).outcome =
          (renderer.renderBlocks scope depth (Markup.print block)).outcome) ∧
    ∀ (renderer : Renderer σ) (scope : Scope σ) (depth : Nat),
      (renderer.renderBlocks scope depth (Markup.writeAll margins block)).outcome =
          (renderer.renderBlocks scope depth (Markup.print block)).outcome ↔
        (∃ cause, (renderer.renderBlocks scope depth (Markup.print block)).outcome =
          .error cause) ∨ Markup.strayAll scope margins block = 0 := by
  constructor
  · intro flush renderer scope depth
    rw [(Markup.widened_renderBlocks renderer scope depth margins block).eq_iff]
    exact .inr (Markup.strayAll_of_allCloseFlush scope margins block flush)
  · intro renderer scope depth
    exact (Markup.widened_renderBlocks renderer scope depth margins block).eq_iff

/-- The condition of the following examples. -/
def Enclosed.on : Enclosed :=
  ⟨"Context.On".toList, by decide, by decide, by decide⟩

/-- Two spaces before every delimiter line but the first. -/
def Margins.hanging : Margins :=
  fun line => if line = 0 then .none else ⟨[' ', ' '], by simp⟩

/-- A region with a body of one line. -/
def Markup.oneLine : List Markup :=
  [.choice .on [.line ⟨['x'], by decide, by decide, by decide, by decide⟩] .close]

theorem Markup.renderBlocks_writeAll_oneLine :
    Markup.AllCloseFlush .hanging oneLine ∧
      (Renderer.standard.renderBlocks (Scope.empty : Scope Empty) 0
          (Markup.writeAll .hanging oneLine)).outcome =
        (Renderer.standard.renderBlocks (Scope.empty : Scope Empty) 0
          (Markup.print oneLine)).outcome := by
  have flush : Markup.AllCloseFlush .hanging oneLine := by
    simp [oneLine, Markup.AllCloseFlush, Markup.ClosesFlush, Alternatives.ClosesFlush]
  exact ⟨flush, (Markup.renderBlocks_writeAll_eq_print .hanging oneLine).1 flush .standard .empty 0⟩

/-- A region with two empty bodies, of which one is always rendered. -/
def Markup.emptyBodies : List Markup :=
  [.choice .on [] (.otherwise [])]

theorem Markup.renderBlocks_writeAll_emptyBodies :
    Markup.writeAll .hanging emptyBodies =
        "@if (Context.On) \x7b\n  \x7d else \x7b\n  \x7d\n".toList ∧
      (Renderer.standard.renderBlocks (Scope.empty : Scope Empty) 0
        (Markup.print emptyBodies)).outcome = .ok [] ∧
      (Renderer.standard.renderBlocks (Scope.empty : Scope Empty) 0
        (Markup.writeAll .hanging emptyBodies)).outcome = .ok [' ', ' '] := by
  refine ⟨by decide, ?_, ?_⟩
  · have nodes : Node.parse (Markup.print emptyBodies) =
        [.conditional [(some Enclosed.on.text, []), (none, [])]] :=
      Markup.parse_writeAll .flush emptyBodies
    simp only [Renderer.renderBlocks, nodes, Renderer.outcome_atDepth, Renderer.renderNodes,
      Renderer.renderNode, Attempt.outcome_bind, Renderer.outcome_renderClauses_some]
    split <;> rfl
  · have nodes : Node.parse (Markup.writeAll .hanging emptyBodies) =
        [.conditional [(some Enclosed.on.text, [.line [' ', ' ']]), (none, [.line [' ', ' ']])]] :=
      Markup.parse_writeAll .hanging emptyBodies
    have shown := Interpolation.outcome_resolveText_of_notMem Renderer.standard.helpers
      (Scope.empty : Scope Empty) (show '$' ∉ [' ', ' '] by decide)
    simp only [Renderer.renderBlocks, nodes, Renderer.outcome_atDepth, Renderer.renderNodes,
      Renderer.renderNode, Attempt.outcome_bind, Renderer.outcome_renderClauses_some,
      Renderer.outcome_renderClauses_none, shown]
    split <;> rfl

end TextTemplate
