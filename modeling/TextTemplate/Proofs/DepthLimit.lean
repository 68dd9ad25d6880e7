import TextTemplate.Command.Run
import TextTemplate.Proofs.Comments
import TextTemplate.Proofs.Conditions
import TextTemplate.Proofs.DottedPath
import TextTemplate.Proofs.Failures
import TextTemplate.Proofs.Markup.Denotation
import TextTemplate.Proofs.Spans

/-!
# The depth limit

A limit on the nesting of regions only ever cuts a render short: it ends the render with the error
of the limit or does not show at all. Two renders with different limits are followed side by side
until the lower limit is reached. A template that has no more opening braces than the limit never
reaches it.
-/

namespace TextTemplate

/-- The first result is the error of the limit or the second result. -/
def CutShort {α : Type} (limit : Nat) (short full : Except Error α) : Prop :=
  short = .error (.nesting limit) ∨ short = full

namespace CutShort

variable {α β : Type} {limit : Nat}

theorem refl (result : Except Error α) : CutShort limit result result :=
  .inr rfl

theorem bind {short full : Except Error α} {shortNext fullNext : α → Except Error β}
    (first : CutShort limit short full)
    (second : ∀ value, CutShort limit (shortNext value) (fullNext value)) :
    CutShort limit (short >>= shortNext) (full >>= fullNext) := by
  rcases first with rfl | rfl
  · exact .inl rfl
  · cases short with
    | error cause => exact .refl _
    | ok value => exact second value

end CutShort

variable {σ : Type}

namespace Registry

/-- No helper of the host fails with the error of a limit. -/
def Quiet (helpers : Registry σ) : Prop :=
  ∀ entry ∈ helpers.added, ∀ value argument limit,
    entry.2 value argument ≠ .error (.nesting limit)

theorem Quiet.notFails {helpers : Registry σ} (quiet : Quiet helpers) (call : HelperCall σ)
    (limit : Nat) : ¬ call.Fails helpers (.nesting limit) := by
  intro fails
  rcases fails with ⟨helper, added, answer⟩
  exact quiet _ (Entries.mem_of_get? added) call.value call.argument limit answer

/-- The built-in helpers and one that always fails. -/
def failing : Registry Empty :=
  .register .builtin "fail" fun _ _ => .error (.helper "fail" "")

end Registry

namespace Renderer

theorem cutShort_forItems {limit : Nat} {short full : Nat → Value σ × Option String → Attempt Text}
    (each : ∀ index item, CutShort limit (short index item).outcome (full index item).outcome)
    (index : Nat) (items : List (Value σ × Option String)) :
    CutShort limit (forItems short index items).outcome (forItems full index items).outcome := by
  induction items generalizing index with
  | nil => exact .refl _
  | cons item others ih =>
      simp only [forItems, Attempt.outcome_bind]
      apply (each index item).bind
      intro shown
      apply (ih (index + 1)).bind
      intro rest
      exact .refl _

theorem cutShort_atDepth {helpers : Registry σ} {low high : Nat} (lower : low ≤ high)
    (depth : Nat) {short full : Attempt Text} (inBody : CutShort low short.outcome full.outcome) :
    CutShort low (atDepth ⟨helpers, low⟩ depth short).outcome
      (atDepth ⟨helpers, high⟩ depth full).outcome := by
  rw [atDepth, atDepth]
  split
  · exact .inl rfl
  · rename_i reached
    rw [if_neg (by simp only at reached ⊢; omega)]
    exact inBody

variable [Host σ] {helpers : Registry σ} {low high : Nat}

mutual

theorem cutShort_renderNode (lower : low ≤ high) (scope : Scope σ) (depth : Nat) (node : Node) :
    CutShort low (renderNode ⟨helpers, low⟩ scope depth node).outcome
      (renderNode ⟨helpers, high⟩ scope depth node).outcome := by
  cases node with
  | line text => exact .refl _
  | conditional clauses => exact cutShort_renderClauses lower scope depth 1 clauses.length clauses
  | iteration name expression body =>
      rw [outcome_renderNode_iteration, outcome_renderNode_iteration]
      apply (CutShort.refl _).bind
      intro items
      apply cutShort_forItems
      intro index item
      exact cutShort_atDepth lower (depth + 1) (cutShort_renderNodes lower _ (depth + 1) body)

theorem cutShort_renderNodes (lower : low ≤ high) (scope : Scope σ) (depth : Nat)
    (nodes : List Node) :
    CutShort low (renderNodes ⟨helpers, low⟩ scope depth nodes).outcome
      (renderNodes ⟨helpers, high⟩ scope depth nodes).outcome := by
  cases nodes with
  | nil => exact .refl _
  | cons node others =>
      simp only [renderNodes, Attempt.outcome_bind]
      apply (cutShort_renderNode lower scope depth node).bind
      intro shown
      apply (cutShort_renderNodes lower scope depth others).bind
      intro rest
      exact .refl _

theorem cutShort_renderClauses (lower : low ≤ high) (scope : Scope σ)
    (depth position count : Nat) (clauses : List (Option Text × List Node)) :
    CutShort low (renderClauses ⟨helpers, low⟩ scope depth position count clauses).outcome
      (renderClauses ⟨helpers, high⟩ scope depth position count clauses).outcome := by
  cases clauses with
  | nil => exact .refl _
  | cons clause others =>
      rcases clause with ⟨condition, body⟩
      have inBody : CutShort low
          (atDepth ⟨helpers, low⟩ (depth + 1)
            (renderNodes ⟨helpers, low⟩ scope (depth + 1) body)).outcome
          (atDepth ⟨helpers, high⟩ (depth + 1)
            (renderNodes ⟨helpers, high⟩ scope (depth + 1) body)).outcome :=
        cutShort_atDepth lower (depth + 1) (cutShort_renderNodes lower scope (depth + 1) body)
      cases condition with
      | none => exact inBody
      | some text =>
          rw [outcome_renderClauses_some, outcome_renderClauses_some]
          split
          · exact inBody
          · exact cutShort_renderClauses lower scope depth _ _ others

end

/-- A render with a lower limit fails with that limit or gives what one with a higher limit
gives. -/
theorem cutShort_render (lower : low ≤ high) (scope : Scope σ) (template : Text) :
    CutShort low (render ⟨helpers, low⟩ scope template).outcome
      (render ⟨helpers, high⟩ scope template).outcome := by
  rw [render, render, Attempt.outcome_bind, Attempt.outcome_bind]
  refine CutShort.bind ?_ ?_
  · exact cutShort_atDepth lower 0 (cutShort_renderNodes lower scope 0 _)
  · intro expanded
    exact .refl _

theorem render_outcome_ne_nesting {helpers : Registry σ} {scope : Scope σ} {template : Text}
    (room : (Comment.strip template).count '{' ≤ low) (quiet : helpers.Quiet) (limit : Nat) :
    (render ⟨helpers, low⟩ scope template).outcome ≠ .error (.nesting limit) := by
  intro failed
  have height := Node.nodesHeight_parse (Comment.strip template)
  cases render_failed failed with
  | nesting deep =>
      simp only at deep
      omega
  | helper made fails => exact quiet.notFails _ limit fails

/-- A lower limit cuts a render short or does not show. A template with no more opening braces
than the limit does not reach it, so that only a helper could return the error of a limit. -/
theorem render_maxDepth (helpers : Registry σ) (scope : Scope σ) (template : Text) :
    (∀ low high, low ≤ high →
      (render ⟨helpers, low⟩ scope template).outcome = .error (.nesting low) ∨
        (render ⟨helpers, low⟩ scope template).outcome =
          (render ⟨helpers, high⟩ scope template).outcome) ∧
    (∀ maxDepth, (Comment.strip template).count '{' ≤ maxDepth → helpers.Quiet →
      ∀ limit, (render ⟨helpers, maxDepth⟩ scope template).outcome ≠ .error (.nesting limit)) := by
  refine ⟨?_, ?_⟩
  · intro low high lower
    exact cutShort_render lower scope template
  · intro maxDepth room quiet limit
    exact render_outcome_ne_nesting room quiet limit

/-- A loop within a choice, both over one variable. -/
def nested : List Markup :=
  let member : Enclosed := ⟨"Context.a".toList, by decide, by decide, by decide⟩
  let header : LoopHeader :=
    ⟨['x'], member, by decide, List.all_eq_true.mp (by decide), by decide, by decide⟩
  let line : PlainLine := ⟨['h', 'i'], by decide, by decide, by decide, by decide⟩
  [.choice member [.loop header [.line line]] .close]

/-- A scope in which both regions of the template render their body. -/
def selecting : Scope Empty :=
  .set .empty "a" (.int 7)

theorem resolve_selecting : Expression.resolve selecting "Context.a".toList = pure (.int 7) := by
  let name : Path.Name := ⟨['a'], by decide, by decide, List.all_eq_true.mp (by decide)⟩
  have written : Expression.dotted [name] = "Context.a".toList := rfl
  have bound : selecting.get? "a" = some (.int 7) :=
    rfl
  have spelled : String.ofList name.text = "a" :=
    rfl
  rw [← written, Expression.resolve_dotted_single, Expression.root, spelled, bound]

/-- The limit counts both bodies. The loop goes through the value of its variable as its own single
item. -/
theorem denoteAll_nested (renderer : Renderer Empty) (depth : Nat) :
    Markup.denoteAll renderer selecting depth nested =
      Markup.within renderer (depth + 2) (.ok ['h', 'i', '\n']) := by
  let test : Condition.PathTest := ⟨"Context.a".toList, by decide, by decide, by decide⟩
  have selected : (Condition.holdsIn selecting "Context.a".toList).value = true := by
    rw [Condition.holdsIn_pathTest _ test, resolve_selecting]
    rfl
  have line (scope : Scope Empty) :
      (Interpolation.resolveText renderer.helpers scope ['h', 'i', '\n']).outcome =
        .ok ['h', 'i', '\n'] :=
    Interpolation.outcome_resolveText_of_notMem _ _ (by decide)
  rw [← Markup.within_within renderer (Nat.le_succ (depth + 1))]
  simp only [nested, Markup.denoteAll, Markup.denote, selected, resolve_selecting,
    Traced.value_pure, if_true, PlainLine.text, List.cons_append, List.nil_append, line]
  unfold Markup.within
  split
  · rfl
  · split <;> rfl

theorem strip_nested : Comment.strip (Markup.print nested) = Markup.print nested := by
  have starless : '*' ∉ Markup.print nested := by
    rw [← List.count_eq_zero]
    rfl
  exact Comment.strip_of_commentFree (Comment.not_occurs_of_notMem starless)

theorem outcome_render_nested (helpers : Registry Empty) (maxDepth : Nat) :
    (render ⟨helpers, maxDepth⟩ selecting (Markup.print nested)).outcome =
      Markup.within ⟨helpers, maxDepth⟩ 2 (.ok ['h', 'i', '\n']) := by
  have expanded : (renderBlocks ⟨helpers, maxDepth⟩ selecting 0 (Markup.print nested)).outcome =
      Markup.within ⟨helpers, maxDepth⟩ 2 (.ok ['h', 'i', '\n']) := by
    rw [renderBlocks, outcome_atDepth, Markup.print, Markup.parse_writeAll,
      Markup.outcome_renderNodes, denoteAll_nested, Markup.within_within _ (Nat.zero_le _)]
  have plain : (Interpolation.resolveText helpers selecting ['h', 'i', '\n']).outcome =
      .ok ['h', 'i', '\n'] :=
    Interpolation.outcome_resolveText_of_notMem _ _ (by decide)
  rw [render, strip_nested, Attempt.outcome_bind, expanded, Markup.within]
  split
  · rfl
  · exact plain

/-- Two regions within each other go beyond a limit of one. They just reach a limit of two, which
is the number of their braces, and do not show a limit of three. -/
theorem render_maxDepth_nested :
    let template :=
      "@if (Context.a) \x7b\n@foreach (var x in Context.a) \x7b\nhi\n\x7d\n\x7d\n".toList
    let outcome := fun maxDepth => (render ⟨.failing, maxDepth⟩ selecting template).outcome
    Markup.print nested = template ∧ Registry.failing.Quiet ∧
      1 ≤ 2 ∧ (outcome 1 = .error (.nesting 1) ∨ outcome 1 = outcome 2) ∧
      outcome 1 = .error (.nesting 1) ∧ outcome 2 = .ok ['h', 'i', '\n'] ∧
      2 ≤ 3 ∧ outcome 3 = .ok ['h', 'i', '\n'] ∧
      (Comment.strip template).count '{' ≤ 2 ∧ ∀ limit, outcome 2 ≠ .error (.nesting limit) := by
  intro template outcome
  have written : Markup.print nested = template := rfl
  have beyond : outcome 1 = .error (.nesting 1) := outcome_render_nested .failing 1
  have reached : outcome 2 = .ok ['h', 'i', '\n'] := outcome_render_nested .failing 2
  have quiet : Registry.failing.Quiet := by
    intro entry added value argument limit
    rcases List.mem_singleton.mp added with rfl
    simp
  have room : (Comment.strip template).count '{' ≤ 2 := by
    rw [← written, strip_nested]
    decide
  have limits := render_maxDepth .failing selecting template
  have further : outcome 3 = .ok ['h', 'i', '\n'] := by
    rcases limits.1 2 3 (by decide) with cut | same
    · have failed : outcome 2 = .error (.nesting 2) := cut
      rw [reached] at failed
      contradiction
    · exact same.symm.trans reached
  exact ⟨written, quiet, by decide, limits.1 1 2 (by decide), beyond, reached, by decide, further,
    room, limits.2 2 room quiet⟩

end Renderer

end TextTemplate
