import TextTemplate.Proofs.Nesting
import TextTemplate.Template.Render

/-!
# Failures

Rendering stops for one of three causes: a loop goes through a string, regions nest too deeply, or
a helper of the host fails. Nothing else ends it. Services that fail, names that lead nowhere and
regions that are not well formed leave a blank or plain text.

The first two causes are read off the template. For the third the applications of helpers are
followed through a render: `Renderer.Calls` says that a render comes to apply a helper to a value
and an argument, everything before having succeeded.
-/

namespace TextTemplate

variable {σ : Type}

/-- An application of a helper. -/
structure HelperCall (σ : Type) where
  name : Text
  value : Value σ
  argument : Option Text

/-- The call is answered with an error by a helper that was added under its name. -/
def HelperCall.Fails (call : HelperCall σ) (registry : Registry σ) (cause : Error) : Prop :=
  ∃ helper, Entries.get? (Unicode.foldName (String.ofList call.name)) registry.added = some helper ∧
    helper call.value call.argument = .error cause

/-- Only helpers that were added fail. -/
theorem Registry.apply_failed {registry : Registry σ} {call : HelperCall σ} {cause : Error}
    (failed : (registry.apply call.value (String.ofList call.name) call.argument).outcome =
      .error cause) : call.Fails registry cause := by
  rw [Registry.apply] at failed
  split at failed
  · rename_i helper added
    exact ⟨helper, added, failed⟩
  · split at failed
    · contradiction
    · contradiction

variable [Host σ]

/-! ## Calls of a render -/

namespace Interpolation

/-- Passing a value through a chain comes to a call. -/
inductive StageCalls (registry : Registry σ) : Value σ → List Stage → HelperCall σ → Prop where
  | here (value : Value σ) (stage : Stage) (others : List Stage) :
      StageCalls registry value (stage :: others) ⟨stage.name, value, stage.argument⟩
  | behind {value next : Value σ} {stage : Stage} {others : List Stage} {call : HelperCall σ}
      (applied : (registry.apply value (String.ofList stage.name) stage.argument).outcome =
        .ok next)
      (later : StageCalls registry next others call) :
      StageCalls registry value (stage :: others) call

/-- Replacing the spans of a text comes to a call. -/
inductive Calls (registry : Registry σ) (scope : Scope σ) :
    List Segment → HelperCall σ → Prop where
  | plain {c : Char} {others : List Segment} {call : HelperCall σ}
      (later : Calls registry scope others call) : Calls registry scope (.plain c :: others) call
  | here {inner expression : Text} {stages : List Stage} {others : List Segment}
      {call : HelperCall σ} (chain : Span.ofText inner = .chain expression stages)
      (inChain : StageCalls registry (Expression.resolve scope expression).value stages call) :
      Calls registry scope (.span inner :: others) call
  | behind {inner shown : Text} {others : List Segment} {call : HelperCall σ}
      (before : (resolveSpan registry scope (Span.ofText inner)).outcome = .ok shown)
      (later : Calls registry scope others call) : Calls registry scope (.span inner :: others) call

omit [Host σ] in
theorem applyStages_failed {registry : Registry σ} {value : Value σ} {stages : List Stage}
    {cause : Error} (failed : (applyStages registry value stages).outcome = .error cause) :
    ∃ call, StageCalls registry value stages call ∧ call.Fails registry cause := by
  induction stages generalizing value with
  | nil => contradiction
  | cons stage others ih =>
      rw [applyStages, Attempt.outcome_bind_eq_error] at failed
      rcases failed with here | ⟨next, applied, later⟩
      · exact ⟨⟨stage.name, value, stage.argument⟩, .here value stage others,
          Registry.apply_failed here⟩
      · rcases ih later with ⟨call, made, fails⟩
        exact ⟨call, .behind applied made, fails⟩

theorem resolveSpan_failed {registry : Registry σ} {scope : Scope σ} {span : Span} {cause : Error}
    (failed : (resolveSpan registry scope span).outcome = .error cause) :
    ∃ expression stages call, span = .chain expression stages ∧
      StageCalls registry (Expression.resolve scope expression).value stages call ∧
      call.Fails registry cause := by
  cases span with
  | fallback expression other => contradiction
  | chain expression stages =>
      rw [resolveSpan, Attempt.outcome_bind_eq_error] at failed
      rcases failed with resolved | ⟨value, resolved, failed⟩
      · contradiction
      · rcases Except.ok.inj resolved with rfl
        rw [Attempt.outcome_bind_eq_error] at failed
        rcases failed with failed | ⟨result, -, failed⟩
        · rcases applyStages_failed failed with ⟨call, made, fails⟩
          exact ⟨expression, stages, call, rfl, made, fails⟩
        · contradiction

/-- Replacing the spans of a text fails only with a helper. -/
theorem resolveSegments_failed {registry : Registry σ} {scope : Scope σ} {segments : List Segment}
    {cause : Error} (failed : (resolveSegments registry scope segments).outcome = .error cause) :
    ∃ call, Calls registry scope segments call ∧ call.Fails registry cause := by
  induction segments with
  | nil => contradiction
  | cons segment others ih =>
      cases segment with
      | plain c =>
          rw [resolveSegments, Attempt.outcome_bind_eq_error] at failed
          rcases failed with failed | ⟨rest, -, failed⟩
          · rcases ih failed with ⟨call, made, fails⟩
            exact ⟨call, .plain made, fails⟩
          · contradiction
      | span inner =>
          rw [resolveSegments, Attempt.outcome_bind_eq_error] at failed
          rcases failed with here | ⟨shown, before, failed⟩
          · rcases resolveSpan_failed here with ⟨expression, stages, call, chain, made, fails⟩
            exact ⟨call, .here chain made, fails⟩
          · rw [Attempt.outcome_bind_eq_error] at failed
            rcases failed with failed | ⟨rest, -, failed⟩
            · rcases ih failed with ⟨call, made, fails⟩
              exact ⟨call, .behind before made, fails⟩
            · contradiction

end Interpolation

namespace Renderer

theorem collection_failed {scope : Scope σ} {expression : Text} {cause : Error}
    (failed : (collection scope expression).outcome = .error cause) :
    cause = .stringCollection (String.ofList expression) := by
  rw [outcome_collection] at failed
  split at failed
  · exact (Except.error.inj failed).symm
  · contradiction

omit [Host σ] in
/-- If items fail, one of them does, and those before it have been rendered. -/
theorem forItems_failed {render : Nat → Value σ × Option String → Attempt Text} {index : Nat}
    {items : List (Value σ × Option String)} {cause : Error}
    (failed : (forItems render index items).outcome = .error cause) :
    ∃ front item others shown, items = front ++ item :: others ∧
      (forItems render index front).outcome = .ok shown ∧
      (render (index + front.length) item).outcome = .error cause := by
  induction items generalizing index with
  | nil => contradiction
  | cons item others ih =>
      rw [forItems, Attempt.outcome_bind_eq_error] at failed
      rcases failed with here | ⟨shown, before, failed⟩
      · exact ⟨[], item, others, [], rfl, rfl, here⟩
      · rw [Attempt.outcome_bind_eq_error] at failed
        rcases failed with later | ⟨rest, -, failed⟩
        · rcases ih later with ⟨front, next, behind, text, rfl, rendered, failed⟩
          refine ⟨item :: front, next, behind, shown ++ text, rfl, ?_, ?_⟩
          · simp only [forItems, Attempt.outcome_bind, before, rendered]
            rfl
          · rw [List.length_cons, ← Nat.add_assoc, Nat.add_right_comm]
            exact failed
        · contradiction

mutual

/-- Rendering nodes comes to a call. -/
inductive NodesCall (renderer : Renderer σ) :
    Scope σ → Nat → List Node → HelperCall σ → Prop where
  | here {scope : Scope σ} {depth : Nat} {node : Node} {others : List Node} {call : HelperCall σ}
      (inNode : NodeCalls renderer scope depth node call) :
      NodesCall renderer scope depth (node :: others) call
  | behind {scope : Scope σ} {depth : Nat} {node : Node} {others : List Node}
      {call : HelperCall σ} {shown : Text}
      (before : (renderer.renderNode scope depth node).outcome = .ok shown)
      (later : NodesCall renderer scope depth others call) :
      NodesCall renderer scope depth (node :: others) call

/-- Rendering a node comes to a call. -/
inductive NodeCalls (renderer : Renderer σ) : Scope σ → Nat → Node → HelperCall σ → Prop where
  | line {scope : Scope σ} {depth : Nat} {text : Text} {call : HelperCall σ}
      (inText : Interpolation.Calls renderer.helpers scope (Segment.ofText text) call) :
      NodeCalls renderer scope depth (.line text) call
  | conditional {scope : Scope σ} {depth : Nat} {clauses : List (Option Text × List Node)}
      {call : HelperCall σ} (inClauses : ClausesCall renderer scope depth clauses call) :
      NodeCalls renderer scope depth (.conditional clauses) call
  | iteration {scope : Scope σ} {depth : Nat} {name expression shown : Text} {body : List Node}
      {front others : List (Value σ × Option String)} {item : Value σ × Option String}
      {call : HelperCall σ}
      (items : (collection scope expression).outcome = .ok (front ++ item :: others))
      (before : (forItems (renderer.renderItem scope depth name body) 0 front).outcome = .ok shown)
      (room : depth < renderer.maxDepth)
      (inBody : NodesCall renderer
        (itemScope scope (String.ofList name) item.1 front.length item.2) (depth + 1) body call) :
      NodeCalls renderer scope depth (.iteration name expression body) call

/-- Rendering the clause that is chosen comes to a call. -/
inductive ClausesCall (renderer : Renderer σ) :
    Scope σ → Nat → List (Option Text × List Node) → HelperCall σ → Prop where
  | chosen {scope : Scope σ} {depth : Nat} {condition : Option Text} {body : List Node}
      {others : List (Option Text × List Node)} {call : HelperCall σ}
      (holds : ∀ text ∈ condition, (Condition.holdsIn scope text).value = true)
      (room : depth < renderer.maxDepth)
      (inBody : NodesCall renderer scope (depth + 1) body call) :
      ClausesCall renderer scope depth ((condition, body) :: others) call
  | other {scope : Scope σ} {depth : Nat} {condition : Text} {body : List Node}
      {others : List (Option Text × List Node)} {call : HelperCall σ}
      (rejected : (Condition.holdsIn scope condition).value = false)
      (inOthers : ClausesCall renderer scope depth others call) :
      ClausesCall renderer scope depth ((some condition, body) :: others) call

end

/-- Rendering a template comes to a call, in its regions or in the text that these leave. -/
inductive Calls (renderer : Renderer σ) (scope : Scope σ) (template : Text) :
    HelperCall σ → Prop where
  | inRegions {call : HelperCall σ}
      (inNodes : NodesCall renderer scope 0 (Node.parse (Comment.strip template)) call) :
      Calls renderer scope template call
  | inExpanded {call : HelperCall σ} {expanded : Text}
      (before : (renderer.renderBlocks scope 0 (Comment.strip template)).outcome = .ok expanded)
      (inText : Interpolation.Calls renderer.helpers scope (Segment.ofText expanded) call) :
      Calls renderer scope template call

/-! ## Causes -/

/-- The causes for which rendering can stop, given the collections of its loops, the depth that its
regions begin at and nest from there, and the calls that it comes to. -/
inductive Failure (renderer : Renderer σ) (collections : List Text) (depth height : Nat)
    (calls : HelperCall σ → Prop) : Error → Prop where
  | collection {expression : Text} (listed : expression ∈ collections) :
      Failure renderer collections depth height calls
        (.stringCollection (String.ofList expression))
  | nesting (deep : renderer.maxDepth < depth + height) :
      Failure renderer collections depth height calls (.nesting renderer.maxDepth)
  | helper {call : HelperCall σ} {cause : Error} (made : calls call)
      (fails : call.Fails renderer.helpers cause) :
      Failure renderer collections depth height calls cause

namespace Failure

variable {renderer : Renderer σ} {collections others : List Text} {depth inner outer : Nat}
  {calls further : HelperCall σ → Prop} {cause : Error}

omit [Host σ] in
theorem mono (failure : Failure renderer collections depth inner calls cause)
    (listed : collections ⊆ others) (higher : inner ≤ outer)
    (made : ∀ call, calls call → further call) :
    Failure renderer others depth outer further cause := by
  cases failure with
  | collection here => exact .collection (listed here)
  | nesting deep => exact .nesting (by omega)
  | helper call fails => exact .helper (made _ call) fails

omit [Host σ] in
/-- The causes for a body become those of its region. -/
theorem body {body : Attempt Text}
    (inBody : ∀ cause, body.outcome = .error cause →
      Failure renderer collections (depth + 1) inner calls cause)
    (failed : (atDepth renderer (depth + 1) body).outcome = .error cause) :
    Failure renderer collections depth (inner + 1)
      (fun call => depth < renderer.maxDepth ∧ calls call) cause := by
  rw [atDepth] at failed
  split at failed
  · rename_i deep
    rcases Except.error.inj failed with rfl
    exact .nesting (by omega)
  · rename_i room
    cases inBody cause failed with
    | collection here => exact .collection here
    | nesting deep => exact .nesting (by omega)
    | helper made fails => exact .helper ⟨by omega, made⟩ fails

end Failure

mutual

theorem renderNode_failed (renderer : Renderer σ) (scope : Scope σ) (depth : Nat) (node : Node)
    {cause : Error} (failed : (renderer.renderNode scope depth node).outcome = .error cause) :
    Failure renderer node.collections depth node.height (NodeCalls renderer scope depth node)
      cause := by
  cases node with
  | line text =>
      rcases Interpolation.resolveSegments_failed failed with ⟨call, made, fails⟩
      exact .helper (.line made) fails
  | conditional clauses =>
      rw [Node.collections, Node.height]
      apply (renderClauses_failed renderer scope depth _ _ clauses failed).mono
      · exact List.Subset.refl _
      · exact Nat.le_refl _
      · intro call made
        exact .conditional made
  | iteration name expression body =>
      rw [Node.collections, Node.height]
      rw [outcome_renderNode_iteration] at failed
      cases items : (collection scope expression).outcome with
      | error stopped =>
          rw [items] at failed
          rcases Except.error.inj failed with rfl
          rw [collection_failed items]
          exact .collection List.mem_cons_self
      | ok values =>
          rw [items] at failed
          rcases forItems_failed failed with ⟨front, item, others, shown, rfl, before, failed⟩
          rw [Nat.zero_add] at failed
          apply (Failure.body (fun cause failed =>
            renderNodes_failed renderer _ (depth + 1) body failed) failed).mono
          · exact List.subset_cons_self _ _
          · exact Nat.le_refl _
          · intro call made
            exact .iteration items before made.1 made.2

/-- What stops the rendering of nodes. -/
theorem renderNodes_failed (renderer : Renderer σ) (scope : Scope σ) (depth : Nat)
    (nodes : List Node) {cause : Error}
    (failed : (renderer.renderNodes scope depth nodes).outcome = .error cause) :
    Failure renderer (Node.nodesCollections nodes) depth (Node.nodesHeight nodes)
      (NodesCall renderer scope depth nodes) cause := by
  cases nodes with
  | nil => contradiction
  | cons node others =>
      rw [Node.nodesCollections, Node.nodesHeight]
      rw [renderNodes, Attempt.outcome_bind_eq_error] at failed
      rcases failed with here | ⟨shown, before, failed⟩
      · apply (renderNode_failed renderer scope depth node here).mono
        · exact List.subset_append_left _ _
        · exact Nat.le_max_left _ _
        · intro call made
          exact .here made
      · rw [Attempt.outcome_bind_eq_error] at failed
        rcases failed with later | ⟨rest, -, failed⟩
        · apply (renderNodes_failed renderer scope depth others later).mono
          · exact List.subset_append_right _ _
          · exact Nat.le_max_right _ _
          · intro call made
            exact .behind before made
        · contradiction

theorem renderClauses_failed (renderer : Renderer σ) (scope : Scope σ)
    (depth position count : Nat) (clauses : List (Option Text × List Node)) {cause : Error}
    (failed : (renderer.renderClauses scope depth position count clauses).outcome =
      .error cause) :
    Failure renderer (Node.clausesCollections clauses) depth (Node.clausesHeight clauses)
      (ClausesCall renderer scope depth clauses) cause := by
  cases clauses with
  | nil => contradiction
  | cons clause others =>
      rcases clause with ⟨condition, body⟩
      rw [Node.clausesCollections, Node.clausesHeight]
      have inBody (chosen : ∀ text ∈ condition, (Condition.holdsIn scope text).value = true)
          (failed : (atDepth renderer (depth + 1)
            (renderer.renderNodes scope (depth + 1) body)).outcome = .error cause) :
          Failure renderer (Node.nodesCollections body ++ Node.clausesCollections others) depth
            (max (Node.nodesHeight body + 1) (Node.clausesHeight others))
            (ClausesCall renderer scope depth ((condition, body) :: others)) cause := by
        apply (Failure.body (fun cause failed =>
          renderNodes_failed renderer scope (depth + 1) body failed) failed).mono
        · exact List.subset_append_left _ _
        · exact Nat.le_max_left _ _
        · intro call made
          exact .chosen chosen made.1 made.2
      cases condition with
      | none =>
          rw [outcome_renderClauses_none] at failed
          exact inBody (by simp) failed
      | some text =>
          rw [outcome_renderClauses_some] at failed
          split at failed
          · rename_i holds
            exact inBody (by simpa using holds) failed
          · rename_i rejected
            apply (renderClauses_failed renderer scope depth _ _ others failed).mono
            · exact List.subset_append_right _ _
            · exact Nat.le_max_right _ _
            · intro call made
              exact .other (by simpa using rejected) made

end

/-! ## Templates -/

/-- The errors that a template can cause by itself: a loop over a string, whose header stands in
the template without its comments, and regions that nest too deeply. -/
inductive OwnError (renderer : Renderer σ) (template : Text) : Error → Prop where
  | collection {expression : Text}
      (occurs : Region.LoopOccurs expression (Comment.strip template)) :
      OwnError renderer template (.stringCollection (String.ofList expression))
  | nesting : OwnError renderer template (.nesting renderer.maxDepth)

/-- What stops the rendering of a template. -/
theorem render_failed {renderer : Renderer σ} {scope : Scope σ} {template : Text} {cause : Error}
    (failed : (renderer.render scope template).outcome = .error cause) :
    Failure renderer (Node.nodesCollections (Node.parse (Comment.strip template))) 0
      (Node.nodesHeight (Node.parse (Comment.strip template)))
      (renderer.Calls scope template) cause := by
  rw [render, Attempt.outcome_bind_eq_error] at failed
  rcases failed with failed | ⟨expanded, before, failed⟩
  · rw [renderBlocks, atDepth, if_neg (Nat.not_lt_zero _)] at failed
    apply (renderNodes_failed renderer scope 0 _ failed).mono
    · exact List.Subset.refl _
    · exact Nat.le_refl _
    · intro call made
      exact .inRegions made
  · rcases Interpolation.resolveSegments_failed failed with ⟨call, made, fails⟩
    exact .helper (.inExpanded before made) fails

omit [Host σ] in
theorem Failure.own {renderer : Renderer σ} {template : Text} {cause : Error} {height : Nat}
    {calls : HelperCall σ → Prop}
    (failure : Failure renderer (Node.nodesCollections (Node.parse (Comment.strip template))) 0
      height calls cause) :
    OwnError renderer template cause ∨ ∃ call, calls call ∧ call.Fails renderer.helpers cause := by
  cases failure with
  | collection listed => exact .inl (.collection (Node.loopOccurs_of_mem _ listed))
  | nesting deep => exact .inl .nesting
  | helper made fails => exact .inr ⟨_, made, fails⟩

/-- Rendering succeeds or stops with an error of the template, and else with one that a helper of
the host has returned for a value and an argument that it was applied to. Without helpers of the
host, only the template can stop it. -/
theorem render_outcome (registry : Registry σ) (maxDepth : Nat) (scope : Scope σ)
    (template : Text) :
    ((∃ text, (render ⟨.builtin, maxDepth⟩ scope template).outcome = .ok text) ∨
      ∃ cause, (render ⟨.builtin, maxDepth⟩ scope template).outcome = .error cause ∧
        OwnError (⟨.builtin, maxDepth⟩ : Renderer σ) template cause) ∧
    ((∃ text, (render ⟨registry, maxDepth⟩ scope template).outcome = .ok text) ∨
      ∃ cause, (render ⟨registry, maxDepth⟩ scope template).outcome = .error cause ∧
        (OwnError ⟨registry, maxDepth⟩ template cause ∨
          ∃ call, Calls ⟨registry, maxDepth⟩ scope template call ∧ call.Fails registry cause)) := by
  refine ⟨?_, ?_⟩
  · cases result : (render ⟨.builtin, maxDepth⟩ scope template).outcome with
    | ok text => exact .inl ⟨text, rfl⟩
    | error cause =>
        refine .inr ⟨cause, rfl, ?_⟩
        rcases (render_failed result).own with own | ⟨call, -, helper, added, -⟩
        · exact own
        · contradiction
  · cases result : (render ⟨registry, maxDepth⟩ scope template).outcome with
    | ok text => exact .inl ⟨text, rfl⟩
    | error cause => exact .inr ⟨cause, rfl, (render_failed result).own⟩

end Renderer

end TextTemplate
