import TextTemplate.Proofs.Parts
import TextTemplate.Template.Tree

/-!
# Nesting

Every body of a template is a part of its text with fewer opening braces, so the regions of a
template nest no deeper than it has opening braces. The collections of its loops are the ones whose
headers stand in the text.

Both facts are proved by induction on the text of a template: `Node.parse_induction` goes from the
bodies of its first region and the text behind that to the whole.
-/

namespace TextTemplate

namespace Node

mutual

/-- How many regions are nested in each other. -/
def height : Node → Nat
  | .line _ => 0
  | .conditional clauses => clausesHeight clauses
  | .iteration _ _ body => nodesHeight body + 1

/-- The greatest height of a node among them. -/
def nodesHeight : List Node → Nat
  | [] => 0
  | node :: others => max node.height (nodesHeight others)

/-- The height of a region with these clauses: that of its highest body and one more. -/
def clausesHeight : List (Option Text × List Node) → Nat
  | [] => 0
  | (_, body) :: others => max (nodesHeight body + 1) (clausesHeight others)

end

mutual

/-- The collections of the loops within a node. -/
def collections : Node → List Text
  | .line _ => []
  | .conditional clauses => clausesCollections clauses
  | .iteration _ collection body => collection :: nodesCollections body

/-- The collections of the loops within the nodes, in their order. -/
def nodesCollections : List Node → List Text
  | [] => []
  | node :: others => node.collections ++ nodesCollections others

/-- The collections of the loops within the bodies of the clauses, in their order. -/
def clausesCollections : List (Option Text × List Node) → List Text
  | [] => []
  | (_, body) :: others => nodesCollections body ++ clausesCollections others

end

/-- What holds of a text if it holds of the bodies of its first region and of the text behind it
holds of every text. -/
theorem parse_induction {motive : Text → Prop} (nil : motive [])
    (line : ∀ text, text ≠ [] → Region.first? text = none → motive (Text.afterFirstLine text) →
      motive text)
    (conditional : ∀ text clauses behind,
      Region.first? text = some (.conditional clauses, behind) →
      (∀ clause ∈ clauses, motive clause.body) → motive behind → motive text)
    (iteration : ∀ text name collection body behind,
      Region.first? text = some (.iteration name collection body, behind) →
      motive body → motive behind → motive text)
    (text : Text) : motive text := by
  apply Node.parse.induct motive (fun clauses => ∀ clause ∈ clauses, motive clause.body)
  case case1 => exact nil
  case case2 =>
      intro c rest clauses behind found bodies ih
      exact conditional (c :: rest) clauses behind found bodies ih
  case case3 =>
      intro c rest name collection body behind found inner ih
      exact iteration (c :: rest) name collection body behind found inner ih
  case case4 =>
      intro c rest plain ih
      exact line (c :: rest) (List.cons_ne_nil _ _) plain ih
  case case5 => simp
  case case6 =>
      intro clause others first ih other listed
      rcases List.mem_cons.mp listed with rfl | listed
      · exact first
      · exact ih other listed

/-- The clauses of a region nest one level deeper than the deepest body. -/
theorem clausesHeight_parseClauses {limit : Nat} {clauses : List Clause}
    (bodies : ∀ clause ∈ clauses, nodesHeight (parse clause.body) < limit) :
    clausesHeight (parseClauses clauses) ≤ limit := by
  induction clauses with
  | nil =>
      rw [parseClauses_nil, clausesHeight]
      exact Nat.zero_le limit
  | cons clause others ih =>
      rw [parseClauses_cons, clausesHeight]
      have first := bodies clause (by simp)
      have second := ih fun other listed => bodies other (by simp [listed])
      omega

/-- A template nests no deeper than it has opening braces. -/
theorem nodesHeight_parse (text : Text) : nodesHeight (parse text) ≤ text.count '{' := by
  induction text using parse_induction with
  | nil =>
      rw [parse_nil, nodesHeight]
      exact Nat.zero_le _
  | line text notEmpty plain ih =>
      have fewer := (Text.afterFirstLine_suffix text).sublist.count_le '{'
      rw [parse_line notEmpty plain, nodesHeight, height]
      omega
  | conditional text clauses behind found bodies ih =>
      rcases Region.first?_conditional found with ⟨inside, suffix⟩
      have fewer := suffix.sublist.count_le '{'
      have inner : clausesHeight (parseClauses clauses) ≤ text.count '{' :=
        clausesHeight_parseClauses fun clause listed =>
          (bodies clause listed).trans_lt (inside clause listed).fewer
      rw [parse_conditional found, nodesHeight, height]
      omega
  | iteration text name collection body behind found inner ih =>
      rcases Region.first?_iteration found with ⟨inside, suffix, -⟩
      have fewer := suffix.sublist.count_le '{'
      have innerFewer := inside.fewer
      rw [parse_iteration found, nodesHeight, height]
      omega

theorem mem_clausesCollections {collection : Text} {clauses : List Clause}
    (listed : collection ∈ clausesCollections (parseClauses clauses)) :
    ∃ clause ∈ clauses, collection ∈ nodesCollections (parse clause.body) := by
  induction clauses with
  | nil =>
      rw [parseClauses_nil, clausesCollections] at listed
      contradiction
  | cons clause others ih =>
      rw [parseClauses_cons, clausesCollections, List.mem_append] at listed
      rcases listed with here | listed
      · exact ⟨clause, by simp, here⟩
      · rcases ih listed with ⟨other, place, there⟩
        exact ⟨other, by simp [place], there⟩

/-- The collections of the loops of a template stand in headers of its text. -/
theorem loopOccurs_of_mem {collection : Text} (text : Text)
    (listed : collection ∈ nodesCollections (parse text)) :
    Region.LoopOccurs collection text := by
  induction text using parse_induction with
  | nil =>
      rw [parse_nil, nodesCollections] at listed
      contradiction
  | line text notEmpty plain ih =>
      rw [parse_line notEmpty plain, nodesCollections, collections, List.nil_append] at listed
      exact (ih listed).of_part (Text.afterFirstLine_suffix text).isInfix
  | conditional text clauses behind found bodies ih =>
      rcases Region.first?_conditional found with ⟨inside, suffix⟩
      rw [parse_conditional found, nodesCollections, collections, List.mem_append] at listed
      rcases listed with here | listed
      · rcases mem_clausesCollections here with ⟨clause, place, there⟩
        exact (bodies clause place there).of_part (inside clause place).part
      · exact (ih listed).of_part suffix.isInfix
  | iteration text name looped body behind found inner ih =>
      rcases Region.first?_iteration found with ⟨inside, suffix, occurs⟩
      rw [parse_iteration found, nodesCollections, collections, List.mem_append,
        List.mem_cons] at listed
      rcases listed with (rfl | here) | listed
      · exact occurs
      · exact (inner here).of_part inside.part
      · exact (ih listed).of_part suffix.isInfix

end Node

end TextTemplate
