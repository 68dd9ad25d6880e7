import TextTemplate.Proofs.Markup.Scanning
import TextTemplate.Template.Tree

/-!
# Reading markup

The text of a markup tree is parsed into the nodes that the tree stands for.

One thing is read that the tree does not have. The indentation of the line that closes a body is
dropped only behind a line end, and an empty body has none: the line end behind its opening brace
belongs to the header. `Markup.residue` is what such an indentation leaves in the body, and
`Markup.parse_writeAll` is the law for every tree and every choice of indentations.
-/

namespace TextTemplate

/-- What the indentation of a closing brace leaves in the body before it. -/
def Markup.residue (margin : Margin) : List Markup → List Node
  | [] => if margin.text = [] then [] else [.line margin.text]
  | _ :: _ => []

mutual

/-- The node of a template that a node of markup stands for. -/
def Markup.node (margins : Margins) : Markup → Node
  | .line line => .line line.text
  | .choice condition body rest =>
    .conditional ((some condition.text,
      Markup.residue (margins.behind body).next body ++ Markup.nodes (margins.drop 1) body) ::
      rest.clauses (margins.behind body))
  | .loop header body =>
    .iteration header.name header.collection.text
      (Markup.residue (margins.behind body).next body ++ Markup.nodes (margins.drop 1) body)

/-- The nodes of a template that a block of markup stands for. -/
def Markup.nodes (margins : Margins) : List Markup → List Node
  | [] => []
  | node :: others => node.node margins :: Markup.nodes (margins.drop node.delimiters) others

/-- The clauses behind the first one, with their bodies as nodes. -/
def Alternatives.clauses (margins : Margins) : Alternatives → List (Option Text × List Node)
  | .close => []
  | .otherwise body =>
    [(none, Markup.residue (margins.behind body).next body ++ Markup.nodes (margins.drop 1) body)]
  | .elseIf condition body rest =>
    (some condition.text,
      Markup.residue (margins.behind body).next body ++ Markup.nodes (margins.drop 1) body) ::
      rest.clauses (margins.behind body)

end

/-! ## Flush markup -/

theorem Markup.residue_none (block : List Markup) : Markup.residue .none block = [] := by
  cases block with
  | nil => rfl
  | cons node others => rfl

@[simp]
theorem Markup.node_flush_choice (condition : Enclosed) (body : List Markup)
    (rest : Alternatives) :
    (Markup.choice condition body rest).node .flush =
      .conditional ((some condition.text, Markup.nodes .flush body) :: rest.clauses .flush) := by
  rw [Markup.node, Margins.drop_flush, Margins.behind_flush, Margins.next_flush,
    Markup.residue_none, List.nil_append]

@[simp]
theorem Markup.node_flush_loop (header : LoopHeader) (body : List Markup) :
    (Markup.loop header body).node .flush =
      .iteration header.name header.collection.text (Markup.nodes .flush body) := by
  rw [Markup.node, Margins.drop_flush, Margins.behind_flush, Margins.next_flush,
    Markup.residue_none, List.nil_append]

@[simp]
theorem Alternatives.clauses_flush_otherwise (body : List Markup) :
    (Alternatives.otherwise body).clauses .flush = [(none, Markup.nodes .flush body)] := by
  rw [Alternatives.clauses, Margins.drop_flush, Margins.behind_flush, Margins.next_flush,
    Markup.residue_none, List.nil_append]

@[simp]
theorem Alternatives.clauses_flush_elseIf (condition : Enclosed) (body : List Markup)
    (rest : Alternatives) :
    (Alternatives.elseIf condition body rest).clauses .flush =
      (some condition.text, Markup.nodes .flush body) :: rest.clauses .flush := by
  rw [Alternatives.clauses, Margins.drop_flush, Margins.behind_flush, Margins.next_flush,
    Markup.residue_none, List.nil_append]

/-! ## Line ends -/

theorem Alternatives.getLast?_write (margins : Margins) (rest : Alternatives) :
    (rest.write margins).getLast? = some '\n' := by
  cases rest with
  | close => rfl
  | otherwise body =>
      rw [Alternatives.write, List.getLast?_append]
      rfl
  | elseIf condition body rest =>
      rw [Alternatives.write, List.getLast?_append, rest.getLast?_write]
      rfl

theorem Markup.getLast?_write (margins : Margins) (node : Markup) :
    (node.write margins).getLast? = some '\n' := by
  cases node with
  | line line => simp [Markup.write, PlainLine.text]
  | choice condition body rest => simp [Markup.write, rest.getLast?_write]
  | loop header body => simp [Markup.write]

theorem Markup.getLast?_writeAll (margins : Margins) (node : Markup) (others : List Markup) :
    (Markup.writeAll margins (node :: others)).getLast? = some '\n' := by
  induction others generalizing margins node with
  | nil => simp [Markup.writeAll, node.getLast?_write]
  | cons following others ih =>
      rw [Markup.writeAll, List.getLast?_append, ih]
      rfl

/-! ## Parsing -/

namespace Node

/-- Blanks without a line end are a line of plain text. -/
theorem parse_margin (margin : Margin) :
    parse margin.text = if margin.text = [] then [] else [.line margin.text] := by
  split
  · rename_i empty
    rw [empty, parse_nil]
  · rename_i notEmpty
    have plain : Region.first? margin.text = none := by
      have bare := Region.first?_indented margin []
      rwa [List.append_nil, Region.first?_nil] at bare
    have line := Text.firstLine_append margin.notMem_lineEnd []
    have behind := Text.afterFirstLine_append margin.notMem_lineEnd []
    rw [List.append_nil] at line behind
    rw [parse_line notEmpty plain, line, behind]
    simp [Text.firstLine, Text.afterFirstLine]

end Node

/-- The body that is found for a block is parsed as the block, up to the residue of the last
indentation. -/
theorem Markup.parse_bodyText {margins : Margins} {block : List Markup}
    (parsed : Node.parse (Markup.writeAll margins block) = Markup.nodes margins block) :
    Node.parse (Markup.bodyText margins block) =
      Markup.residue (margins.drop (Markup.countDelimiters block)).next block ++
        Markup.nodes margins block := by
  rw [Markup.bodyText]
  generalize (margins.drop (Markup.countDelimiters block)).next = margin
  cases block with
  | nil =>
      rw [Markup.writeAll, List.nil_append, Text.dropBlankTail_of_notMem margin.notMem_lineEnd,
        Node.parse_margin, Markup.residue, Markup.nodes, List.append_nil]
  | cons node others =>
      have ended := Markup.getLast?_writeAll margins node others
      rw [List.getLast?_eq_some_iff] at ended
      rcases ended with ⟨front, written⟩
      have dropped := Text.dropBlankTail_append margin.blank margin.notMem_lineEnd front
      rw [written] at parsed ⊢
      rw [List.append_assoc, List.singleton_append, dropped, parsed]
      rfl

mutual

theorem Markup.parse_write (margins : Margins) (node : Markup) (behind : Text) :
    Node.parse (node.write margins ++ behind) = node.node margins :: Node.parse behind := by
  cases node with
  | line line =>
      have notEmpty : line.text ++ behind ≠ [] := by simp [PlainLine.text]
      have here : Text.firstLine (line.text ++ behind) = line.text := by
        rw [PlainLine.text, List.append_assoc, Text.firstLine_append line.single]
        simp
      have after : Text.afterFirstLine (line.text ++ behind) = behind := by
        rw [PlainLine.text, List.append_assoc, Text.afterFirstLine_append line.single]
        simp
      rw [Markup.write, Node.parse_line notEmpty (Region.first?_plain line behind), here, after]
      rfl
  | choice condition body rest =>
      rw [Node.parse_conditional (Region.first?_choice margins condition body rest behind),
        Node.parseClauses_cons, rest.parse_found,
        Markup.parse_bodyText (Markup.parse_writeAll _ body), Margins.drop_drop]
      rfl
  | loop header body =>
      rw [Node.parse_iteration (Region.first?_loop margins header body behind),
        Markup.parse_bodyText (Markup.parse_writeAll _ body), Margins.drop_drop]
      rfl

/-- The text of a block is parsed into the nodes of the block. -/
theorem Markup.parse_writeAll (margins : Margins) (block : List Markup) :
    Node.parse (Markup.writeAll margins block) = Markup.nodes margins block := by
  cases block with
  | nil => exact Node.parse_nil
  | cons node others =>
      rw [Markup.writeAll, node.parse_write margins, Markup.parse_writeAll _ others]
      rfl

theorem Alternatives.parse_found (margins : Margins) (rest : Alternatives) :
    Node.parseClauses (rest.found margins) = rest.clauses margins := by
  cases rest with
  | close => exact Node.parseClauses_nil
  | otherwise body =>
      rw [Alternatives.found, Node.parseClauses_cons, Node.parseClauses_nil,
        Markup.parse_bodyText (Markup.parse_writeAll _ body), Margins.drop_drop]
      rfl
  | elseIf condition body rest =>
      rw [Alternatives.found, Node.parseClauses_cons, rest.parse_found,
        Markup.parse_bodyText (Markup.parse_writeAll _ body), Margins.drop_drop]
      rfl

end

end TextTemplate
