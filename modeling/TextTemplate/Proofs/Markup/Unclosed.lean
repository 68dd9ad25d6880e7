import TextTemplate.Command.Run
import TextTemplate.Proofs.Markup.Reading

/-!
# Missing closing lines

A body that is never closed goes to the end of the template. So the closing lines at the end of a
template may be left out, all of them or some: `Markup.renderBlocks_unclosed`.

Without these lines every region around the end of the template is unclosed. Its body is cut off
where the closing lines began, and what is left of it lacks one closing line less than the region.
That carries the induction on the tree (`Markup.parse_unclosed`, `Markup.parse_unclosedAll`): the
lines that are missing never reach beyond the last line with an opening brace, nor beyond the node
before the last one, because what is behind these is balanced.
-/

namespace TextTemplate

/-! ## Closing lines -/

namespace Text

/-- The text is empty or ends with a line end. -/
def EndsLine (text : Text) : Prop :=
  ∀ c ∈ text.getLast?, c = '\n'

/-- So many lines with a closing brace and nothing else. -/
def closingLines (count : Nat) : Text :=
  (List.replicate count ['}', '\n']).flatten

/-- What is kept of a text without so many closing lines at its end. -/
structure Unclosed (missing : Nat) (text kept : Text) : Prop where
  ends : EndsLine kept
  written : text = kept ++ closingLines missing

theorem endsLine_lineEnd (front : Text) : EndsLine (front ++ ['\n']) := by
  simp [EndsLine]

theorem endsLine_of_append (front : Text) {behind : Text} (ends : EndsLine (front ++ behind)) :
    EndsLine behind := by
  intro c last
  apply ends
  simp_all [List.getLast?_append]

theorem endsLine_append {front behind : Text} (frontEnds : EndsLine front)
    (behindEnds : EndsLine behind) : EndsLine (front ++ behind) := by
  intro c last
  rw [List.getLast?_append] at last
  cases ending : behind.getLast? with
  | none =>
      apply frontEnds
      simpa [ending] using last
  | some d =>
      apply behindEnds
      simpa [ending] using last

theorem closingLines_succ (count : Nat) :
    closingLines (count + 1) = '}' :: '\n' :: closingLines count := by
  simp [closingLines, List.replicate_succ]

theorem closingLines_add (first second : Nat) :
    closingLines (first + second) = closingLines first ++ closingLines second := by
  simp only [closingLines, ← List.replicate_append_replicate, List.flatten_append]

theorem closingLines_succ_last (count : Nat) :
    closingLines (count + 1) = closingLines count ++ ['}', '\n'] :=
  closingLines_add count 1

theorem endsLine_closingLines (count : Nat) : EndsLine (closingLines count) := by
  cases count with
  | zero => simp [EndsLine, closingLines]
  | succ count => simp [EndsLine, closingLines_succ_last]

theorem not_balanced_closingLines (count : Nat) : ¬Balanced (closingLines (count + 1)) := by
  rw [closingLines_succ]
  simp [Balanced, openBraces]

/-- At a line end closing lines are parted into closing lines. -/
theorem closingLines_parted {count : Nat} {front behind : Text} (ends : EndsLine front)
    (written : closingLines count = front ++ behind) :
    ∃ first second, front = closingLines first ∧ behind = closingLines second := by
  induction count generalizing front with
  | zero =>
      rcases List.append_eq_nil_iff.mp written.symm with ⟨rfl, rfl⟩
      exact ⟨0, 0, rfl, rfl⟩
  | succ count ih =>
      cases front with
      | nil => exact ⟨0, count + 1, rfl, written.symm⟩
      | cons c front =>
          rw [closingLines_succ, List.cons_append] at written
          rcases List.cons.inj written with ⟨rfl, afterBrace⟩
          cases front with
          | nil => simp [EndsLine] at ends
          | cons d front =>
              rcases List.cons.inj afterBrace with ⟨rfl, afterLine⟩
              rcases ih (endsLine_of_append ['}', '\n'] ends) afterLine with
                ⟨first, second, here, behind⟩
              refine ⟨first + 1, second, ?_, behind⟩
              rw [here, closingLines_succ]

namespace Unclosed

variable {missing : Nat} {front behind text kept : Text}

theorem eq_of_none (unclosed : Unclosed 0 text kept) : kept = text := by
  rw [unclosed.written, closingLines, List.replicate_zero, List.flatten_nil, List.append_nil]

/-- The last closing line is missing, so the rest of a text lacks one less. -/
theorem of_closed (unclosed : Unclosed (missing + 1) (text ++ ['}', '\n']) kept) :
    Unclosed missing text kept := by
  have written := unclosed.written
  rw [closingLines_succ_last, ← List.append_assoc] at written
  exact ⟨unclosed.ends, List.append_cancel_right written⟩

/-- The missing lines are part of what is behind a piece of text, or they reach into that piece and
are all that is behind it. -/
theorem parted (unclosed : Unclosed missing (front ++ behind) kept) (ends : EndsLine front) :
    (∃ inner, kept = front ++ inner ∧ Unclosed missing behind inner) ∨
      ∃ beyond rest, front = kept ++ closingLines (beyond + 1) ∧ behind = closingLines rest := by
  rcases List.append_eq_append_iff.mp unclosed.written with
    ⟨inner, rfl, written⟩ | ⟨beyond, rfl, written⟩
  · exact .inl ⟨inner, rfl, endsLine_of_append front unclosed.ends, written⟩
  · rcases closingLines_parted (endsLine_of_append kept ends) written with ⟨first, rest, rfl, rfl⟩
    cases first with
    | zero =>
        refine .inl ⟨[], ?_, ?_, written.symm⟩
        · simp [closingLines]
        · simp [EndsLine]
    | succ first => exact .inr ⟨first, rest, rfl, rfl⟩

/-- A line with an opening brace is no closing line. -/
theorem behind_opening (unclosed : Unclosed missing (front ++ behind) kept)
    (opening : ['{', '\n'] <:+ front) : ∃ inner, kept = front ++ inner ∧
      Unclosed missing behind inner := by
  rcases opening with ⟨before, rfl⟩
  have ends : EndsLine (before ++ ['{', '\n']) := by
    simp [EndsLine]
  rcases unclosed.parted ends with within | ⟨beyond, rest, reaches, -⟩
  · exact within
  · rw [closingLines_succ_last, ← List.append_assoc] at reaches
    have same := (List.append_inj' reaches rfl).2
    contradiction

/-- Closing lines are not balanced. -/
theorem behind_balanced (unclosed : Unclosed missing (front ++ behind) kept)
    (ends : EndsLine front) (balanced : Balanced behind) (nonempty : behind ≠ []) :
    ∃ inner, kept = front ++ inner ∧ Unclosed missing behind inner := by
  rcases unclosed.parted ends with within | ⟨beyond, rest, -, rfl⟩
  · exact within
  · cases rest with
    | zero => exact absurd rfl nonempty
    | succ rest => exact absurd balanced (not_balanced_closingLines rest)

/-- The braces of a balanced text without its last closing lines stay open. -/
theorem body (unclosed : Unclosed missing text kept) (balanced : Balanced text) :
    Region.body kept = (kept, none) := by
  have counted := balanced
  rw [Balanced, unclosed.written, openBraces_append, Option.bind_eq_some_iff] at counted
  rcases counted with ⟨inner, counted, -⟩
  have parts := Region.bodyFrom_append counted []
  rw [List.append_nil, Region.bodyFrom, List.append_nil] at parts
  have whole : dropBlankTail kept = kept := by
    have ends := unclosed.ends
    cases ending : kept.getLast? with
    | none =>
        rw [List.getLast?_eq_none_iff.mp ending]
        rfl
    | some c =>
        rw [List.getLast?_eq_some_iff] at ending
        rcases ending with ⟨front, rfl⟩
        rw [ends c (by simp)]
        exact @dropBlankTail_append [] (by simp) (by simp) front
  rw [Region.body, parts, whole]

end Unclosed

end Text

/-- A plain line is no closing line. -/
theorem PlainLine.not_unclosed (line : PlainLine) {missing : Nat} {kept : Text} :
    ¬Text.Unclosed (missing + 1) line.text kept := by
  intro unclosed
  have written := unclosed.written
  have atStart : kept = [] := by
    by_contra nonempty
    have content : line.content = kept ++ Text.closingLines missing ++ ['}'] := by
      rw [PlainLine.text, Text.closingLines_succ_last] at written
      apply (List.append_left_inj ['\n']).mp
      simpa using written
    have last := unclosed.ends (kept.getLast nonempty) (List.getLast_mem_getLast? nonempty)
    apply line.single
    rw [content, ← last]
    simp
  rw [atStart, List.nil_append] at written
  apply Text.not_balanced_closingLines missing
  rw [← written]
  exact line.balanced

/-! ## Regions -/

namespace Region

theorem clauses_unclosed {text bodyText : Text} (open? : body text = (bodyText, none))
    (condition : Option Text) : clauses condition text = ([⟨condition, bodyText⟩], []) := by
  rw [clauses]
  split <;> simp_all

end Region

/-! ## Markup -/

theorem Markup.endsLine_write (margins : Margins) (node : Markup) :
    Text.EndsLine (node.write margins) := by
  simp [Text.EndsLine, node.getLast?_write]

theorem Markup.opening_suffix (word header : Text) :
    ['{', '\n'] <:+ Markup.opening word header := by
  refine ⟨word ++ [' ', '('] ++ header ++ [')', ' '], ?_⟩
  simp [Markup.opening]

theorem Markup.write_flush_loop (header : LoopHeader) (body : List Markup) :
    (Markup.loop header body).write .flush =
      Markup.opening Region.foreachWord header.text ++
        (Markup.writeAll .flush body ++ ['}', '\n']) := by
  simp [Markup.write, Markup.closed, Margin.none]

theorem Markup.write_flush_choice (condition : Enclosed) (body : List Markup)
    (rest : Alternatives) :
    (Markup.choice condition body rest).write .flush =
      Markup.opening Region.ifWord condition.text ++
        (Markup.closed (Markup.writeAll .flush body) .none ++ rest.write .flush) := by
  simp [Markup.write, Margin.none]

theorem Markup.parse_bodyText_flush (block : List Markup) :
    Node.parse (Markup.bodyText .flush block) = Markup.nodes .flush block := by
  rw [Markup.parse_bodyText (Markup.parse_writeAll _ block), Margins.drop_flush,
    Margins.next_flush, Markup.residue_none, List.nil_append]

mutual

/-- A node whose last closing lines are missing is read as the node. -/
theorem Markup.parse_unclosed (node : Markup) {missing : Nat} {kept : Text}
    (unclosed : Text.Unclosed missing (node.write .flush) kept) :
    Node.parse kept = [node.node .flush] := by
  cases missing with
  | zero =>
      have whole := node.parse_write .flush []
      rw [List.append_nil, Node.parse_nil] at whole
      rw [unclosed.eq_of_none, whole]
  | succ missing =>
      cases node with
      | line line => exact absurd unclosed line.not_unclosed
      | loop header body =>
          rw [Markup.write_flush_loop] at unclosed
          rcases unclosed.behind_opening (Markup.opening_suffix _ _) with ⟨inner, rfl, behind⟩
          have within := behind.of_closed
          have open? := within.body (Markup.balanced_writeAll .flush body)
          have found : Region.first? (Markup.opening Region.foreachWord header.text ++ inner) =
              some (.iteration header.name header.collection.text inner, []) := by
            rw [Region.first?_foreachOpening, Region.iteration?,
              Region.header?_opening header.trim_text header.closing?_text]
            simp only [Option.bind_eq_bind, Option.bind_some, header.loopParts?_text, open?,
              Option.getD_none]
            rfl
          rw [Node.parse_iteration found, Markup.parse_unclosedAll body within, Node.parse_nil,
            Markup.node_flush_loop]
      | choice condition body rest =>
          rw [Markup.write_flush_choice] at unclosed
          rcases unclosed.behind_opening (Markup.opening_suffix _ _) with ⟨inner, rfl, behind⟩
          have read {missing : Nat} {kept : Text}
              (within : Text.Unclosed missing (Markup.writeAll .flush body) kept) :=
            Markup.parse_unclosedAll body within
          rcases rest.clauses_unclosed condition.text body read behind with
            ⟨clauses, scanned, parsed⟩
          have found : Region.first? (Markup.opening Region.ifWord condition.text ++ inner) =
              some (.conditional clauses, []) := by
            rw [Region.first?_ifOpening, Region.conditional?,
              Region.header?_opening condition.trimmed condition.closed, Option.map_some]
            simp only [scanned]
            rfl
          rw [Node.parse_conditional found, parsed, Node.parse_nil, Markup.node_flush_choice]

theorem Markup.parse_unclosedAll (block : List Markup) {missing : Nat} {kept : Text}
    (unclosed : Text.Unclosed missing (Markup.writeAll .flush block) kept) :
    Node.parse kept = Markup.nodes .flush block := by
  cases missing with
  | zero => rw [unclosed.eq_of_none, Markup.parse_writeAll]
  | succ missing =>
      cases block with
      | nil =>
          have lines := unclosed.written
          rw [Text.closingLines_succ] at lines
          simp [Markup.writeAll] at lines
      | cons node others =>
          cases others with
          | nil =>
              rw [Markup.writeAll, Markup.writeAll, List.append_nil] at unclosed
              exact node.parse_unclosed unclosed
          | cons other others =>
              have balanced := Markup.balanced_writeAll .flush (other :: others)
              have nonempty : Markup.writeAll .flush (other :: others) ≠ [] := by
                intro empty
                have last := Markup.getLast?_writeAll .flush other others
                rw [empty] at last
                contradiction
              rw [Markup.writeAll, Margins.drop_flush] at unclosed
              rcases unclosed.behind_balanced (node.endsLine_write .flush) balanced nonempty with
                ⟨inner, rfl, behind⟩
              rw [node.parse_write .flush, Markup.parse_unclosedAll (other :: others) behind]
              rfl

/-- A clause with what comes behind it is read without its last closing lines. Nothing is left behind
the region then. -/
theorem Alternatives.clauses_unclosed (condition : Text) (body : List Markup)
    (read : ∀ {missing : Nat} {kept : Text},
      Text.Unclosed missing (Markup.writeAll .flush body) kept →
        Node.parse kept = Markup.nodes .flush body)
    (rest : Alternatives) {missing : Nat} {kept : Text}
    (unclosed : Text.Unclosed (missing + 1)
      (Markup.closed (Markup.writeAll .flush body) .none ++ rest.write .flush) kept) :
    ∃ found, Region.clauses (some condition) kept = (found, []) ∧
      Node.parseClauses found = (some condition, Markup.nodes .flush body) :: rest.clauses .flush := by
  have balanced := Markup.balanced_writeAll .flush body
  have parts := fun following => Markup.body_written .flush body following
  simp only [Margins.drop_flush, Margins.behind_flush, Margins.next_flush] at parts
  cases rest with
  | close =>
      have written : Markup.closed (Markup.writeAll .flush body) .none ++
          Alternatives.close.write .flush = Markup.writeAll .flush body ++ ['}', '\n'] := by
        simp [Alternatives.write, Markup.closed, Margin.none]
      rw [written] at unclosed
      have within := unclosed.of_closed
      refine ⟨_, Region.clauses_unclosed (within.body balanced) (some condition), ?_⟩
      rw [Node.parseClauses_cons, Node.parseClauses_nil, read within]
      rfl
  | otherwise last =>
      have written : Markup.closed (Markup.writeAll .flush body) .none ++
          (Alternatives.otherwise last).write .flush =
            (Markup.closed (Markup.writeAll .flush body) .none ++
              [' ', 'e', 'l', 's', 'e', ' ', '{', '\n']) ++
            (Markup.writeAll .flush last ++ ['}', '\n']) := by
        simp [Alternatives.write, Markup.closed, Margin.none]
      rw [written] at unclosed
      have opens : ['{', '\n'] <:+ Markup.closed (Markup.writeAll .flush body) .none ++
          [' ', 'e', 'l', 's', 'e', ' ', '{', '\n'] :=
        (List.suffix_append [' ', 'e', 'l', 's', 'e', ' '] ['{', '\n']).trans
          (List.suffix_append _ _)
      rcases unclosed.behind_opening opens with ⟨inner, rfl, behind⟩
      have within := behind.of_closed
      have open? := within.body (Markup.balanced_writeAll .flush last)
      rw [List.append_assoc, Region.clauses_next (parts _) (Region.continuation?_otherwise inner),
        Region.clauses_unclosed open?]
      refine ⟨_, rfl, ?_⟩
      rw [Node.parseClauses_cons, Node.parseClauses_cons, Node.parseClauses_nil,
        Markup.parse_bodyText_flush, Markup.parse_unclosedAll last within,
        Alternatives.clauses_flush_otherwise]
  | elseIf following next rest =>
      have written : Markup.closed (Markup.writeAll .flush body) .none ++
          (Alternatives.elseIf following next rest).write .flush =
            (Markup.closed (Markup.writeAll .flush body) .none ++
              ([' ', 'e', 'l', 's', 'e', ' '] ++ Markup.opening ['i', 'f'] following.text)) ++
            (Markup.closed (Markup.writeAll .flush next) .none ++ rest.write .flush) := by
        simp [Alternatives.write]
      rw [written] at unclosed
      have opens : ['{', '\n'] <:+ Markup.closed (Markup.writeAll .flush body) .none ++
          ([' ', 'e', 'l', 's', 'e', ' '] ++ Markup.opening ['i', 'f'] following.text) :=
        ((Markup.opening_suffix _ _).trans (List.suffix_append _ _)).trans (List.suffix_append _ _)
      rcases unclosed.behind_opening opens with ⟨inner, rfl, behind⟩
      have readNext {missing : Nat} {kept : Text}
          (within : Text.Unclosed missing (Markup.writeAll .flush next) kept) :=
        Markup.parse_unclosedAll next within
      rcases rest.clauses_unclosed following.text next readNext behind with
        ⟨clauses, scanned, parsed⟩
      rw [List.append_assoc,
        Region.clauses_next (parts _) (Region.continuation?_elseIf following inner), scanned]
      refine ⟨_, rfl, ?_⟩
      rw [Node.parseClauses_cons, Markup.parse_bodyText_flush, parsed,
        Alternatives.clauses_flush_elseIf]

end

/-! ## Rendering -/

/-- A template that ends with closing lines is rendered alike without the last of them. -/
theorem Markup.renderBlocks_unclosed {σ : Type} [Host σ] (block : List Markup) {front : Text}
    {count : Nat} (lines : Text.EndsLine front)
    (written : Markup.print block = front ++ Text.closingLines count) {missing : Nat}
    (among : missing ≤ count) (renderer : Renderer σ) (scope : Scope σ) (depth : Nat) :
    renderer.renderBlocks scope depth (front ++ Text.closingLines (count - missing)) =
      renderer.renderBlocks scope depth (Markup.print block) := by
  have unclosed : Text.Unclosed missing (Markup.writeAll .flush block)
      (front ++ Text.closingLines (count - missing)) := by
    refine ⟨Text.endsLine_append lines (Text.endsLine_closingLines _), ?_⟩
    rw [List.append_assoc, ← Text.closingLines_add, Nat.sub_add_cancel among]
    exact written
  have same : Node.parse (front ++ Text.closingLines (count - missing)) =
      Node.parse (Markup.print block) := by
    rw [Markup.parse_unclosedAll block unclosed, Markup.print, Markup.parse_writeAll]
  rw [Renderer.renderBlocks, Renderer.renderBlocks, same]

/-- A loop in the last clause of a choice, of which neither is closed. -/
theorem Markup.renderBlocks_unclosed_nested :
    let condition : Enclosed := ⟨"Context.On".toList, by decide, by decide, by decide⟩
    let header : LoopHeader :=
      ⟨['x'], ⟨"Context.Items".toList, by decide, by decide, by decide⟩, by decide,
        List.all_eq_true.mp (by decide), by decide, by decide⟩
    let line : PlainLine := ⟨"$\x7bx\x7d".toList, by decide, by decide, by decide, by decide⟩
    let block : List Markup := [.choice condition [] (.otherwise [.loop header [.line line]])]
    let front : Text :=
      "@if (Context.On) \x7b\n\x7d else \x7b\n@foreach (var x in Context.Items) \x7b\n".toList ++
        line.content ++ ['\n']
    Text.EndsLine front ∧
      Markup.print block = front ++ Text.closingLines 2 ∧
      2 ≤ 2 ∧
      Renderer.standard.renderBlocks (Scope.empty : Scope Empty) 0
          (front ++ Text.closingLines (2 - 2)) =
        Renderer.standard.renderBlocks (Scope.empty : Scope Empty) 0 (Markup.print block) := by
  intro condition header line block front
  have lines : Text.EndsLine front := Text.endsLine_lineEnd _
  have written : Markup.print block = front ++ Text.closingLines 2 := by
    decide
  exact ⟨lines, written, Nat.le_refl 2,
    Markup.renderBlocks_unclosed block lines written (Nat.le_refl 2) .standard .empty 0⟩

end TextTemplate
