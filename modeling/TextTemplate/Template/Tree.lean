import TextTemplate.Template.Region

/-!
# Template trees

A template is a sequence of nodes: lines of plain text, conditional regions and iterations, whose
bodies are templates again. Every text is a template; what looks like a region and is not well
formed is plain text.
-/

namespace TextTemplate

/-- A node of a template. A line keeps its line end; the clauses of a conditional region pair a
condition, if there is one, with a body. -/
inductive Node where
  | line (text : Text)
  | conditional (clauses : List (Option Text × List Node))
  | iteration (name collection : Text) (body : List Node)

namespace Node

mutual

/-- The nodes of a template. -/
def parse (text : Text) : List Node :=
  match text with
  | [] => []
  | c :: rest =>
    match _found : Region.first? (c :: rest) with
    | some (.conditional clauses, behind) => .conditional (parseClauses clauses) :: parse behind
    | some (.iteration name collection body, behind) =>
      .iteration name collection (parse body) :: parse behind
    | none => .line (Text.firstLine (c :: rest)) :: parse (Text.afterFirstLine (c :: rest))
termination_by (2 * text.length, 0)
decreasing_by
  all_goals
    first
      | have bound := Region.weight_first?_lt _found
        simp only [Region.weight] at bound
        exact Prod.Lex.left _ _ (by omega)
      | simp only [Text.afterFirstLine, List.length_drop, List.length_cons]
        exact Prod.Lex.left _ _ (by omega)

/-- The clauses of a conditional region with their bodies as templates. -/
def parseClauses (clauses : List Clause) : List (Option Text × List Node) :=
  match clauses with
  | [] => []
  | clause :: others => (clause.condition, parse clause.body) :: parseClauses others
termination_by (2 * Clause.weight clauses, clauses.length)
decreasing_by
  · simp only [Clause.weight]
    exact Prod.Lex.left _ _ (by omega)
  · simp only [Clause.weight]
    exact Prod.Lex.left _ _ (by omega)

end

@[simp]
theorem parse_nil : parse [] = [] := by
  rw [parse]

@[simp]
theorem parseClauses_nil : parseClauses [] = [] := by
  rw [parseClauses]

@[simp]
theorem parseClauses_cons (clause : Clause) (others : List Clause) :
    parseClauses (clause :: others) =
      (clause.condition, parse clause.body) :: parseClauses others := by
  rw [parseClauses]

theorem parse_conditional {text behind : Text} {clauses : List Clause}
    (found : Region.first? text = some (.conditional clauses, behind)) :
    parse text = .conditional (parseClauses clauses) :: parse behind := by
  cases text with
  | nil => simp [Region.first?_nil] at found
  | cons c rest =>
      rw [parse]
      split <;> simp_all

theorem parse_iteration {text name collection body behind : Text}
    (found : Region.first? text = some (.iteration name collection body, behind)) :
    parse text = .iteration name collection (parse body) :: parse behind := by
  cases text with
  | nil => simp [Region.first?_nil] at found
  | cons c rest =>
      rw [parse]
      split <;> simp_all

theorem parse_line {text : Text} (notEmpty : text ≠ []) (plain : Region.first? text = none) :
    parse text = .line (Text.firstLine text) :: parse (Text.afterFirstLine text) := by
  cases text with
  | nil => contradiction
  | cons c rest =>
      rw [parse]
      split <;> simp_all

end Node

end TextTemplate
