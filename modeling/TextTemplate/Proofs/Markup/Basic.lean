import TextTemplate.Proofs.Braces

/-!
# Markup

Markup is a template the way an author lays it out: lines of plain text, conditional regions and
loops, with every delimiter of a region on a line of its own. A tree of markup is written out as
text, either flush left or with an indentation before each delimiter line.

The parts of a tree carry the conditions under which its text can be read again. A plain line
opens no region, and what stands in parentheses is closed by its own parenthesis; braces are
balanced in both, since a region is found by counting them.
-/

namespace TextTemplate

/-- A line of plain text with its line end. -/
structure PlainLine where
  content : Text
  single : '\n' ∉ content
  opensNoCondition :
    Region.opensWith Region.ifWord (Text.trimStart (content ++ ['\n'])) = false
  opensNoLoop :
    Region.opensWith Region.foreachWord (Text.trimStart (content ++ ['\n'])) = false
  balanced : Text.Balanced (content ++ ['\n'])

/-- The line as it is written. -/
def PlainLine.text (line : PlainLine) : Text :=
  line.content ++ ['\n']

/-- Text that can stand between the parentheses of a header. -/
structure Enclosed where
  text : Text
  trimmed : Text.trim text = text
  balanced : Text.Balanced text
  closed : Text.closing? ('(' :: text ++ [')']) = some (text.length + 1)

/-- The variable of a loop and the collection that it goes through. -/
structure LoopHeader where
  name : Text
  collection : Enclosed
  named : name ≠ []
  isName : ∀ c ∈ name, Unicode.isWord c = true
  nonempty : collection.text ≠ []
  single : '\n' ∉ collection.text

/-- The text between the parentheses of the loop. -/
def LoopHeader.text (header : LoopHeader) : Text :=
  ['v', 'a', 'r', ' '] ++ header.name ++ [' ', 'i', 'n', ' '] ++ header.collection.text

mutual

/-- A node of a markup tree. A choice has its first clause and what comes behind it. -/
inductive Markup where
  | line (line : PlainLine)
  | choice (condition : Enclosed) (body : List Markup) (rest : Alternatives)
  | loop (header : LoopHeader) (body : List Markup)

/-- What comes behind the body of a clause: the end of the region, a last body without a
condition, or a further clause. -/
inductive Alternatives where
  | close
  | otherwise (body : List Markup)
  | elseIf (condition : Enclosed) (body : List Markup) (rest : Alternatives)

end

/-! ## Indentation -/

/-- An indentation: a run of spaces and tabs. -/
structure Margin where
  text : Text
  spaces : ∀ c ∈ text, c = ' ' ∨ c = '\t'

/-- The indentation of a line that is flush left. -/
def Margin.none : Margin :=
  ⟨[], by simp⟩

namespace Margin

variable (margin : Margin)

theorem blank : ∀ c ∈ margin.text, Unicode.isBlank c = true := by
  intro c inside
  rcases margin.spaces c inside with rfl | rfl <;> decide

theorem notMem {c : Char} (visible : Unicode.isBlank c = false) : c ∉ margin.text := by
  intro inside
  rw [margin.blank c inside] at visible
  contradiction

theorem notMem_lineEnd : '\n' ∉ margin.text := by
  intro inside
  rcases margin.spaces '\n' inside with equal | equal <;> simp at equal

theorem balanced : Text.Balanced margin.text :=
  .of_notMem (margin.notMem (by decide)) (margin.notMem (by decide))

end Margin

/-- An indentation for each delimiter line, which are counted from the top. -/
def Margins : Type :=
  Nat → Margin

namespace Margins

/-- Every delimiter line is flush left. -/
def flush : Margins :=
  fun _ => .none

/-- The indentation of the next delimiter line. -/
def next (margins : Margins) : Margin :=
  margins 0

/-- The indentations behind the first `count` delimiter lines. -/
def drop (margins : Margins) (count : Nat) : Margins :=
  fun line => margins (line + count)

@[simp]
theorem next_flush : flush.next = .none :=
  rfl

@[simp]
theorem drop_flush (count : Nat) : flush.drop count = flush :=
  rfl

theorem drop_drop (margins : Margins) (first second : Nat) :
    (margins.drop first).drop second = margins.drop (first + second) := by
  funext line
  rw [drop, drop, drop, Nat.add_assoc, Nat.add_comm second]

end Margins

mutual

/-- The number of delimiter lines of a node. -/
def Markup.delimiters : Markup → Nat
  | .line _ => 0
  | .choice _ body rest => 1 + Markup.countDelimiters body + rest.delimiters
  | .loop _ body => 2 + Markup.countDelimiters body

/-- The number of delimiter lines of a block. -/
def Markup.countDelimiters : List Markup → Nat
  | [] => 0
  | node :: others => node.delimiters + Markup.countDelimiters others

/-- The number of delimiter lines from the one that ends the body of a clause. -/
def Alternatives.delimiters : Alternatives → Nat
  | .close => 1
  | .otherwise body => 2 + Markup.countDelimiters body
  | .elseIf _ body rest => 1 + Markup.countDelimiters body + rest.delimiters

end

/-- The indentations from the line that closes a body, counted from the one that opens it. -/
def Margins.behind (margins : Margins) (body : List Markup) : Margins :=
  margins.drop (1 + Markup.countDelimiters body)

@[simp]
theorem Margins.behind_flush (body : List Markup) : flush.behind body = flush :=
  rfl

/-! ## Writing -/

namespace Markup

/-- A word and a header, up to the end of the line with the opening brace. -/
def opening (word header : Text) : Text :=
  word ++ [' ', '('] ++ header ++ [')', ' ', '{', '\n']

/-- A body and, on the line behind it, the brace that closes it. -/
def closed (body : Text) (margin : Margin) : Text :=
  body ++ margin.text ++ ['}']

end Markup

mutual

/-- The text of a node. -/
def Markup.write (margins : Margins) : Markup → Text
  | .line line => line.text
  | .choice condition body rest =>
    margins.next.text ++ Markup.opening Region.ifWord condition.text ++
      Markup.closed (Markup.writeAll (margins.drop 1) body) (margins.behind body).next ++
      rest.write (margins.behind body)
  | .loop header body =>
    margins.next.text ++ Markup.opening Region.foreachWord header.text ++
      Markup.closed (Markup.writeAll (margins.drop 1) body) (margins.behind body).next ++ ['\n']

/-- The text of a block, which is a sequence of nodes. -/
def Markup.writeAll (margins : Margins) : List Markup → Text
  | [] => []
  | node :: others => node.write margins ++ Markup.writeAll (margins.drop node.delimiters) others

/-- The text behind the brace that closes the body of a clause. -/
def Alternatives.write (margins : Margins) : Alternatives → Text
  | .close => ['\n']
  | .otherwise body =>
    [' ', 'e', 'l', 's', 'e', ' ', '{', '\n'] ++
      Markup.closed (Markup.writeAll (margins.drop 1) body) (margins.behind body).next ++ ['\n']
  | .elseIf condition body rest =>
    [' ', 'e', 'l', 's', 'e', ' '] ++ Markup.opening ['i', 'f'] condition.text ++
      Markup.closed (Markup.writeAll (margins.drop 1) body) (margins.behind body).next ++
      rest.write (margins.behind body)

end

/-- The text of a block with every delimiter line flush left. -/
def Markup.print (block : List Markup) : Text :=
  Markup.writeAll .flush block

end TextTemplate
