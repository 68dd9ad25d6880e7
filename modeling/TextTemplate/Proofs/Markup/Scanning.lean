import TextTemplate.Proofs.Lines
import TextTemplate.Proofs.Markup.Basic
import TextTemplate.Proofs.Parentheses

/-!
# Scanning markup

Every reader of the scanner is followed through what the writer of markup puts there: a header up
to its brace, a body up to the brace that closes it, and the clauses of a choice one after the
other. A body is found again because markup is balanced, so that counting braces passes over the
regions within it.
-/

namespace TextTemplate

/-! ## Headers -/

/-- A name is made of ordinary characters. -/
theorem isOrdinary_of_isWord {c : Char} (word : Unicode.isWord c = true) :
    Text.isOrdinary c = true := by
  simp only [Text.isOrdinary, Bool.and_eq_true, bne_iff_ne, ne_eq]
  refine ⟨⟨⟨⟨⟨?_, ?_⟩, ?_⟩, ?_⟩, ?_⟩, ?_⟩ <;>
    · rintro rfl
      revert word
      decide

namespace LoopHeader

variable (header : LoopHeader)

/-- The text before the collection. -/
def front : Text :=
  ['v', 'a', 'r', ' '] ++ header.name ++ [' ', 'i', 'n', ' ']

theorem text_eq : header.text = header.front ++ header.collection.text := by
  simp [text, front]

theorem front_ordinary : ∀ c ∈ header.front, Text.isOrdinary c = true := by
  intro c inside
  simp only [front, List.mem_append] at inside
  rcases inside with (inVar | inName) | inIn
  · simp only [List.mem_cons, List.not_mem_nil, or_false] at inVar
    rcases inVar with rfl | rfl | rfl | rfl <;> rfl
  · exact isOrdinary_of_isWord (header.isName c inName)
  · simp only [List.mem_cons, List.not_mem_nil, or_false] at inIn
    rcases inIn with rfl | rfl | rfl | rfl <;> rfl

theorem trim_text : Text.trim header.text = header.text := by
  have visible : Unicode.isBlank 'v' = false := by decide
  have whole := Text.trim_cons_append visible
    (['a', 'r', ' '] ++ header.name ++ [' ', 'i', 'n', ' '])
    (Text.trimStart_trimEnd_of_trim header.collection.trimmed).2 header.nonempty
  simpa [text] using whole

theorem closing?_text :
    Text.closing? ('(' :: header.text ++ [')']) = some (header.text.length + 1) := by
  have inner := header.collection.closed
  rw [List.cons_append, Text.closing?_cons] at inner ⊢
  rcases Option.map_eq_some_iff.mp inner with ⟨place, found, position⟩
  rw [text_eq, List.append_assoc, Text.closingFrom_ordinary header.front_ordinary, found]
  simp only [Option.map_some, List.length_append, Option.some.injEq]
  omega

/-- The parts of the header of a loop are found in its text. -/
theorem loopParts?_text :
    Region.loopParts? header.text = some (header.name, header.collection.text) := by
  have blankEnds : Unicode.isWord ' ' = false := by decide
  have blankBetween : Unicode.isBlank ' ' = true := by decide
  rcases List.exists_cons_of_ne_nil header.named with ⟨c, others, name⟩
  have visible : Unicode.isBlank c = false := by
    rw [← Bool.not_eq_true]
    intro blank
    have word := header.isName c (by simp [name])
    rw [Unicode.isWord_of_isBlank blank] at word
    contradiction
  have keyword : Text.after? "var".toList header.text =
      some (' ' :: (header.name ++ ' ' :: 'i' :: 'n' :: ' ' :: header.collection.text)) := by
    rw [text, List.append_assoc, List.append_assoc]
    rfl
  have beforeName : Region.afterBlanks?
      (' ' :: (header.name ++ ' ' :: 'i' :: 'n' :: ' ' :: header.collection.text)) =
        some (header.name ++ ' ' :: 'i' :: 'n' :: ' ' :: header.collection.text) := by
    rw [Region.afterBlanks?, if_pos blankBetween, name, List.cons_append,
      Text.trimStart_cons visible]
  have takenName : (header.name ++ ' ' :: 'i' :: 'n' :: ' ' :: header.collection.text).takeWhile
      Unicode.isWord = header.name := by
    rw [List.takeWhile_append_of_pos header.isName]
    simp [blankEnds]
  have behindName : (header.name ++ ' ' :: 'i' :: 'n' :: ' ' :: header.collection.text).dropWhile
      Unicode.isWord = ' ' :: 'i' :: 'n' :: ' ' :: header.collection.text := by
    rw [List.dropWhile_append_of_pos header.isName]
    simp [blankEnds]
  have beforeIn : Region.afterBlanks? (' ' :: 'i' :: 'n' :: ' ' :: header.collection.text) =
      some ('i' :: 'n' :: ' ' :: header.collection.text) := rfl
  have inWord : Text.after? "in".toList ('i' :: 'n' :: ' ' :: header.collection.text) =
      some (' ' :: header.collection.text) := rfl
  have beforeCollection : Region.afterBlanks? (' ' :: header.collection.text) =
      some header.collection.text := by
    rw [Region.afterBlanks?, if_pos blankBetween,
      (Text.trimStart_trimEnd_of_trim header.collection.trimmed).1]
  simp only [Region.loopParts?, Option.bind_eq_bind, keyword, Option.bind_some, beforeName,
    takenName, behindName, beforeIn, inWord, beforeCollection, header.collection.trimmed]
  rw [if_neg]
  simp [header.named, header.nonempty, header.single]

end LoopHeader

namespace Region

/-- A header is read from the line that it was written on. -/
theorem header?_opening {header : Text} (trimmed : Text.trim header = header)
    (closed : Text.closing? ('(' :: header ++ [')']) = some (header.length + 1))
    (word rest : Text) :
    header? word (Markup.opening word header ++ rest) = some (header, rest) := by
  have written : Markup.opening word header ++ rest =
      word ++ ' ' :: '(' :: (header ++ ')' :: ' ' :: '{' :: '\n' :: rest) := by
    simp [Markup.opening]
  have position : Text.closing? ('(' :: (header ++ ')' :: ' ' :: '{' :: '\n' :: rest)) =
      some (header.length + 1) := by
    have further := Text.closingFrom_append closed (' ' :: '{' :: '\n' :: rest)
    simpa [Text.closing?] using further
  have enclosed : parenthesized? ('(' :: (header ++ ')' :: ' ' :: '{' :: '\n' :: rest)) =
      some (header, ' ' :: '{' :: '\n' :: rest) := by
    have behind : header ++ ')' :: ' ' :: '{' :: '\n' :: rest =
        (header ++ [')']) ++ ' ' :: '{' :: '\n' :: rest := by simp
    simp only [parenthesized?, position, Option.map_some, Nat.add_sub_cancel, List.take_left]
    have place : header.length + 1 = (header ++ [')']).length := by simp
    rw [trimmed, behind, place, List.drop_left]
  have start : Text.trimStart (' ' :: '(' :: (header ++ ')' :: ' ' :: '{' :: '\n' :: rest)) =
      '(' :: (header ++ ')' :: ' ' :: '{' :: '\n' :: rest) := rfl
  have brace : Text.trimStart (' ' :: '{' :: '\n' :: rest) = '{' :: '\n' :: rest := rfl
  have opened : Text.after? ['{'] ('{' :: '\n' :: rest) = some ('\n' :: rest) := rfl
  simp only [header?, written, Text.after?_append, Option.bind_eq_bind, Option.bind_some, start,
    enclosed, brace, opened, Text.skipBlankLine_lineEnd]

/-- A body ends at the brace that was written to close it. -/
theorem body_closed {text : Text} (balanced : Text.Balanced text) (margin : Margin)
    (rest : Text) :
    body (Markup.closed text margin ++ rest) =
      (Text.dropBlankTail (text ++ margin.text), some rest) := by
  have written : Markup.closed text margin ++ rest = (text ++ margin.text) ++ '}' :: rest := by
    simp [Markup.closed]
  rw [body, written, bodyFrom_closed (balanced.append margin.balanced)]

end Region

/-! ## Balance -/

/-- The brace of a header is open behind its line. -/
theorem Markup.openBraces_opening {word header : Text} (wordBalanced : Text.Balanced word)
    (headerBalanced : Text.Balanced header) :
    Text.openBraces 0 (Markup.opening word header) = some 1 := by
  rw [Markup.opening, Text.openBraces_append,
    ((wordBalanced.append (by decide)).append headerBalanced).openBraces_eq]
  decide

/-- The brace that closes a body leaves no brace of the region open. -/
theorem Markup.openBraces_closed {body : Text} (balanced : Text.Balanced body)
    (margin : Margin) : Text.openBraces 1 (Markup.closed body margin) = some 0 := by
  rw [Markup.closed, Text.openBraces_append,
    (balanced.append margin.balanced).openBraces_eq]
  rfl

/-- A header with its body is balanced. -/
theorem Markup.balanced_region {word header body : Text} (wordBalanced : Text.Balanced word)
    (headerBalanced : Text.Balanced header) (bodyBalanced : Text.Balanced body)
    (margin : Margin) :
    Text.Balanced (Markup.opening word header ++ Markup.closed body margin) := by
  rw [Text.Balanced, Text.openBraces_append,
    Markup.openBraces_opening wordBalanced headerBalanced]
  exact Markup.openBraces_closed bodyBalanced margin

theorem LoopHeader.balanced (header : LoopHeader) : Text.Balanced header.text := by
  rw [header.text_eq]
  refine .append (.of_notMem ?_ ?_) header.collection.balanced <;>
    · intro inside
      have ordinary := header.front_ordinary _ inside
      revert ordinary
      decide

mutual

theorem Markup.balanced_write (margins : Margins) (node : Markup) :
    Text.Balanced (node.write margins) := by
  cases node with
  | line line => exact line.balanced
  | choice condition body rest =>
      rw [Markup.write, List.append_assoc margins.next.text]
      exact (margins.next.balanced.append (Markup.balanced_region (by decide)
        condition.balanced (Markup.balanced_writeAll _ body) _)).append (rest.balanced_write _)
  | loop header body =>
      rw [Markup.write, List.append_assoc margins.next.text]
      exact (margins.next.balanced.append (Markup.balanced_region (by decide)
        header.balanced (Markup.balanced_writeAll _ body) _)).append (by decide)

theorem Markup.balanced_writeAll (margins : Margins) (block : List Markup) :
    Text.Balanced (Markup.writeAll margins block) := by
  cases block with
  | nil => rfl
  | cons node others =>
      rw [Markup.writeAll]
      exact (node.balanced_write margins).append (Markup.balanced_writeAll _ others)

theorem Alternatives.balanced_write (margins : Margins) (rest : Alternatives) :
    Text.Balanced (rest.write margins) := by
  cases rest with
  | close => rfl
  | otherwise body =>
      have opened : Text.openBraces 0 [' ', 'e', 'l', 's', 'e', ' ', '{', '\n'] = some 1 := rfl
      have region : Text.Balanced ([' ', 'e', 'l', 's', 'e', ' ', '{', '\n'] ++
          Markup.closed (Markup.writeAll (margins.drop 1) body)
            (margins.behind body).next) := by
        rw [Text.Balanced, Text.openBraces_append, opened]
        exact Markup.openBraces_closed (Markup.balanced_writeAll _ body) _
      exact region.append (by decide)
  | elseIf condition body rest =>
      rw [Alternatives.write, List.append_assoc [' ', 'e', 'l', 's', 'e', ' ']]
      exact (Text.Balanced.append (by decide) (Markup.balanced_region (by decide)
        condition.balanced (Markup.balanced_writeAll _ body) _)).append (rest.balanced_write _)

end

/-! ## Regions -/

namespace Region

theorem continuation?_lineEnd (rest : Text) : continuation? ('\n' :: rest) = none :=
  rfl

theorem continuation?_otherwise (rest : Text) :
    continuation? ([' ', 'e', 'l', 's', 'e', ' ', '{', '\n'] ++ rest) = some (none, rest) := by
  have opened : continuation? ([' ', 'e', 'l', 's', 'e', ' ', '{', '\n'] ++ rest) =
      some (none, Text.skipBlankLine ('\n' :: rest)) := rfl
  rw [opened, Text.skipBlankLine_lineEnd]

theorem continuation?_elseIf (condition : Enclosed) (rest : Text) :
    continuation? ([' ', 'e', 'l', 's', 'e', ' '] ++
      Markup.opening ['i', 'f'] condition.text ++ rest) = some (some condition.text, rest) := by
  have continued : continuation? ([' ', 'e', 'l', 's', 'e', ' '] ++
      Markup.opening ['i', 'f'] condition.text ++ rest) =
        (header? "if".toList (Markup.opening "if".toList condition.text ++ rest)).map
          fun parts => (some parts.1, parts.2) := rfl
  rw [continued, header?_opening condition.trimmed condition.closed]
  rfl

end Region

/-- The body that is found where a block and the indentation of the closing brace were written. -/
def Markup.bodyText (margins : Margins) (block : List Markup) : Text :=
  Text.dropBlankTail
    (Markup.writeAll margins block ++ (margins.drop (Markup.countDelimiters block)).next.text)

/-- The clauses that are found behind the first one. -/
def Alternatives.found (margins : Margins) : Alternatives → List Clause
  | .close => []
  | .otherwise body => [⟨none, Markup.bodyText (margins.drop 1) body⟩]
  | .elseIf condition body rest =>
    ⟨some condition.text, Markup.bodyText (margins.drop 1) body⟩ ::
      rest.found (margins.behind body)

/-- A body that was written is found again. -/
theorem Markup.body_written (margins : Margins) (block : List Markup) (rest : Text) :
    Region.body
        (Markup.closed (Markup.writeAll (margins.drop 1) block) (margins.behind block).next ++
          rest) =
      (Markup.bodyText (margins.drop 1) block, some rest) := by
  rw [Region.body_closed (Markup.balanced_writeAll _ block), Markup.bodyText, Margins.drop_drop,
    Margins.behind]

/-- The clauses that were written are found again. -/
theorem Alternatives.clauses_written (condition : Text) (margins : Margins)
    (block : List Markup) (rest : Alternatives) (behind : Text) :
    Region.clauses (some condition)
        (Markup.closed (Markup.writeAll (margins.drop 1) block) (margins.behind block).next ++
          (rest.write (margins.behind block) ++ behind)) =
      (⟨some condition, Markup.bodyText (margins.drop 1) block⟩ ::
        rest.found (margins.behind block), '\n' :: behind) := by
  have parts := fun following => Markup.body_written margins block following
  cases rest with
  | close => exact Region.clauses_last (parts _) (.inr (Region.continuation?_lineEnd behind))
  | otherwise body =>
      rw [Alternatives.write, List.append_assoc, List.append_assoc]
      rw [Region.clauses_next (parts _) (Region.continuation?_otherwise _)]
      rw [Region.clauses_last (Markup.body_written _ body _) (.inl rfl)]
      rfl
  | elseIf condition body rest =>
      rw [Alternatives.write, List.append_assoc, List.append_assoc]
      rw [Region.clauses_next (parts _) (Region.continuation?_elseIf condition _)]
      rw [Alternatives.clauses_written condition.text _ body rest behind]
      rfl

namespace Region

/-- The indentation of a line has no part in the region that begins there. -/
theorem first?_indented (margin : Margin) (rest : Text) :
    first? (margin.text ++ rest) = first? rest := by
  simp only [first?, Text.trimStart_firstLine_append margin.blank margin.notMem_lineEnd,
    Text.afterFirstLine_append margin.notMem_lineEnd]

theorem first?_cons {c : Char} (visible : Unicode.isBlank c = false) (rest : Text) :
    first? (c :: rest) =
      if opensWith ifWord (Text.firstLine (c :: rest)) then conditional? (c :: rest)
      else if opensWith foreachWord (Text.firstLine (c :: rest)) then iteration? (c :: rest)
      else none := by
  simp only [first?, Text.trimStart_firstLine_cons visible,
    Text.firstLine_append_afterFirstLine]

theorem opensWith_opening {word : Text} (within : '\n' ∉ word) (header rest : Text) :
    opensWith word (Text.firstLine (Markup.opening word header ++ rest)) = true := by
  have written : Markup.opening word header ++ rest =
      (word ++ [' ']) ++ ('(' :: header ++ [')', ' ', '{', '\n'] ++ rest) := by
    simp [Markup.opening]
  have begun : '\n' ∉ word ++ [' '] := by
    simp [within]
  rw [written, Text.firstLine_append begun, List.append_assoc, opensWith, Text.after?_append]
  rfl

theorem first?_ifOpening (header rest : Text) :
    first? (Markup.opening ifWord header ++ rest) =
      conditional? (Markup.opening ifWord header ++ rest) :=
  (first?_cons (by decide) _).trans (if_pos (opensWith_opening (by decide) header rest))

theorem first?_foreachOpening (header rest : Text) :
    first? (Markup.opening foreachWord header ++ rest) =
      iteration? (Markup.opening foreachWord header ++ rest) := by
  have noCondition :
      ¬opensWith ifWord (Text.firstLine (Markup.opening foreachWord header ++ rest)) = true := by
    have different : opensWith ifWord
        (Text.firstLine (Markup.opening foreachWord header ++ rest)) = false := rfl
    simp [different]
  exact (first?_cons (by decide) _).trans ((if_neg noCondition).trans
    (if_pos (opensWith_opening (by decide) header rest)))

theorem first?_plain (line : PlainLine) (rest : Text) : first? (line.text ++ rest) = none := by
  have here : Text.firstLine (line.text ++ rest) = line.content ++ ['\n'] := by
    rw [PlainLine.text, List.append_assoc, Text.firstLine_append line.single]
    simp
  simp only [first?, here, line.opensNoCondition, line.opensNoLoop]
  rfl

/-- A choice that was written is found with its clauses. -/
theorem first?_choice (margins : Margins) (condition : Enclosed) (body : List Markup)
    (rest : Alternatives) (behind : Text) :
    first? ((Markup.choice condition body rest).write margins ++ behind) =
      some (.conditional (⟨some condition.text, Markup.bodyText (margins.drop 1) body⟩ ::
        rest.found (margins.behind body)), behind) := by
  simp only [Markup.write, List.append_assoc]
  rw [first?_indented, first?_ifOpening, conditional?,
    header?_opening condition.trimmed condition.closed, Option.map_some]
  simp only [Alternatives.clauses_written, Text.skipBlankLine_lineEnd]

/-- A loop that was written is found with its body. -/
theorem first?_loop (margins : Margins) (header : LoopHeader) (body : List Markup)
    (behind : Text) :
    first? ((Markup.loop header body).write margins ++ behind) =
      some (.iteration header.name header.collection.text
        (Markup.bodyText (margins.drop 1) body), behind) := by
  simp only [Markup.write, List.append_assoc]
  rw [first?_indented, first?_foreachOpening, iteration?,
    header?_opening header.trim_text header.closing?_text]
  simp only [Option.bind_eq_bind, Option.bind_some, header.loopParts?_text, Markup.body_written,
    Option.getD_some, List.singleton_append, Text.skipBlankLine_lineEnd]

end Region

end TextTemplate
