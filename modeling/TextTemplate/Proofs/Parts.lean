import TextTemplate.Template.Region
import Mathlib.Data.List.TakeWhile

/-!
# Parts of a template

What the readers of regions return is a part of the text that they read. What is behind a header
is a suffix of the text with fewer opening braces, because the brace of the header is gone, and the
bodies of a region are parts of that suffix, whether they are closed or go to the end of the text.

A header is also described by the way it is written, so that the loops of a template can be found
in its text.
-/

namespace TextTemplate

open Unicode (isBlank isWord)

namespace Text

theorem trimStart_suffix (text : Text) : trimStart text <:+ text :=
  List.dropWhile_suffix _

theorem skipSpaces_suffix (text : Text) : skipSpaces text <:+ text :=
  List.dropWhile_suffix _

theorem afterFirstLine_suffix (text : Text) : afterFirstLine text <:+ text :=
  List.drop_suffix _ _

theorem skipBlankLine_suffix (text : Text) : skipBlankLine text <:+ text := by
  rw [skipBlankLine]
  split
  · exact afterFirstLine_suffix text
  · exact List.suffix_refl text

theorem dropBlankTail_prefix (text : Text) : dropBlankTail text <+: text := by
  simp only [dropBlankTail]
  split
  · exact List.take_prefix _ _
  · exact List.prefix_refl text

theorem after?_suffix {token text following : Text} (found : after? token text = some following) :
    following <:+ text := by
  rw [after?_eq_some found]
  exact List.suffix_append _ _

/-- The blanks before a text, and what is behind them. -/
theorem trimStart_eq (text : Text) :
    ∃ blanks, (∀ c ∈ blanks, isBlank c = true) ∧ text = blanks ++ trimStart text := by
  refine ⟨text.takeWhile isBlank, ?_, List.takeWhile_append_dropWhile.symm⟩
  intro c inside
  exact List.mem_takeWhile_imp inside

/-- What is found is a closing parenthesis, and the text behind it does not matter. -/
theorem closingFrom_eq_some {depth : Nat} {quote : Option Char} {text : Text} {position : Nat}
    (found : closingFrom depth quote text = some position) :
    ∃ front behind, text = front ++ ')' :: behind ∧ position = front.length ∧
      closingFrom depth quote (front ++ [')']) = some position := by
  induction text generalizing depth quote position with
  | nil => contradiction
  | cons c rest ih =>
      rcases closingFrom_cons depth quote c with ⟨closing, here⟩ | ⟨inner, open?, following⟩
      · rw [here rest] at found
        rcases Option.some.inj found with rfl
        refine ⟨[], rest, ?_, rfl, ?_⟩
        · rw [closing, List.nil_append]
        · rw [List.nil_append, ← closing, here]
      · rw [following rest] at found
        rcases Option.map_eq_some_iff.mp found with ⟨place, before, rfl⟩
        rcases ih before with ⟨front, behind, rfl, rfl, again⟩
        refine ⟨c :: front, behind, rfl, rfl, ?_⟩
        rw [List.cons_append, following, again]
        rfl

/-- The parentheses with which a text begins. -/
theorem closing?_eq_some {text : Text} {position : Nat}
    (found : closing? ('(' :: text) = some position) :
    ∃ inner behind, text = inner ++ ')' :: behind ∧ position = inner.length + 1 ∧
      closing? ('(' :: inner ++ [')']) = some (inner.length + 1) := by
  rcases closingFrom_eq_some found with ⟨front, behind, whole, rfl, again⟩
  cases front with
  | nil => simp at whole
  | cons c inner =>
      rcases List.cons.inj whole with ⟨rfl, rfl⟩
      exact ⟨inner, behind, rfl, rfl, again⟩

end Text

/-! ## Headers -/

/-- The header of a region behind its word, as it is written. -/
structure Region.Header where
  gap : Text
  written : Text
  room : Text
  gapBlank : ∀ c ∈ gap, isBlank c = true
  roomBlank : ∀ c ∈ room, isBlank c = true
  closed : Text.closing? ('(' :: written ++ [')']) = some (written.length + 1)

namespace Region

/-- The header of a region with that word, from the word to the brace that opens the body. -/
def Header.text (header : Header) (word : Text) : Text :=
  word ++ header.gap ++ ('(' :: header.written ++ [')']) ++ header.room ++ ['{']

/-- What the parentheses of a header hold, without the blanks around it. -/
def Header.inner (header : Header) : Text :=
  Text.trim header.written

theorem parenthesized?_eq_some {text inner rest : Text}
    (found : parenthesized? text = some (inner, rest)) :
    ∃ written, text = '(' :: written ++ ')' :: rest ∧ inner = Text.trim written ∧
      Text.closing? ('(' :: written ++ [')']) = some (written.length + 1) := by
  unfold parenthesized? at found
  split at found
  · rename_i front
    rcases Option.map_eq_some_iff.mp found with ⟨position, closing, parts⟩
    rcases Text.closing?_eq_some closing with ⟨written, behind, rfl, rfl, closed⟩
    rcases Prod.mk.inj parts with ⟨rfl, rfl⟩
    refine ⟨written, ?_, ?_, closed⟩
    · simp
    · simp
  · contradiction

theorem header?_eq_some {word text inner rest : Text}
    (found : header? word text = some (inner, rest)) :
    ∃ (header : Header) (behind : Text), text = header.text word ++ behind ∧
      inner = header.inner ∧ rest = Text.skipBlankLine behind := by
  simp only [header?, Option.bind_eq_bind, Option.bind_eq_some_iff] at found
  rcases found with ⟨afterWord, begins, ⟨header, afterHeader⟩, parentheses, behind, brace, last⟩
  rcases Prod.mk.inj (Option.some.inj last) with ⟨rfl, rfl⟩
  rcases parenthesized?_eq_some parentheses with ⟨written, opened, inner, closed⟩
  rcases Text.trimStart_eq afterWord with ⟨gap, gapBlank, gapWritten⟩
  rcases Text.trimStart_eq afterHeader with ⟨room, roomBlank, roomWritten⟩
  refine ⟨⟨gap, written, room, gapBlank, roomBlank, closed⟩, behind, ?_, inner, rfl⟩
  rw [Text.after?_eq_some begins, gapWritten, opened, roomWritten, Text.after?_eq_some brace]
  simp [Header.text]

end Region

/-- One text is a part of another that has more opening braces. -/
structure Text.Inside (inner outer : Text) : Prop where
  part : inner <:+: outer
  fewer : inner.count '{' < outer.count '{'

namespace Text.Inside

variable {inner middle outer : Text}

theorem of_part (part : inner <:+: middle) (inside : Inside middle outer) :
    Inside inner outer :=
  ⟨part.trans inside.part, (part.sublist.count_le _).trans_lt inside.fewer⟩

theorem trans_part (inside : Inside inner middle) (part : middle <:+: outer) :
    Inside inner outer :=
  ⟨inside.part.trans part, inside.fewer.trans_le (part.sublist.count_le _)⟩

theorem behind_brace (front behind : Text) : Inside behind (front ++ '{' :: behind) := by
  refine ⟨⟨front ++ ['{'], [], by simp⟩, ?_⟩
  rw [List.count_append, List.count_cons_self]
  omega

end Text.Inside

namespace Region

open Text (Inside)

theorem header?_inside {word text inner rest : Text}
    (found : header? word text = some (inner, rest)) : Inside rest text := by
  rcases header?_eq_some found with ⟨header, behind, rfl, -, rfl⟩
  rw [Header.text, List.append_assoc, List.singleton_append]
  exact .of_part (Text.skipBlankLine_suffix behind).isInfix (.behind_brace _ behind)

theorem header?_suffix {word text inner rest : Text}
    (found : header? word text = some (inner, rest)) : rest <:+ text := by
  rcases header?_eq_some found with ⟨header, behind, rfl, -, rfl⟩
  exact (Text.skipBlankLine_suffix behind).trans (List.suffix_append _ _)

/-! ## Bodies -/

theorem bodyFrom_eq (depth : Nat) (text : Text) :
    text = (bodyFrom depth text).1 ++
      (bodyFrom depth text).2.elim [] fun rest => '}' :: rest := by
  induction text generalizing depth with
  | nil => rfl
  | cons c rest ih =>
      simp only [bodyFrom]
      split
      · exact congrArg (c :: ·) (ih (depth + 1))
      · split
        · rename_i closing
          split
          · rw [closing]
            rfl
          · exact congrArg (c :: ·) (ih (depth - 1))
        · exact congrArg (c :: ·) (ih depth)

theorem body_part (text : Text) : (body text).1 <:+: text := by
  have whole := bodyFrom_eq 1 text
  have front : (bodyFrom 1 text).1 <+: text := by
    refine ⟨_, whole.symm⟩
  exact ((Text.dropBlankTail_prefix _).trans front).isInfix

theorem body_behind {text rest : Text} (closed : (body text).2 = some rest) : rest <:+ text := by
  have whole := bodyFrom_eq 1 text
  rw [show (bodyFrom 1 text).2 = some rest from closed, Option.elim_some] at whole
  refine ⟨(bodyFrom 1 text).1 ++ ['}'], ?_⟩
  rw [List.append_assoc, List.singleton_append]
  exact whole.symm

/-! ## Clauses -/

theorem continuation?_suffix {text rest : Text} {condition : Option Text}
    (found : continuation? text = some (condition, rest)) : rest <:+ text := by
  simp only [continuation?, Option.bind_eq_bind, Option.bind_eq_some_iff] at found
  rcases found with ⟨afterElse, otherwise, last⟩
  have front : Text.skipSpaces afterElse <:+ text :=
    ((Text.skipSpaces_suffix _).trans (Text.after?_suffix otherwise)).trans
      (Text.skipSpaces_suffix text)
  split at last
  · rcases Option.map_eq_some_iff.mp last with ⟨⟨inner, behind⟩, header, parts⟩
    rcases Prod.mk.inj parts with ⟨-, rfl⟩
    exact (header?_suffix header).trans front
  · rcases Option.map_eq_some_iff.mp last with ⟨behind, opened, parts⟩
    rcases Prod.mk.inj parts with ⟨-, rfl⟩
    exact ((Text.skipBlankLine_suffix behind).trans (Text.after?_suffix opened)).trans front

theorem clauses_parts (condition : Option Text) (text : Text) :
    (∀ clause ∈ (clauses condition text).1, clause.body <:+: text) ∧
      (clauses condition text).2 <:+ text := by
  fun_induction clauses condition text with
  | case1 condition text bodyText parts =>
      have part := body_part text
      rw [parts] at part
      simpa using part
  | case2 condition text bodyText rest parts =>
      have part := body_part text
      have behind := body_behind (congrArg Prod.snd parts)
      rw [parts] at part
      simpa using ⟨part, behind⟩
  | case3 condition text bodyText rest parts =>
      have part := body_part text
      have behind := body_behind (congrArg Prod.snd parts)
      rw [parts] at part
      simpa using ⟨part, behind⟩
  | case4 condition text bodyText rest parts _ following behind next others ih =>
      have part := body_part text
      have rest_suffix := body_behind (congrArg Prod.snd parts)
      have suffix := (continuation?_suffix next).trans rest_suffix
      rw [parts] at part
      rcases ih with ⟨bodies, last⟩
      refine ⟨?_, last.trans suffix⟩
      intro clause listed
      rcases List.mem_cons.mp listed with rfl | listed
      · exact part
      · exact (bodies clause listed).trans suffix.isInfix

end Region

/-! ## Loops -/

/-- The text between the parentheses of a loop, as it is written. -/
structure Region.LoopWords where
  beforeName : Text
  name : Text
  behindName : Text
  behindIn : Text
  written : Text
  blank : ∀ gap ∈ [beforeName, behindName, behindIn],
    gap ≠ [] ∧ ∀ c ∈ gap, isBlank c = true
  named : name ≠ []
  isName : ∀ c ∈ name, isWord c = true
  single : '\n' ∉ written

namespace Region

open Text (Inside)

/-- The words between the parentheses of a loop header. -/
def LoopWords.text (words : LoopWords) : Text :=
  ['v', 'a', 'r'] ++ words.beforeName ++ words.name ++ words.behindName ++ ['i', 'n'] ++
    words.behindIn ++ words.written

/-- The expression a loop header goes through, without the blanks around it. -/
def LoopWords.collection (words : LoopWords) : Text :=
  Text.trim words.written

/-- The header of a loop over a collection occurs in the text. -/
def LoopOccurs (collection text : Text) : Prop :=
  ∃ (header : Header) (words : LoopWords), header.inner = words.text ∧
    collection = words.collection ∧ header.text foreachWord <:+: text

theorem LoopOccurs.of_part {collection inner outer : Text} (occurs : LoopOccurs collection inner)
    (part : inner <:+: outer) : LoopOccurs collection outer := by
  rcases occurs with ⟨header, words, written, goes, place⟩
  exact ⟨header, words, written, goes, place.trans part⟩

theorem afterBlanks?_eq_some {text rest : Text} (found : afterBlanks? text = some rest) :
    ∃ gap, (gap ≠ [] ∧ ∀ c ∈ gap, isBlank c = true) ∧ text = gap ++ rest := by
  unfold afterBlanks? at found
  split at found
  · rename_i c behind
    split at found
    · rename_i blank
      rcases Text.trimStart_eq behind with ⟨blanks, allBlank, whole⟩
      refine ⟨c :: blanks, ⟨List.cons_ne_nil _ _, ?_⟩, ?_⟩
      · intro d inside
        rcases List.mem_cons.mp inside with rfl | inside
        · exact blank
        · exact allBlank d inside
      · rw [← Option.some.inj found, List.cons_append, ← whole]
    · contradiction
  · contradiction

theorem loopParts?_eq_some {header name collection : Text}
    (found : loopParts? header = some (name, collection)) :
    ∃ words : LoopWords, header = words.text ∧ name = words.name ∧
      collection = words.collection := by
  simp only [loopParts?, Option.bind_eq_bind, Option.bind_eq_some_iff] at found
  rcases found with ⟨afterVar, var, fromName, first, afterName, second, afterIn, inWord, written,
    third, last⟩
  split at last
  · contradiction
  · rename_i wellFormed
    rw [not_or, not_or] at wellFormed
    rcases wellFormed with ⟨named, -, single⟩
    rcases Prod.mk.inj (Option.some.inj last) with ⟨rfl, rfl⟩
    rcases afterBlanks?_eq_some first with ⟨beforeName, firstBlank, firstWritten⟩
    rcases afterBlanks?_eq_some second with ⟨behindName, secondBlank, secondWritten⟩
    rcases afterBlanks?_eq_some third with ⟨behindIn, thirdBlank, thirdWritten⟩
    have isName : ∀ c ∈ fromName.takeWhile isWord, isWord c = true := by
      intro c inside
      exact List.mem_takeWhile_imp inside
    refine ⟨⟨beforeName, fromName.takeWhile isWord, behindName, behindIn, written, ?_, named,
      isName, by simpa using single⟩, ?_, rfl, rfl⟩
    · simpa using ⟨firstBlank, secondBlank, thirdBlank⟩
    · have nameWritten : fromName = fromName.takeWhile isWord ++ (behindName ++ afterName) := by
        rw [← secondWritten, List.takeWhile_append_dropWhile]
      calc header = ['v', 'a', 'r'] ++ (beforeName ++ fromName) := by
            rw [Text.after?_eq_some var, firstWritten]
            rfl
        _ = ['v', 'a', 'r'] ++
              (beforeName ++ (fromName.takeWhile isWord ++ (behindName ++ afterName))) :=
            congrArg (fun rest => ['v', 'a', 'r'] ++ (beforeName ++ rest)) nameWritten
        _ = _ := by
            rw [Text.after?_eq_some inWord, thirdWritten]
            simp [LoopWords.text]

/-! ## Regions -/

/-- The line on which a region begins, without its indentation, and the text behind it. -/
theorem opened_suffix (text : Text) :
    Text.trimStart (Text.firstLine text) ++ Text.afterFirstLine text <:+ text := by
  rcases Text.trimStart_suffix (Text.firstLine text) with ⟨indentation, line⟩
  refine ⟨indentation, ?_⟩
  rw [← List.append_assoc, line]
  exact List.take_append_drop _ text

theorem first?_conditional {text behind : Text} {clauses : List Clause}
    (found : first? text = some (.conditional clauses, behind)) :
    (∀ clause ∈ clauses, Inside clause.body text) ∧ behind <:+ text := by
  have opened := opened_suffix text
  simp only [first?] at found
  split at found
  · rcases Option.map_eq_some_iff.mp found with ⟨⟨condition, inside⟩, header, parts⟩
    rcases Prod.mk.inj parts with ⟨region, rfl⟩
    rcases Region.conditional.inj region with rfl
    rcases clauses_parts (some condition) inside with ⟨bodies, last⟩
    refine ⟨?_, ?_⟩
    · intro clause listed
      exact ((header?_inside header).of_part (bodies clause listed)).trans_part opened.isInfix
    · exact ((Text.skipBlankLine_suffix _).trans last).trans
        ((header?_suffix header).trans opened)
  · split at found
    · simp [iteration?, Option.bind_eq_some_iff] at found
    · contradiction

theorem first?_iteration {text name collection body behind : Text}
    (found : first? text = some (.iteration name collection body, behind)) :
    Inside body text ∧ behind <:+ text ∧ LoopOccurs collection text := by
  have opened := opened_suffix text
  simp only [first?] at found
  split at found
  · simp [conditional?] at found
  · split at found
    · simp only [iteration?, Option.bind_eq_bind, Option.bind_eq_some_iff] at found
      rcases found with ⟨⟨written, inside⟩, header, ⟨loopName, collected⟩, words, last⟩
      rcases Prod.mk.inj (Option.some.inj last) with ⟨region, rfl⟩
      rcases Region.iteration.inj region with ⟨rfl, rfl, rfl⟩
      refine ⟨?_, ?_, ?_⟩
      · exact ((header?_inside header).of_part (body_part inside)).trans_part opened.isInfix
      · have rest : ((body inside).2.getD []) <:+ inside := by
          cases closed : (body inside).2 with
          | none => exact List.nil_suffix
          | some rest => exact body_behind closed
        exact ((Text.skipBlankLine_suffix _).trans rest).trans
          ((header?_suffix header).trans opened)
      · rcases header?_eq_some header with ⟨found, front, whole, inner, -⟩
        rcases loopParts?_eq_some words with ⟨loop, text, -, collection⟩
        refine ⟨found, loop, inner.symm.trans text, collection, ?_⟩
        exact List.IsInfix.trans ⟨[], front, by rw [List.nil_append, whole]⟩ opened.isInfix
    · contradiction

end Region

end TextTemplate
