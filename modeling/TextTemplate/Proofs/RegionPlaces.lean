import TextTemplate.Proofs.Bodies
import TextTemplate.Proofs.Encoding
import TextTemplate.Proofs.Nesting
import Mathlib.Data.List.DropRight
import Mathlib.Logic.Function.Iterate

/-!
# Where regions stand

A region is read from its place in a template to a place behind it, and its headers and bodies are
slices of the template in between, one behind the other (`Region.scanned_in_place`). The places are
not read off the readers: `Opens`, `Continues` and `Sections` describe a region as it is written,
with the front part of the template before every piece.

So the reading of a template goes on behind what was read, and it ends (`Node.afterFirst`).
-/

namespace TextTemplate

open Unicode (isBlank)

namespace Text

/-- Blanks are before and behind a trimmed text. -/
theorem trim_parted (text : Text) :
    ∃ tail, text = text.takeWhile isBlank ++ trim text ++ tail := by
  have front : trim text <+: trimStart text :=
    List.rdropWhile_prefix isBlank (trimStart text)
  rcases front with ⟨tail, parted⟩
  refine ⟨tail, ?_⟩
  rw [List.append_assoc, parted, trimStart, List.takeWhile_append_dropWhile]

/-! ## Spans -/

/-- A piece of a text with the places where it begins and ends. -/
structure Span where
  first : Nat
  last : Nat
  piece : Text

/-- The piece that is written behind a front part. -/
def Span.behind (front piece : Text) : Span :=
  ⟨size front, size front + size piece, piece⟩

/-- The spans are slices of the text between two places, one behind the other. -/
structure InOrder (text : Text) (first last : Nat) (spans : List Span) : Prop where
  bounds : first ≤ last
  slices : ∀ span ∈ spans, Slice text span.first span.last span.piece
  within : ∀ span ∈ spans, first ≤ span.first ∧ span.last ≤ last
  ordered : spans.Pairwise fun earlier later => earlier.last ≤ later.first

namespace InOrder

variable {text : Text} {first middle last : Nat} {spans others : List Span}

theorem nil (bounds : first ≤ last) : InOrder text first last [] where
  bounds := bounds
  slices := by simp
  within := by simp
  ordered := List.Pairwise.nil

theorem behind {front piece rest : Text} (parted : text = front ++ piece ++ rest) :
    InOrder text (size front) (size (front ++ piece)) [.behind front piece] where
  bounds := by simp
  slices := by
    rw [parted]
    simpa [Span.behind] using slice_append front piece rest
  within := by simp [Span.behind]
  ordered := List.pairwise_singleton _ _

theorem append (front : InOrder text first middle spans) (rest : InOrder text middle last others) :
    InOrder text first last (spans ++ others) where
  bounds := Nat.le_trans front.bounds rest.bounds
  slices := by
    intro span listed
    rcases List.mem_append.mp listed with listed | listed
    · exact front.slices span listed
    · exact rest.slices span listed
  within := by
    intro span listed
    rcases List.mem_append.mp listed with listed | listed
    · have place := front.within span listed
      exact ⟨place.1, Nat.le_trans place.2 rest.bounds⟩
    · have place := rest.within span listed
      exact ⟨Nat.le_trans front.bounds place.1, place.2⟩
  ordered := by
    apply List.pairwise_append.mpr
    refine ⟨front.ordered, rest.ordered, ?_⟩
    intro earlier listed later among
    exact Nat.le_trans (front.within earlier listed).2 (rest.within later among).1

/-- There may be room before and behind the spans. -/
theorem widen {lower upper : Nat} (spansInOrder : InOrder text first last spans)
    (below : lower ≤ first) (above : last ≤ upper) : InOrder text lower upper spans where
  bounds := Nat.le_trans below (Nat.le_trans spansInOrder.bounds above)
  slices := spansInOrder.slices
  within := by
    intro span listed
    have place := spansInOrder.within span listed
    exact ⟨Nat.le_trans below place.1, Nat.le_trans place.2 above⟩
  ordered := spansInOrder.ordered

end InOrder

end Text

/-- What a clause says, and its body. -/
def Clause.pieces (clause : Clause) : List Text × Text :=
  (clause.condition.toList, clause.body)

/-- What the headers of a region say, and its bodies. -/
def Region.pieces : Region → List (List Text × Text)
  | .conditional clauses => clauses.map Clause.pieces
  | .iteration name collection body => [([name, collection], body)]

namespace Region

open Text (Span InOrder BlankRest BodyWritten WithoutMargin Slice size)

/-! ## Headers in place -/

/-- What is written before the text in the parentheses of a header. -/
def Header.lead (header : Header) (word : Text) : Text :=
  word ++ header.gap ++ '(' :: header.written.takeWhile isBlank

/-- What is written in the header of a loop before the name. -/
def LoopWords.beforeVariable (words : LoopWords) : Text :=
  ['v', 'a', 'r'] ++ words.beforeName

/-- What is written in the header of a loop before the collection. -/
def LoopWords.beforeCollection (words : LoopWords) : Text :=
  words.beforeVariable ++ words.name ++ words.behindName ++ ['i', 'n'] ++ words.behindIn ++
    words.written.takeWhile isBlank

/-- How a region opens behind a front part of the template, up to its first brace. -/
inductive Opens (front : Text) : Text → List Span → Prop where
  | condition (header : Header) :
      Opens front (header.text ifWord) [.behind (front ++ header.lead ifWord) header.inner]
  | loop (header : Header) (words : LoopWords) (inner : header.inner = words.text) :
      Opens front (header.text foreachWord)
        [.behind (front ++ header.lead foreachWord ++ words.beforeVariable) words.name,
          .behind (front ++ header.lead foreachWord ++ words.beforeCollection) words.collection]

/-- How a region goes on behind the closing brace of a clause, up to the next opening one. -/
inductive Continues (front : Text) : Text → List Span → Prop where
  | elseIf (before between : Text) (header : Header)
      (spaces : ∀ c ∈ before ++ between, c = ' ' ∨ c = '\t') :
      Continues front
        (before ++ ['e', 'l', 's', 'e'] ++ between ++ header.text ['i', 'f'])
        [.behind (front ++ (before ++ ['e', 'l', 's', 'e'] ++ between) ++
          header.lead ['i', 'f']) header.inner]
  | otherwise (before between : Text) (spaces : ∀ c ∈ before ++ between, c = ' ' ∨ c = '\t') :
      Continues front (before ++ ['e', 'l', 's', 'e'] ++ between ++ ['{']) []

/-- The text in the parentheses of a header stands in it behind what is written before. -/
theorem Header.text_parted (header : Header) (word : Text) :
    ∃ tail, header.text word = header.lead word ++ header.inner ++ tail := by
  rcases Text.trim_parted header.written with ⟨tail, parted⟩
  refine ⟨tail ++ ')' :: header.room ++ ['{'], ?_⟩
  calc header.text word = word ++ header.gap ++ '(' :: header.written ++
          (')' :: header.room ++ ['{']) := by
        simp [Header.text]
    _ = word ++ header.gap ++ '(' :: (header.written.takeWhile isBlank ++ header.inner ++ tail) ++
          (')' :: header.room ++ ['{']) :=
        congrArg (fun written => word ++ header.gap ++ '(' :: written ++
          (')' :: header.room ++ ['{'])) parted
    _ = _ := by
        simp [Header.lead]

theorem Header.text_ne_nil (header : Header) (word : Text) : header.text word ≠ [] := by
  simp [Header.text]

theorem LoopWords.text_parted (words : LoopWords) :
    ∃ tail, words.text = words.beforeCollection ++ words.collection ++ tail := by
  rcases Text.trim_parted words.written with ⟨tail, parted⟩
  refine ⟨tail, ?_⟩
  calc words.text = words.beforeVariable ++ words.name ++ words.behindName ++ ['i', 'n'] ++
          words.behindIn ++ words.written := by
        simp [LoopWords.text, beforeVariable]
    _ = words.beforeVariable ++ words.name ++ words.behindName ++ ['i', 'n'] ++ words.behindIn ++
          (words.written.takeWhile isBlank ++ words.collection ++ tail) :=
        congrArg (words.beforeVariable ++ words.name ++ words.behindName ++ ['i', 'n'] ++
          words.behindIn ++ ·) parted
    _ = _ := by
        simp [beforeCollection]

/-- The text of a header is in its place wherever the header is written. -/
theorem Header.inOrder (header : Header) (front before word rest : Text) :
    InOrder (front ++ (before ++ header.text word) ++ rest) (size front)
      (size (front ++ (before ++ header.text word)))
      [.behind (front ++ before ++ header.lead word) header.inner] := by
  rcases header.text_parted word with ⟨tail, parted⟩
  have whole : front ++ (before ++ header.text word) ++ rest =
      front ++ before ++ header.lead word ++ header.inner ++ (tail ++ rest) := by
    simp [parted]
  apply (InOrder.behind whole).widen
  · simp only [Text.size_append]
    omega
  · simp only [parted, Text.size_append]
    omega

theorem Opens.inOrder {front opening : Text} {headers : List Span}
    (opens : Opens front opening headers) (rest : Text) :
    InOrder (front ++ opening ++ rest) (size front) (size (front ++ opening)) headers := by
  cases opens with
  | condition header => simpa using header.inOrder front [] ifWord rest
  | loop header words inner =>
      rcases header.text_parted foreachWord with ⟨behind, parted⟩
      rcases words.text_parted with ⟨tail, wordsParted⟩
      rw [inner] at parted
      have variablePlace : front ++ header.text foreachWord ++ rest =
          front ++ header.lead foreachWord ++ words.beforeVariable ++ words.name ++
            (words.behindName ++ ['i', 'n'] ++ words.behindIn ++ words.written ++ behind ++
              rest) := by
        simp [parted, LoopWords.text, LoopWords.beforeVariable]
      have collectionPlace : front ++ header.text foreachWord ++ rest =
          front ++ header.lead foreachWord ++ words.beforeCollection ++ words.collection ++
            (tail ++ behind ++ rest) := by
        simp [parted, wordsParted]
      apply InOrder.append ((InOrder.behind variablePlace).widen ?_ (Nat.le_refl _))
        ((InOrder.behind collectionPlace).widen ?_ ?_)
      · simp only [Text.size_append]
        omega
      · simp only [LoopWords.beforeCollection, Text.size_append]
        omega
      · simp only [parted, wordsParted, Text.size_append]
        omega

theorem Opens.nonempty {front opening : Text} {headers : List Span}
    (opens : Opens front opening headers) : opening ≠ [] := by
  cases opens with
  | condition header => exact header.text_ne_nil ifWord
  | loop header words inner => exact header.text_ne_nil foreachWord

theorem Continues.inOrder {front opening : Text} {headers : List Span}
    (continues : Continues front opening headers) (rest : Text) :
    InOrder (front ++ opening ++ rest) (size front) (size (front ++ opening)) headers := by
  cases continues with
  | elseIf before between header spaces =>
      exact header.inOrder front (before ++ ['e', 'l', 's', 'e'] ++ between) ['i', 'f'] rest
  | otherwise before between spaces =>
      apply InOrder.nil
      simp

/-! ## Sections -/

/-- A body behind the brace that opens it, with everything up to the brace that closes it. -/
structure BodyPlace (text : Text) where
  room : Text
  rest : Text
  written : Text
  body : Text
  margin : Text
  behind : Option Text
  parted : text = room ++ rest
  roomBlank : BlankRest room rest
  ends : BodyWritten rest written behind
  kept : WithoutMargin written body margin

/-- A clause or a loop: what its header says, and its body. -/
structure Section where
  headers : List Span
  body : Span

/-- The spans of a section in the order of the text. -/
def Section.spans (part : Section) : List Span :=
  part.headers ++ [part.body]

/-- What the headers of a section say, and its body. -/
def Section.pieces (part : Section) : List Text × Text :=
  (part.headers.map Span.piece, part.body.piece)

namespace BodyPlace

variable {text : Text}

/-- The body with the brace that closes it. -/
def upTo (place : BodyPlace text) : Text :=
  place.room ++ place.written ++ place.behind.elim [] fun _ => ['}']

/-- The body as a section with the given headers, behind the text in front of the place. -/
def toSection (place : BodyPlace text) (front : Text) (headers : List Span) : Section :=
  ⟨headers, .behind (front ++ place.room) place.body⟩

theorem upTo_append (place : BodyPlace text) : text = place.upTo ++ place.behind.getD [] := by
  calc text = place.room ++ place.rest := place.parted
    _ = place.room ++ (place.written ++ (place.behind.elim [] fun _ => ['}']) ++
          place.behind.getD []) :=
        congrArg (place.room ++ ·) place.ends.whole
    _ = place.upTo ++ place.behind.getD [] := by
        simp [upTo]

theorem inOrder (place : BodyPlace text) {front : Text} {first : Nat} {headers : List Span}
    (before : InOrder (front ++ text) first (size front) headers) :
    InOrder (front ++ text) first (size (front ++ place.upTo))
      (place.toSection front headers).spans := by
  have whole : front ++ text = front ++ place.room ++ place.body ++
      (place.margin ++ place.behind.elim [] (fun _ => ['}']) ++ place.behind.getD []) := by
    conv_lhs => rw [place.upTo_append, upTo, place.kept.parted]
    simp
  apply before.append ((InOrder.behind whole).widen ?_ ?_)
  · simp
  · simp only [upTo, place.kept.parted, Text.size_append]
    omega

end BodyPlace

/-- The sections of a region behind the first brace of one of them, and what is behind the last. -/
inductive Sections : Text → List Span → Text → List Section → Text → Prop where
  | last {front text : Text} {headers : List Span} (place : BodyPlace text) :
      Sections front headers text [place.toSection front headers] (place.behind.getD [])
  | continued {front text opening rest behind : Text} {headers following : List Span}
      {sections : List Section} (place : BodyPlace text) (conditional : headers ≠ [])
      (closed : place.behind = some (opening ++ rest))
      (continues : Continues (front ++ place.upTo) opening following)
      (others : Sections (front ++ place.upTo ++ opening) following rest sections behind) :
      Sections front headers text (place.toSection front headers :: sections) behind

namespace Sections

variable {front text behind : Text} {headers : List Span} {sections : List Section}

/-- Sections that go on behind headers in order are in order, up to the text behind them. -/
theorem inOrder (written : Sections front headers text sections behind) :
    ∃ taken, text = taken ++ behind ∧
      ∀ first, InOrder (front ++ text) first (size front) headers →
        InOrder (front ++ text) first (size (front ++ taken))
          (sections.flatMap Section.spans) := by
  induction written with
  | last place =>
      refine ⟨place.upTo, place.upTo_append, ?_⟩
      intro first before
      simpa using place.inOrder before
  | @continued front text opening rest behind headers following sections place _ closed continues
      others ih =>
      rcases ih with ⟨taken, rfl, inOrder⟩
      have whole := place.upTo_append
      rw [closed, Option.getD_some] at whole
      -- The following sections are placed in the same text, with a longer front part.
      have regroup : front ++ text = front ++ place.upTo ++ opening ++ (taken ++ behind) := by
        conv_lhs => rw [whole]
        simp
      refine ⟨place.upTo ++ opening ++ taken, ?_, ?_⟩
      · conv_lhs => rw [whole]
        simp
      · intro first before
        have here := place.inOrder before
        rw [regroup] at here ⊢
        have following := inOrder _ (continues.inOrder (taken ++ behind))
        simpa using here.append following

/-- Only the last section has no header. -/
theorem conditional (written : Sections front headers text sections behind) :
    ∀ part ∈ sections.dropLast, part.headers ≠ [] := by
  induction written with
  | last place => simp
  | continued place conditional closed continues others ih =>
      cases others with
      | last next => simpa [BodyPlace.toSection] using conditional
      | continued next _ _ _ _ =>
          rw [List.dropLast_cons_cons, List.forall_mem_cons]
          exact ⟨conditional, ih⟩

end Sections

/-! ## Reading regions -/

theorem header?_place {word text inner rest : Text}
    (found : header? word text = some (inner, rest)) :
    ∃ (header : Header) (room : Text), text = header.text word ++ (room ++ rest) ∧
      inner = header.inner ∧ BlankRest room rest := by
  rcases header?_eq_some found with ⟨header, behind, rfl, inner, rfl⟩
  rcases Text.skipBlankLine_rest behind with ⟨room, parted, roomBlank⟩
  refine ⟨header, room, ?_, inner, roomBlank⟩
  rw [← parted]

theorem skipSpaces_eq (text : Text) :
    ∃ spaces, (∀ c ∈ spaces, c = ' ' ∨ c = '\t') ∧ text = spaces ++ Text.skipSpaces text := by
  refine ⟨text.takeWhile fun c => c == ' ' || c == '\t', ?_, List.takeWhile_append_dropWhile.symm⟩
  intro c inside
  simpa using List.mem_takeWhile_imp inside

theorem continuation?_place {text rest : Text} {condition : Option Text}
    (found : continuation? text = some (condition, rest)) (front : Text) :
    ∃ opening headers room, text = opening ++ (room ++ rest) ∧
      Continues front opening headers ∧ headers.map Span.piece = condition.toList ∧
      BlankRest room rest := by
  simp only [continuation?, Option.bind_eq_bind, Option.bind_eq_some_iff] at found
  rcases found with ⟨afterElse, otherwise, last⟩
  rcases skipSpaces_eq text with ⟨before, beforeBlank, beforeWritten⟩
  rcases skipSpaces_eq afterElse with ⟨between, betweenBlank, betweenWritten⟩
  have spaces : ∀ c ∈ before ++ between, c = ' ' ∨ c = '\t' :=
    List.forall_mem_append.mpr ⟨beforeBlank, betweenBlank⟩
  have whole : text = before ++ ['e', 'l', 's', 'e'] ++ between ++ Text.skipSpaces afterElse := by
    calc text = before ++ (['e', 'l', 's', 'e'] ++ afterElse) := by
          rw [beforeWritten, Text.after?_eq_some otherwise]
          rfl
      _ = before ++ (['e', 'l', 's', 'e'] ++ (between ++ Text.skipSpaces afterElse)) :=
          congrArg (fun rest => before ++ (['e', 'l', 's', 'e'] ++ rest)) betweenWritten
      _ = _ := by
          simp
  split at last
  · rcases Option.map_eq_some_iff.mp last with ⟨⟨inner, behind⟩, begins, parts⟩
    rcases Prod.mk.inj parts with ⟨rfl, rfl⟩
    rcases header?_place begins with ⟨header, room, written, rfl, roomBlank⟩
    refine ⟨_, _, room, ?_, .elseIf before between header spaces, rfl, roomBlank⟩
    rw [whole, written]
    simp
  · rcases Option.map_eq_some_iff.mp last with ⟨behind, opened, parts⟩
    rcases Prod.mk.inj parts with ⟨rfl, rfl⟩
    rcases Text.skipBlankLine_rest behind with ⟨room, parted, roomBlank⟩
    refine ⟨_, _, room, ?_, .otherwise before between spaces, rfl, roomBlank⟩
    rw [whole, Text.after?_eq_some opened, ← parted]
    simp

theorem body_place {room text : Text} (roomBlank : BlankRest room text) :
    ∃ place : BodyPlace (room ++ text), place.behind = (body text).2 ∧
      ∀ front headers, (place.toSection front headers).pieces =
        (headers.map Span.piece, (body text).1) := by
  rcases body_written text with ⟨written, margin, ends, kept⟩
  exact ⟨⟨room, text, written, _, margin, _, rfl, roomBlank, ends, kept⟩, rfl, fun _ _ => rfl⟩

/-- A body that nothing continues is the last section. -/
theorem body_sections {room text : Text} (roomBlank : BlankRest room text) (front : Text)
    (headers : List Span) :
    ∃ sections, Sections front headers (room ++ text) sections ((body text).2.getD []) ∧
      sections.map Section.pieces = [(headers.map Span.piece, (body text).1)] := by
  rcases body_place roomBlank with ⟨place, behindHere, pieces⟩
  have last : Sections front headers (room ++ text) _ _ := .last place
  rw [behindHere] at last
  exact ⟨_, last, by simp [pieces]⟩

theorem clauses_sections (condition : Option Text) (text front : Text) {room : Text}
    {headers : List Span} (written : headers.map Span.piece = condition.toList)
    (roomBlank : BlankRest room text) :
    ∃ sections, Sections front headers (room ++ text) sections (clauses condition text).2 ∧
      sections.map Section.pieces = (clauses condition text).1.map Clause.pieces := by
  fun_induction clauses condition text generalizing front room headers with
  | case1 condition text bodyText parts =>
      have last := body_sections roomBlank front headers
      rwa [parts, written] at last
  | case2 condition text bodyText rest parts otherwise =>
      have last := body_sections roomBlank front headers
      rwa [parts, written] at last
  | case3 condition text bodyText rest parts goesOn ends =>
      have last := body_sections roomBlank front headers
      rwa [parts, written] at last
  | case4 condition text bodyText rest parts goesOn following behind next =>
      rename_i others ih
      rcases body_place roomBlank with ⟨place, behindHere, pieces⟩
      rw [parts] at pieces behindHere
      rcases continuation?_place next (front ++ place.upTo) with
        ⟨opening, headers', room', rfl, continues, written', roomBlank'⟩
      rcases ih (front ++ place.upTo ++ opening) written' roomBlank' with
        ⟨sections, further, same⟩
      refine ⟨_, .continued place ?_ behindHere continues further, ?_⟩
      · -- A clause without a header has no condition, and nothing is read behind such a clause.
        rintro rfl
        cases condition with
        | none => exact goesOn rfl
        | some condition => contradiction
      · simp [pieces, same, written, others, Clause.pieces]

/-- A region on the first line of a text is read from behind its indentation. -/
theorem first?_opened {text behind : Text} {region : Region}
    (found : first? text = some (region, behind)) :
    ∃ margin opened, text = margin ++ opened ∧ (∀ c ∈ margin, isBlank c = true) ∧
      (conditional? opened = some (region, behind) ∨ iteration? opened = some (region, behind)) := by
  rcases Text.trimStart_eq (Text.firstLine text) with ⟨margin, blank, line⟩
  refine ⟨margin, Text.trimStart (Text.firstLine text) ++ Text.afterFirstLine text, ?_, blank, ?_⟩
  · rw [← List.append_assoc, ← line, Text.firstLine_append_afterFirstLine]
  · simp only [first?] at found
    split at found
    · exact .inl found
    · split at found
      · exact .inr found
      · contradiction

/-- A region as it is written behind a front part of the template, up to the text behind it. -/
structure Place (front text : Text) (region : Region) (behind : Text) where
  opening : Text
  headers : List Span
  inner : Text
  sections : List Section
  room : Text
  parted : text = opening ++ inner
  opens : Opens front opening headers
  written : Sections (front ++ opening) headers inner sections (room ++ behind)
  roomBlank : BlankRest room behind
  read : sections.map Section.pieces = region.pieces

theorem conditional?_place {text behind : Text} {region : Region}
    (found : conditional? text = some (region, behind)) (front : Text) :
    Nonempty (Place front text region behind) := by
  rcases Option.map_eq_some_iff.mp found with ⟨⟨inner, inside⟩, begins, parts⟩
  rcases Prod.mk.inj parts with ⟨rfl, rfl⟩
  rcases header?_place begins with ⟨header, room, rfl, rfl, roomBlank⟩
  rcases Text.skipBlankLine_rest (clauses (some header.inner) inside).2 with
    ⟨last, parted, lastBlank⟩
  have piece : [Span.behind (front ++ header.lead ifWord) header.inner].map Span.piece =
      (some header.inner).toList := rfl
  rcases clauses_sections (some header.inner) inside (front ++ header.text ifWord) piece roomBlank
    with ⟨sections, written, read⟩
  rw [parted] at written
  exact ⟨⟨_, _, _, sections, last, rfl, .condition header, written, lastBlank, read⟩⟩

theorem iteration?_place {text behind : Text} {region : Region}
    (found : iteration? text = some (region, behind)) (front : Text) :
    Nonempty (Place front text region behind) := by
  simp only [iteration?, Option.bind_eq_bind, Option.bind_eq_some_iff] at found
  rcases found with ⟨⟨inner, inside⟩, begins, ⟨name, collection⟩, parts, last⟩
  rcases Prod.mk.inj (Option.some.inj last) with ⟨rfl, rfl⟩
  rcases header?_place begins with ⟨header, room, rfl, rfl, roomBlank⟩
  rcases loopParts?_eq_some parts with ⟨words, inner, rfl, rfl⟩
  rcases Text.skipBlankLine_rest ((body inside).2.getD []) with ⟨last, parted, lastBlank⟩
  rcases body_sections roomBlank (front ++ header.text foreachWord)
    [.behind (front ++ header.lead foreachWord ++ words.beforeVariable) words.name,
      .behind (front ++ header.lead foreachWord ++ words.beforeCollection) words.collection] with
    ⟨sections, written, read⟩
  rw [parted] at written
  exact ⟨⟨_, _, _, sections, last, rfl, .loop header words inner, written, lastBlank, read⟩⟩

namespace Place

variable {front text behind : Text} {region : Region}

/-- A region takes a slice of the template that is not empty, with its spans in order. -/
theorem inOrder (place : Place front text region behind) :
    ∃ taken, text = taken ++ behind ∧ taken ≠ [] ∧
      InOrder (front ++ text) (size front) (size (front ++ taken))
        (place.sections.flatMap Section.spans) := by
  rcases place with ⟨opening, headers, inner, sections, room, rfl, opens, written, -, -⟩
  rcases written.inOrder with ⟨taken, rfl, inOrder⟩
  refine ⟨opening ++ taken ++ room, by simp, by simp [opens.nonempty], ?_⟩
  have placed := inOrder (size front) (opens.inOrder (taken ++ (room ++ behind)))
  rw [List.append_assoc] at placed
  apply placed.widen (Nat.le_refl _)
  simp

/-- Only the last clause has no condition. -/
theorem conditional (place : Place front text region behind) :
    ∀ clause ∈ region.pieces.dropLast, clause.1 ≠ [] := by
  rw [← place.read, ← List.map_dropLast]
  intro clause listed
  rcases List.mem_map.mp listed with ⟨part, among, rfl⟩
  simpa [Section.pieces] using place.written.conditional part among

end Place

end Region

/-! ## The loop over a template -/

namespace Node

/-- The text behind the first node of a template. -/
def afterFirst (text : Text) : Text :=
  match Region.first? text with
  | some (_, behind) => behind
  | none => Text.afterFirstLine text

theorem parse_afterFirst {text : Text} (notEmpty : text ≠ []) :
    ∃ node, parse text = node :: parse (afterFirst text) := by
  rw [afterFirst]
  split
  · rename_i region behind found
    cases region with
    | conditional clauses => exact ⟨_, parse_conditional found⟩
    | iteration name collection body => exact ⟨_, parse_iteration found⟩
  · rename_i plain
    exact ⟨_, parse_line notEmpty plain⟩

theorem firstLine_ne_nil {text : Text} (notEmpty : text ≠ []) : Text.firstLine text ≠ [] := by
  simpa [Text.firstLine] using notEmpty

/-- A turn of the loop takes a front part of the text that is not empty. -/
theorem afterFirst_taken {text : Text} (notEmpty : text ≠ []) :
    ∃ taken, taken ≠ [] ∧ text = taken ++ afterFirst text := by
  rw [afterFirst]
  split
  · rename_i region behind found
    have shorter := Region.weight_first?_lt found
    have suffix : behind <:+ text := by
      cases region with
      | conditional clauses => exact (Region.first?_conditional found).2
      | iteration name collection body => exact (Region.first?_iteration found).2.1
    rcases suffix with ⟨taken, rfl⟩
    refine ⟨taken, ?_, rfl⟩
    rintro rfl
    rw [List.nil_append] at shorter
    omega
  · exact ⟨Text.firstLine text, firstLine_ne_nil notEmpty,
      (Text.firstLine_append_afterFirstLine text).symm⟩

theorem length_afterFirst_lt {text : Text} (notEmpty : text ≠ []) :
    (afterFirst text).length < text.length := by
  rcases afterFirst_taken notEmpty with ⟨taken, nonempty, parted⟩
  have positive := List.length_pos_iff.mpr nonempty
  have sum := congrArg List.length parted
  rw [List.length_append] at sum
  omega

/-- The loop takes as many turns as the template has nodes, and then nothing is left. -/
theorem parse_turns (text : Text) :
    (parse text).length ≤ text.length ∧ afterFirst^[(parse text).length] text = [] ∧
      ∀ turn < (parse text).length, ∃ taken, taken ≠ [] ∧
        afterFirst^[turn] text = taken ++ afterFirst^[turn + 1] text := by
  -- The text behind a region is not the tail of the text, so the induction is on the length.
  induction bound : text.length using Nat.strong_induction_on generalizing text with
  | _ length ih =>
      by_cases empty : text = []
      · subst empty
        simp
      · rcases parse_afterFirst empty with ⟨node, nodes⟩
        have shorter := length_afterFirst_lt empty
        rcases ih _ (bound ▸ shorter) (afterFirst text) rfl with ⟨few, ended, turns⟩
        rw [nodes, List.length_cons]
        refine ⟨by omega, ended, ?_⟩
        intro turn before
        cases turn with
        | zero => exact afterFirst_taken empty
        | succ turn => exact turns turn (Nat.lt_of_succ_lt_succ before)

end Node

namespace Region

open Text (InOrder Slice size)

/-- A region is read from a place in a template to a place behind it. The text between the two is a
slice that is not empty, and in it the region is written as `Place` says, with its headers and
bodies in order; only the last of its clauses has no condition. The first region of a text is read
from behind an indentation. So each turn of the loop over a template takes a part of the text, and
after as many turns as there are nodes nothing is left. -/
theorem scanned_in_place :
    (∀ front text region behind,
      conditional? text = some (region, behind) ∨ iteration? text = some (region, behind) →
        ∃ (place : Place front text region behind) (stop : Nat) (taken : Text),
          size front < stop ∧ text = taken ++ behind ∧
          Slice (front ++ text) (size front) stop taken ∧
          Slice (front ++ text) stop (size (front ++ text)) behind ∧
          InOrder (front ++ text) (size front) stop
            (place.sections.flatMap Section.spans) ∧
          ∀ clause ∈ region.pieces.dropLast, clause.1 ≠ []) ∧
    (∀ text region behind, first? text = some (region, behind) →
      ∃ margin opened, text = margin ++ opened ∧ (∀ c ∈ margin, isBlank c = true) ∧
        (conditional? opened = some (region, behind) ∨
          iteration? opened = some (region, behind))) ∧
    ∀ text, (Node.parse text).length ≤ text.length ∧
      Node.afterFirst^[(Node.parse text).length] text = [] ∧
      ∀ turn < (Node.parse text).length, ∃ taken, taken ≠ [] ∧
        Node.afterFirst^[turn] text = taken ++ Node.afterFirst^[turn + 1] text := by
  refine ⟨?_, fun _ _ _ found => first?_opened found, Node.parse_turns⟩
  intro front text region behind found
  have placed : Nonempty (Place front text region behind) := by
    rcases found with found | found
    · exact conditional?_place found front
    · exact iteration?_place found front
  rcases placed with ⟨place⟩
  rcases place.inOrder with ⟨taken, rfl, nonempty, inOrder⟩
  have here := Text.slice_append front taken behind
  have rest := Text.slice_append (front ++ taken) behind []
  have positive := Text.size_pos nonempty
  refine ⟨place, size (front ++ taken), taken, ?_, rfl, ?_, ?_, inOrder, place.conditional⟩
  · rw [Text.size_append]
    omega
  · simpa using here
  · simpa [Nat.add_assoc] using rest

/-- A conditional region whose first body ends on an indented line, and a line behind it. -/
def twoClauses : Text :=
  ['@', 'i', 'f', '(', 'é', ')', '{', '\n', 'é', '\n', ' ', '}', 'e', 'l', 's', 'e', '{', 'b', '}',
    ' ', '\n', 'z']

theorem scanned_in_place_twoClauses :
    conditional? twoClauses =
      some (.conditional [⟨some ['é'], ['é', '\n']⟩, ⟨none, ['b']⟩], ['z']) ∧
    (∃ (place : Place ['é', '\n', ' '] twoClauses
          (.conditional [⟨some ['é'], ['é', '\n']⟩, ⟨none, ['b']⟩]) ['z']) (stop : Nat),
        4 < stop ∧ Slice (['é', '\n', ' '] ++ twoClauses) stop 28 ['z'] ∧
        InOrder (['é', '\n', ' '] ++ twoClauses) 4 stop
          (place.sections.flatMap Section.spans)) ∧
    (Node.parse twoClauses).length = 2 ∧ Node.afterFirst^[2] twoClauses = [] ∧
    Node.afterFirst^[1] twoClauses ≠ [] ∧
    ∃ margin opened, [' '] ++ twoClauses = margin ++ opened ∧
      (∀ c ∈ margin, isBlank c = true) ∧
      (conditional? opened =
          some (.conditional [⟨some ['é'], ['é', '\n']⟩, ⟨none, ['b']⟩], ['z']) ∨
        iteration? opened =
          some (.conditional [⟨some ['é'], ['é', '\n']⟩, ⟨none, ['b']⟩], ['z'])) := by
  have header : header? ifWord twoClauses =
      some (['é'], ['é', '\n', ' ', '}', 'e', 'l', 's', 'e', '{', 'b', '}', ' ', '\n', 'z']) :=
    rfl
  have body : body ['é', '\n', ' ', '}', 'e', 'l', 's', 'e', '{', 'b', '}', ' ', '\n', 'z'] =
      (['é', '\n'], some ['e', 'l', 's', 'e', '{', 'b', '}', ' ', '\n', 'z']) :=
    rfl
  have otherwise : continuation? ['e', 'l', 's', 'e', '{', 'b', '}', ' ', '\n', 'z'] =
      some (none, ['b', '}', ' ', '\n', 'z']) :=
    rfl
  have found : conditional? twoClauses =
      some (.conditional [⟨some ['é'], ['é', '\n']⟩, ⟨none, ['b']⟩], ['z']) := by
    rw [conditional?, header, Option.map_some, clauses_next body otherwise,
      clauses_last rfl (.inl rfl)]
    rfl
  have first : first? twoClauses = conditional? twoClauses := rfl
  have nodes : (Node.parse twoClauses).length = 2 := by
    rw [Node.parse_conditional (first.trans found), Node.parse_line (List.cons_ne_nil _ _) rfl]
    simp [Text.afterFirstLine]
  have indented : first? ([' '] ++ twoClauses) = conditional? twoClauses := rfl
  rcases scanned_in_place with ⟨scanned, opened, loop⟩
  rcases scanned ['é', '\n', ' '] _ _ _ (.inl found) with
    ⟨place, stop, -, progress, -, -, rest, inOrder, -⟩
  rcases loop twoClauses with ⟨-, ended, turns⟩
  rcases turns 1 (by rw [nodes]; decide) with ⟨taken, nonempty, parted⟩
  rw [nodes] at ended
  rw [ended, List.append_nil] at parted
  exact ⟨found, ⟨place, stop, progress, rest, inOrder⟩, nodes, ended, by rwa [parted],
    opened _ _ _ (indented.trans found)⟩

end Region

end TextTemplate
