import TextTemplate.Text
import Mathlib.Data.List.TakeWhile

/-!
# Blanks

What trimming does to a text that is put together from pieces. Blanks and the characters of names
exclude each other, which the tables of both properties show run by run.
-/

namespace TextTemplate

namespace Unicode

/-- No run of blanks meets a run of characters of names. -/
theorem whiteSpaceRuns_apart :
    (whiteSpaceRuns.all fun blanks => (alphabeticRuns ++ wordMarkRuns).all fun run =>
      Nat.blt run.last blanks.first || Nat.blt blanks.last run.first) = true := by
  decide +kernel

theorem inRuns_of_whiteSpace {point : Nat} (blank : inRuns whiteSpaceRuns point = true) :
    inRuns (alphabeticRuns ++ wordMarkRuns) point = false := by
  by_contra contained
  rw [Bool.not_eq_false] at contained
  simp only [inRuns, List.any_eq_true] at blank contained
  rcases blank with ⟨blanks, blanksListed, inBlanks⟩
  rcases contained with ⟨run, runListed, inRun⟩
  have apart := List.all_eq_true.mp (List.all_eq_true.mp whiteSpaceRuns_apart blanks blanksListed)
    run runListed
  simp only [Run.contains, Bool.and_eq_true, decide_eq_true_eq] at inBlanks inRun
  simp only [Bool.or_eq_true, Nat.blt_eq] at apart
  omega

/-- A blank is no part of a name. -/
theorem isWord_of_isBlank {c : Char} (blank : isBlank c = true) : isWord c = false := by
  unfold isBlank at blank
  split at blank
  · have small : c.toNat = 32 ∨ c.toNat = 9 ∨ c.toNat = 10 ∨ c.toNat = 11 ∨ c.toNat = 12 ∨
        c.toNat = 13 := by
      simp only [Bool.or_eq_true, beq_iff_eq, Bool.and_eq_true, decide_eq_true_eq] at blank
      omega
    rw [← Char.ofNat_toNat c]
    rcases small with point | point | point | point | point | point <;>
      · rw [point]
        decide
  · rename_i large
    have noWord := inRuns_of_whiteSpace blank
    simp only [inRuns, List.any_append] at noWord
    simp only [isWord, if_neg large, inRuns, noWord, Bool.false_and]

end Unicode

namespace Text

open Unicode (isBlank)

theorem trimStart_append {margin : Text} (blank : ∀ c ∈ margin, isBlank c = true) (rest : Text) :
    trimStart (margin ++ rest) = trimStart rest := by
  induction margin with
  | nil => rfl
  | cons c margin ih =>
      have here := blank c (by simp)
      have following := ih fun d inside => blank d (by simp [inside])
      simpa [trimStart, here] using following

theorem trimStart_cons {c : Char} (visible : isBlank c = false) (rest : Text) :
    trimStart (c :: rest) = c :: rest := by
  simp [trimStart, visible]

/-- A token that begins with a visible character is found behind the blanks before it. -/
theorem after?_trimStart {c : Char} (visible : isBlank c = false) (token rest : Text) :
    after? (c :: token) (trimStart (c :: token ++ rest)) = some rest := by
  rw [List.cons_append, trimStart_cons visible]
  exact after?_append (c :: token) rest

theorem trimEnd_append_blank {margin : Text} (blank : ∀ c ∈ margin, isBlank c = true)
    (front : Text) : trimEnd (front ++ margin) = trimEnd front := by
  have reversed : ∀ c ∈ margin.reverse, isBlank c = true := by
    intro c inside
    exact blank c (List.mem_reverse.mp inside)
  rw [trimEnd, List.reverse_append]
  exact congrArg List.reverse (trimStart_append reversed front.reverse)

/-- Blanks behind a text are trimmed away with those at its end. -/
theorem trim_append_blank {margin : Text} (blank : ∀ c ∈ margin, isBlank c = true)
    (text : Text) : trim (text ++ margin) = trim text := by
  rw [trim, trim, trimStart, trimStart, List.dropWhile_append]
  split
  · rename_i allBlank
    rw [List.isEmpty_iff.mp allBlank]
    have nothing := trimStart_append blank []
    rw [List.append_nil, trimStart] at nothing
    rw [nothing]
    rfl
  · exact trimEnd_append_blank blank _

/-- Blanks before a text are trimmed away with those at its start. -/
theorem trim_blank_append {margin : Text} (blank : ∀ c ∈ margin, isBlank c = true)
    (text : Text) : trim (margin ++ text) = trim text := by
  rw [trim, trimStart_append blank, trim]

/-- Trimming stops at a visible character. -/
theorem trimStart_append_cons {c : Char} (visible : isBlank c = false) (front rest : Text) :
    trimStart (front ++ c :: rest) = trimStart front ++ c :: rest := by
  have stop := trimStart_cons visible rest
  rw [trimStart] at stop
  rw [trimStart, trimStart, List.dropWhile_append, stop]
  split
  · rename_i allBlank
    rw [List.isEmpty_iff.mp allBlank, List.nil_append]
  · rfl

theorem trimEnd_append_cons {c : Char} (visible : isBlank c = false) (front rest : Text) :
    trimEnd (front ++ c :: rest) = front ++ c :: trimEnd rest := by
  have reversed : (front ++ c :: rest).reverse = rest.reverse ++ c :: front.reverse := by
    simp
  have stop := trimStart_append_cons visible rest.reverse front.reverse
  rw [trimStart, trimStart] at stop
  rw [trimEnd, reversed, stop, trimEnd]
  simp

/-- A text that is trimmed has nothing to trim at either end. -/
theorem trimStart_trimEnd_of_trim {text : Text} (trimmed : trim text = text) :
    trimStart text = text ∧ trimEnd text = text := by
  have start : trimStart text = text := by
    apply (List.dropWhile_suffix isBlank).eq_of_length_le
    calc text.length = (trim text).length := by rw [trimmed]
      _ ≤ (trimStart text).length := length_trimEnd_le (trimStart text)
  refine ⟨start, ?_⟩
  rw [trim, start] at trimmed
  exact trimmed

/-- A trimmed text that is not empty begins with a visible character. -/
theorem head_visible {text : Text} (trimmed : trim text = text) (nonempty : text ≠ []) :
    ∃ c rest, text = c :: rest ∧ isBlank c = false := by
  have start := (trimStart_trimEnd_of_trim trimmed).1
  rcases List.exists_cons_of_ne_nil nonempty with ⟨c, rest, shape⟩
  refine ⟨c, rest, shape, ?_⟩
  rw [shape, trimStart, List.dropWhile_eq_self_iff] at start
  simpa using start

/-- What ends in a trimmed text that is not empty has nothing to trim at its end. -/
theorem trimEnd_append {text : Text} (trimmed : trimEnd text = text) (nonempty : text ≠ [])
    (front : Text) : trimEnd (front ++ text) = front ++ text := by
  have reversed : text.reverse.dropWhile isBlank = text.reverse := by
    rw [← List.reverse_inj, List.reverse_reverse]
    exact trimmed
  cases shape : text.reverse with
  | nil => exact absurd (List.reverse_eq_nil_iff.mp shape) nonempty
  | cons c rest =>
      rw [shape, List.dropWhile_eq_self_iff] at reversed
      have visible := reversed (by simp)
      simp only [List.getElem_cons_zero] at visible
      rw [trimEnd, List.reverse_append, shape, List.cons_append, List.dropWhile_cons,
        if_neg visible, ← List.cons_append, ← shape]
      simp

/-- What begins with a visible character and ends in a trimmed text has nothing to trim. -/
theorem trim_cons_append {c : Char} (visible : isBlank c = false) (middle : Text) {text : Text}
    (trimmed : trimEnd text = text) (nonempty : text ≠ []) :
    trim (c :: middle ++ text) = c :: middle ++ text := by
  have start : trimStart (c :: middle ++ text) = c :: middle ++ text :=
    trimStart_cons visible _
  rw [trim, start]
  exact trimEnd_append trimmed nonempty (c :: middle)

/-- What begins and ends with visible characters has nothing to trim. -/
theorem trim_between {c d : Char} (firstVisible : isBlank c = false)
    (lastVisible : isBlank d = false) (middle : Text) :
    trim (c :: middle ++ [d]) = c :: middle ++ [d] := by
  have last : trimEnd [d] = [d] := by
    simp [trimEnd, lastVisible]
  exact trim_cons_append firstVisible middle last (by simp)

/-- A text without blanks has nothing to trim. -/
theorem trim_of_visible {text : Text} (visible : ∀ c ∈ text, isBlank c = false) :
    trim text = text := by
  have kept : ∀ text : Text, (∀ c ∈ text, isBlank c = false) → text.dropWhile isBlank = text := by
    intro text visible
    rw [List.dropWhile_eq_self_iff]
    intro long
    simp [visible _ (List.getElem_mem long)]
  have reversed : ∀ c ∈ text.reverse, isBlank c = false := by
    intro c inside
    exact visible c (List.mem_reverse.mp inside)
  rw [trim, trimStart, kept text visible, trimEnd, kept text.reverse reversed, List.reverse_reverse]

end Text

end TextTemplate
