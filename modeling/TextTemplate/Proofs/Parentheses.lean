import TextTemplate.Expression.Path

/-!
# Closing parentheses

The search for the parenthesis that closes the first one, followed through the pieces of a text:
what lies behind it does not matter, and neither do ordinary characters before it or what stands in
quotes.
-/

namespace TextTemplate.Text

/-- Text behind the closing parenthesis does not matter. -/
theorem closingFrom_append {depth : Nat} {quote : Option Char} {text : Text} {position : Nat}
    (found : closingFrom depth quote text = some position) (rest : Text) :
    closingFrom depth quote (text ++ rest) = some position := by
  induction text generalizing depth quote position with
  | nil => contradiction
  | cons c text ih =>
      rw [List.cons_append]
      rcases closingFrom_cons depth quote c with ⟨-, here⟩ | ⟨inner, open?, following⟩
      · rw [here] at found ⊢
        exact found
      · rw [following] at found ⊢
        rcases Option.map_eq_some_iff.mp found with ⟨place, before, rfl⟩
        rw [ih before]
        rfl

theorem closing?_cons (text : Text) :
    closing? ('(' :: text) = (closingFrom 1 none text).map (· + 1) :=
  rfl

/-- A character that is no quote, parenthesis or brace. -/
def isOrdinary (c : Char) : Bool :=
  c != '\'' && c != '"' && c != '(' && c != ')' && c != '{' && c != '}'

/-- Ordinary characters only move the closing parenthesis to the right. -/
theorem closingFrom_ordinary {front : Text} (ordinary : ∀ c ∈ front, isOrdinary c = true)
    (depth : Nat) (text : Text) :
    closingFrom depth none (front ++ text) =
      (closingFrom depth none text).map (· + front.length) := by
  induction front with
  | nil => simp
  | cons c front ih =>
      have here := ordinary c (by simp)
      simp only [isOrdinary, Bool.and_eq_true, bne_iff_ne, ne_eq] at here
      have following := ih fun d inside => ordinary d (by simp [inside])
      simp only [List.cons_append, closingFrom]
      rcases here with ⟨⟨⟨⟨noQuotes, noOpening⟩, noClosing⟩, -⟩, -⟩
      rw [if_neg (not_or.mpr noQuotes), if_neg noOpening, if_neg noClosing, following,
        Option.map_map]
      rfl

/-- What stands in quotes only moves the closing parenthesis to the right. -/
theorem closingFrom_quoted (depth : Nat) {mark : Char} {front : Text} (absent : mark ∉ front)
    (text : Text) :
    closingFrom depth (some mark) (front ++ mark :: text) =
      (closingFrom depth none text).map (· + (front.length + 1)) := by
  induction front with
  | nil => simp [closingFrom]
  | cons c front ih =>
      rw [List.mem_cons, not_or] at absent
      rw [List.cons_append, closingFrom, if_neg (Ne.symm absent.1), ih absent.2, Option.map_map]
      rfl

end TextTemplate.Text
