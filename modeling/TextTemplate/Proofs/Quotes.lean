import TextTemplate.Proofs.Blanks

/-!
# Texts in quotes

A text between two quotes of one kind loses them and nothing else, whatever quotes there are
within it.
-/

namespace TextTemplate

/-- The two kinds of quotes. -/
inductive Quote where
  | single
  | double
deriving DecidableEq

namespace Quote

/-- The character on either side of what stands in these quotes. -/
def mark : Quote → Char
  | single => '\''
  | double => '"'

/-- A text between two quotes. -/
def enclose (quote : Quote) (text : Text) : Text :=
  quote.mark :: text ++ [quote.mark]

theorem mark_visible (quote : Quote) : Unicode.isBlank quote.mark = false := by
  cases quote <;> decide

theorem trim_enclose (quote : Quote) (text : Text) :
    Text.trim (quote.enclose text) = quote.enclose text :=
  Text.trim_between quote.mark_visible quote.mark_visible text

theorem inQuotes?_enclose (quote : Quote) (text : Text) :
    Text.inQuotes? quote.mark (quote.enclose text) = some text := by
  have afterFirst : ∀ second rest, text ++ [quote.mark] = second :: rest →
      Text.inQuotes? quote.mark (quote.mark :: second :: rest) = some text := by
    intro second rest shape
    rw [Text.inQuotes?, ← shape]
    simp
  cases text with
  | nil => exact afterFirst quote.mark [] rfl
  | cons c rest => exact afterFirst c (rest ++ [quote.mark]) rfl

theorem inQuotes?_of_ne (quote : Quote) {c : Char} (different : c ≠ quote.mark) (text : Text) :
    Text.inQuotes? quote.mark (c :: text) = none := by
  cases text with
  | nil => rfl
  | cons d rest =>
      rw [Text.inQuotes?, if_neg]
      intro both
      exact different both.1

theorem unquote_enclose (quote : Quote) (text : Text) :
    Text.unquote (quote.enclose text) = text := by
  cases quote with
  | double =>
      have found := double.inQuotes?_enclose text
      simp only [mark] at found
      simp [Text.unquote, found]
  | single =>
      have found := single.inQuotes?_enclose text
      have other : Text.inQuotes? '"' (single.enclose text) = none :=
        double.inQuotes?_of_ne (by decide) _
      simp only [mark] at found
      simp [Text.unquote, found, other]

end Quote

end TextTemplate
