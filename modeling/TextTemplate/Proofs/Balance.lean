import TextTemplate.Proofs.Parentheses
import TextTemplate.Proofs.Encoding
import Mathlib.Order.Bounds.Basic

/-!
# The balancing parenthesis

A parenthesis is balanced by the first closing one outside quotes up to which as many parentheses
are opened as closed. The search for it counts how many are open and remembers the quote that is
open, and both are determined by the text that was read (`closingFrom_behind`): the count is what
was opened less what was closed, and while nothing is found it is never nought behind the first
parenthesis.

The search runs on byte strings as it does on texts, and among the bytes of a text it finds the
same place (`closingFrom_encoded`).
-/

namespace TextTemplate.Text

/-! ## Quotes -/

/-- The quote that is open behind a character. -/
def quoteBehind (quote : Option Char) (c : Char) : Option Char :=
  match quote with
  | some mark => if c = mark then none else some mark
  | none => if c = '\'' ∨ c = '"' then some c else none

/-- The quote that is open behind a text. -/
def openQuote (quote : Option Char) (text : Text) : Option Char :=
  text.foldl quoteBehind quote

/-- The characters that are in no quotes, the marks of the quotes left out. -/
def unquoted (quote : Option Char) : Text → Text
  | [] => []
  | c :: rest =>
    if quote = none ∧ quoteBehind quote c = none then c :: unquoted (quoteBehind quote c) rest
    else unquoted (quoteBehind quote c) rest

/-- How many parentheses are opened outside quotes. -/
def opened (quote : Option Char) (text : Text) : Nat :=
  (unquoted quote text).count '('

/-- How many parentheses are closed outside quotes. -/
def closed (quote : Option Char) (text : Text) : Nat :=
  (unquoted quote text).count ')'

theorem opened_cons (quote : Option Char) (c : Char) (rest : Text) :
    opened quote (c :: rest) = opened quote [c] + opened (quoteBehind quote c) rest := by
  simp only [opened, unquoted]
  split
  · rw [← List.singleton_append, List.count_append]
  · simp

theorem closed_cons (quote : Option Char) (c : Char) (rest : Text) :
    closed quote (c :: rest) = closed quote [c] + closed (quoteBehind quote c) rest := by
  simp only [closed, unquoted]
  split
  · rw [← List.singleton_append, List.count_append]
  · simp

/-! ## The search -/

/-- A character closes the outermost parenthesis, or it is counted and the search goes on. -/
theorem closingFrom_step (depth : Nat) (quote : Option Char) (c : Char) (rest : Text) :
    closingFrom depth quote (c :: rest) =
      if c = ')' ∧ quote = none ∧ depth = 1 then some 0
      else (closingFrom (depth + opened quote [c] - closed quote [c]) (quoteBehind quote c)
        rest).map (· + 1) := by
  cases quote with
  | some mark =>
      by_cases ends : c = mark
      · simp [closingFrom, opened, closed, unquoted, quoteBehind, ends]
      · simp [closingFrom, opened, closed, unquoted, quoteBehind, ends]
  | none =>
      by_cases begins : c = '\'' ∨ c = '"'
      · have other : c ≠ ')' := by
          rintro rfl
          simp at begins
        simp [closingFrom, opened, closed, unquoted, quoteBehind, begins, other]
      · by_cases opening : c = '('
        · simp [closingFrom, opened, closed, unquoted, quoteBehind, opening]
        · by_cases closing : c = ')'
          · simp [closingFrom, opened, closed, unquoted, quoteBehind, closing]
          · simp [closingFrom, opened, closed, unquoted, quoteBehind, begins, opening, closing]

/-- At the place stands a closing parenthesis outside quotes, and up to it all the parentheses are
closed of which `depth` were open before the text. -/
structure Closes (depth : Nat) (quote : Option Char) (text : Text) (place : Nat) : Prop where
  closing : text[place]? = some ')'
  outside : openQuote quote (text.take place) = none
  balanced : depth + opened quote (text.take (place + 1)) = closed quote (text.take (place + 1))

theorem closes_zero {depth : Nat} {quote : Option Char} {c : Char} {rest : Text} :
    Closes depth quote (c :: rest) 0 ↔ c = ')' ∧ quote = none ∧ depth = 1 := by
  constructor
  · rintro ⟨closing, outside, balanced⟩
    simp only [List.getElem?_cons_zero, Option.some.injEq] at closing
    have noQuote : quote = none := outside
    subst closing noQuote
    simpa [opened, closed, unquoted, quoteBehind] using balanced
  · rintro ⟨rfl, rfl, rfl⟩
    exact ⟨rfl, rfl, rfl⟩

/-- Behind a character the search is for what closes the parentheses that are open there. -/
theorem closes_succ {depth : Nat} {quote : Option Char} {c : Char} {rest : Text} {place : Nat}
    (counted : closed quote [c] ≤ depth + opened quote [c]) :
    Closes depth quote (c :: rest) (place + 1) ↔
      Closes (depth + opened quote [c] - closed quote [c]) (quoteBehind quote c) rest place := by
  have openedBehind := opened_cons quote c (rest.take (place + 1))
  have closedBehind := closed_cons quote c (rest.take (place + 1))
  constructor
  · rintro ⟨closing, outside, balanced⟩
    refine ⟨closing, outside, ?_⟩
    simp only [List.take_succ_cons] at balanced
    omega
  · rintro ⟨closing, outside, balanced⟩
    refine ⟨closing, outside, ?_⟩
    simp only [List.take_succ_cons]
    omega

/-- What a character that does not close the outermost parenthesis leaves open. -/
theorem counted_pos {depth : Nat} (positive : 0 < depth) {quote : Option Char} {c : Char}
    (goesOn : ¬(c = ')' ∧ quote = none ∧ depth = 1)) :
    closed quote [c] < depth + opened quote [c] := by
  by_cases closing : c = ')' ∧ quote = none
  · rcases closing with ⟨rfl, rfl⟩
    simp only [true_and] at goesOn
    simp only [closed, opened, unquoted, quoteBehind]
    simp
    omega
  · have none : closed quote [c] = 0 := by
      simp only [closed, List.count_eq_zero, unquoted]
      intro inside
      split at inside
      · rename_i outside
        rcases List.mem_cons.mp inside with here | behind
        · exact closing ⟨here.symm, outside.1⟩
        · contradiction
      · contradiction
    omega

/-- The search finds the first place that closes what is open. -/
theorem closingFrom_least {depth : Nat} (positive : 0 < depth) (quote : Option Char)
    (text : Text) :
    (∀ place, closingFrom depth quote text = some place →
      IsLeast {place | Closes depth quote text place} place) ∧
    (closingFrom depth quote text = none → ∀ place, ¬Closes depth quote text place) := by
  induction text generalizing depth quote with
  | nil =>
      refine ⟨?_, ?_⟩
      · intro place found
        contradiction
      · rintro - place ⟨closing, -, -⟩
        simp at closing
  | cons c rest ih =>
      rw [closingFrom_step]
      by_cases closes : c = ')' ∧ quote = none ∧ depth = 1
      · rw [if_pos closes]
        refine ⟨?_, ?_⟩
        · intro place found
          rcases Option.some.inj found with rfl
          exact ⟨closes_zero.mpr closes, fun place _ => Nat.zero_le place⟩
        · intro missing
          contradiction
      · rw [if_neg closes]
        have counted := counted_pos positive closes
        have shifted {place : Nat} := @closes_succ depth quote c rest place counted.le
        rcases ih (Nat.sub_pos_of_lt counted) (quoteBehind quote c) with ⟨least, none⟩
        refine ⟨?_, ?_⟩
        · intro place found
          rcases Option.map_eq_some_iff.mp found with ⟨before, inside, rfl⟩
          rcases least before inside with ⟨here, first⟩
          refine ⟨shifted.mpr here, ?_⟩
          intro other closesThere
          cases other with
          | zero => exact absurd (closes_zero.mp closesThere) closes
          | succ other => exact Nat.succ_le_succ (first (shifted.mp closesThere))
        · intro missing place closesThere
          cases place with
          | zero => exact closes (closes_zero.mp closesThere)
          | succ place =>
              exact none (Option.map_eq_none_iff.mp missing) place (shifted.mp closesThere)

/-- Behind a text in which nothing closes the outermost parenthesis the search goes on with the
count of what is open, which is not nought. -/
theorem closingFrom_behind {depth : Nat} (positive : 0 < depth) {quote : Option Char}
    {front : Text} (missing : closingFrom depth quote front = none) :
    closed quote front < depth + opened quote front ∧
      ∀ rest, closingFrom depth quote (front ++ rest) =
        (closingFrom (depth + opened quote front - closed quote front) (openQuote quote front)
          rest).map (· + front.length) := by
  induction front generalizing depth quote with
  | nil =>
      refine ⟨?_, ?_⟩
      · simpa [opened, closed, unquoted] using positive
      · intro rest
        simp [opened, closed, unquoted, openQuote]
  | cons c front ih =>
      rw [closingFrom_step] at missing
      split at missing
      · contradiction
      · rename_i goesOn
        have counted := counted_pos positive goesOn
        rcases ih (Nat.sub_pos_of_lt counted) (Option.map_eq_none_iff.mp missing) with
          ⟨positiveBehind, following⟩
        have openedBehind := opened_cons quote c front
        have closedBehind := closed_cons quote c front
        refine ⟨by omega, ?_⟩
        intro rest
        have count : depth + opened quote [c] - closed quote [c] +
            opened (quoteBehind quote c) front - closed (quoteBehind quote c) front =
              depth + opened quote (c :: front) - closed quote (c :: front) := by
          omega
        rw [List.cons_append, closingFrom_step, if_neg goesOn, following, count, Option.map_map]
        rfl

/-- The same for the search that begins with the parenthesis itself. -/
theorem closing?_behind {front : Text} (missing : closing? ('(' :: front) = none) (rest : Text) :
    closed none ('(' :: front) < opened none ('(' :: front) ∧
      closing? ('(' :: front ++ rest) =
        (closingFrom (opened none ('(' :: front) - closed none ('(' :: front))
          (openQuote none ('(' :: front)) rest).map (· + ('(' :: front).length) := by
  have openedBehind : opened none ('(' :: front) = 1 + opened none front :=
    opened_cons none '(' front
  have closedBehind : closed none ('(' :: front) = 0 + closed none front :=
    closed_cons none '(' front
  rw [closing?_cons] at missing
  rcases closingFrom_behind Nat.one_pos (Option.map_eq_none_iff.mp missing) with
    ⟨positive, following⟩
  refine ⟨by omega, ?_⟩
  rw [List.cons_append, closing?_cons, following, openedBehind, closedBehind, Nat.zero_add,
    Option.map_map]
  rfl

/-! ## The search from a place -/

/-- The place of the parenthesis that closes the one at `opening`. -/
def closingAt? (text : Text) (opening : Nat) : Option Nat :=
  (closing? (text.drop opening)).map (opening + ·)

/-- At `place` stands a closing parenthesis outside quotes, and from `opening` through it as many
parentheses are opened as closed. Quotes are counted from `opening` on. -/
structure BalancesAt (text : Text) (opening place : Nat) : Prop where
  behind : opening < place
  closing : text[place]? = some ')'
  outside : openQuote none (text.extract opening place) = none
  balanced : opened none (text.extract opening (place + 1)) =
    closed none (text.extract opening (place + 1))

theorem drop_opening {text : Text} {opening : Nat} (opens : text[opening]? = some '(') :
    text.drop opening = '(' :: text.drop (opening + 1) := by
  rcases List.getElem?_eq_some_iff.mp opens with ⟨inside, here⟩
  rw [List.drop_eq_getElem_cons inside, here]

theorem balancesAt_iff {text : Text} {opening : Nat} (opens : text[opening]? = some '(')
    (place : Nat) :
    BalancesAt text opening (opening + (place + 1)) ↔
      Closes 1 none (text.drop (opening + 1)) place := by
  have counted := @closes_succ 0 none '(' (text.drop (opening + 1)) place (by decide)
  have length : opening + (place + 1) - opening = place + 1 := by omega
  have lengthBehind : opening + (place + 1) + 1 - opening = place + 1 + 1 := by omega
  have there : text[opening + (place + 1)]? = ('(' :: text.drop (opening + 1))[place + 1]? := by
    rw [← drop_opening opens, List.getElem?_drop]
  refine Iff.trans ?_ counted
  constructor
  · rintro ⟨-, closing, outside, balanced⟩
    simp only [List.extract, length, lengthBehind, drop_opening opens] at outside balanced
    exact ⟨there.symm.trans closing, outside, by simpa using balanced⟩
  · rintro ⟨closing, outside, balanced⟩
    refine ⟨by omega, there.trans closing, ?_, ?_⟩
    · simpa only [List.extract, length, drop_opening opens] using outside
    · simpa only [List.extract, lengthBehind, drop_opening opens, Nat.zero_add] using balanced

/-- The search from a parenthesis finds the first place that balances it. -/
theorem closingAt?_least {text : Text} {opening : Nat} (opens : text[opening]? = some '(') :
    (∀ place, closingAt? text opening = some place ↔
      IsLeast {place | BalancesAt text opening place} place) ∧
    (closingAt? text opening = none ↔ ∀ place, ¬BalancesAt text opening place) := by
  rcases closingFrom_least Nat.one_pos none (text.drop (opening + 1)) with ⟨least, missing⟩
  have search : closingAt? text opening =
      (closingFrom 1 none (text.drop (opening + 1))).map (opening + 1 + ·) := by
    rw [closingAt?, drop_opening opens, closing?_cons, Option.map_map]
    congr 1
    funext place
    simp only [Function.comp]
    omega
  have first : ∀ place, closingAt? text opening = some place →
      IsLeast {place | BalancesAt text opening place} place := by
    intro place found
    rcases Option.map_eq_some_iff.mp (search.symm.trans found) with ⟨before, inside, rfl⟩
    rcases least before inside with ⟨here, lower⟩
    refine ⟨?_, ?_⟩
    · change BalancesAt text opening (opening + 1 + before)
      rw [Nat.add_assoc, Nat.add_comm 1]
      exact (balancesAt_iff opens before).mpr here
    · intro other balances
      have beyond := balances.behind
      rcases Nat.exists_eq_add_of_lt beyond with ⟨rest, rfl⟩
      have bound := lower ((balancesAt_iff opens rest).mp balances)
      omega
  have noPlace : closingAt? text opening = none → ∀ place, ¬BalancesAt text opening place := by
    intro nothing place balances
    have beyond := balances.behind
    rcases Nat.exists_eq_add_of_lt beyond with ⟨rest, rfl⟩
    exact missing (Option.map_eq_none_iff.mp (search.symm.trans nothing)) rest
      ((balancesAt_iff opens rest).mp balances)
  refine ⟨?_, noPlace, ?_⟩
  · intro place
    refine ⟨first place, ?_⟩
    intro least
    cases found : closingAt? text opening with
    | none => exact absurd least.1 (noPlace found place)
    | some other => rw [(first other found).unique least]
  · intro nowhere
    cases found : closingAt? text opening with
    | none => rfl
    | some place => exact absurd (first place found).1 (nowhere place)

/-! ## The search among bytes -/

/-- The byte of a character that takes several changes neither the count nor the quote. -/
theorem closingFrom_large {c : Char} (large : ¬c.toNat < 128) (depth : Nat) {quote : Option Char}
    (basic : ∀ mark ∈ quote, mark.toNat < 128) (rest : Text) :
    closingFrom depth quote (c :: rest) = (closingFrom depth quote rest).map (· + 1) := by
  have other {mark : Char} (small : mark.toNat < 128) : c ≠ mark := by
    rintro rfl
    exact large small
  cases quote with
  | some mark => rw [closingFrom, if_neg (other (basic mark rfl))]
  | none =>
      have noQuote : ¬(c = '\'' ∨ c = '"') :=
        not_or.mpr ⟨other (by decide), other (by decide)⟩
      rw [closingFrom, if_neg noQuote, if_neg (other (by decide)), if_neg (other (by decide))]

theorem closingFrom_marks {marks : Text} (large : ∀ c ∈ marks, ¬c.toNat < 128) (depth : Nat)
    {quote : Option Char} (basic : ∀ mark ∈ quote, mark.toNat < 128) (rest : Text) :
    closingFrom depth quote (marks ++ rest) =
      (closingFrom depth quote rest).map (· + marks.length) := by
  induction marks with
  | nil => simp
  | cons c marks ih =>
      rcases List.forall_mem_cons.mp large with ⟨first, others⟩
      rw [List.cons_append, closingFrom_large first depth basic, ih others, Option.map_map]
      rfl

theorem quoteBehind_basic {quote : Option Char} (basic : ∀ mark ∈ quote, mark.toNat < 128)
    (c : Char) : ∀ mark ∈ quoteBehind quote c, mark.toNat < 128 := by
  intro mark behind
  cases quote with
  | some before =>
      simp only [quoteBehind] at behind
      split at behind
      · exact absurd behind (Option.not_mem_none mark)
      · rcases Option.some.inj behind with rfl
        exact basic before rfl
  | none =>
      simp only [quoteBehind] at behind
      split at behind
      · rename_i isMark
        rcases Option.some.inj behind with rfl
        rcases isMark with rfl | rfl <;> decide
      · exact absurd behind (Option.not_mem_none mark)

/-- Among the bytes of a text the search finds what it finds in the text. -/
theorem closingFrom_encoded (depth : Nat) {quote : Option Char}
    (basic : ∀ mark ∈ quote, mark.toNat < 128) (text : Text) :
    closingFrom depth quote (encoded text) =
      (closingFrom depth quote text).map fun place => size (text.take place) := by
  induction text using encoding_induction generalizing depth quote with
  | nil => rfl
  | basic c rest small written ih =>
      have unit := utf8Size_basic small
      rw [written, closingFrom_step, closingFrom_step]
      split
      · rfl
      · rw [ih _ (quoteBehind_basic basic c), Option.map_map, Option.map_map]
        congr 1
        funext place
        simp only [Function.comp, List.take_succ_cons, size_cons]
        omega
  | large c rest marks several above length written ih =>
      rw [written, closingFrom_marks above depth basic, closingFrom_large several depth basic,
        ih depth basic, Option.map_map, Option.map_map]
      congr 1
      funext place
      simp only [Function.comp, List.take_succ_cons, size_cons]
      omega

/-- The search among the bytes of a text finds the byte of the parenthesis that the search in the
text finds. -/
theorem closingAt?_encoded (front text : Text) :
    closingAt? (encoded (front ++ text)) (size front) =
      (closing? text).map fun place => size front + size (text.take place) := by
  rw [closingAt?, drop_encoded, closing?, closingFrom_encoded 0 (by simp), Option.map_map]
  rfl

end TextTemplate.Text
