import TextTemplate.Proofs.Digits
import TextTemplate.Value.Json
import Mathlib.Data.List.TakeWhile

/-!
# Scalars of JSON texts

Written numbers and strings are read back, whatever text follows a string, and whatever text follows
a number that does not go on with it. What is read otherwise is a scalar all the same.
-/

namespace TextTemplate.Json

/-! ## Numbers -/

/-- A text that does not continue a whole number. -/
def EndsNumber (text : Text) : Prop :=
  ∀ c ∈ text.head?, c.isDigit = false ∧ c ≠ '.' ∧ c ≠ 'e' ∧ c ≠ 'E'

theorem le_ofDigitChars (digits : Text) (significand : Nat) :
    significand ≤ Nat.ofDigitChars 10 digits significand := by
  rw [Nat.ofDigitChars_eq_ofDigitChars_zero]
  have := Nat.le_mul_of_pos_left significand (Nat.pow_pos (n := digits.length) (by omega : 0 < 10))
  omega

/-- All digits are gathered while they fit. -/
theorem gather_eq {digits : Text} {significand : Nat}
    (fits : Nat.ofDigitChars 10 digits significand < Nat.pow 2 64) :
    gather significand digits = (Nat.ofDigitChars 10 digits significand, digits.length) := by
  induction digits generalizing significand with
  | nil => simp [gather]
  | cons digit rest ih =>
      have next : 10 * significand + (digit.toNat - '0'.toNat) =
          significand * 10 + digitValue digit := by
        rw [Nat.mul_comm, digitValue]
      rw [Nat.ofDigitChars_cons, next] at fits ⊢
      have room := Nat.lt_of_le_of_lt (le_ofDigitChars rest _) fits
      simp [gather, room, ih fits]

/-- Only nought begins with the digit nought. -/
theorem head?_toDigits {n : Nat} (positive : 0 < n) : (Nat.toDigits 10 n).head? ≠ some '0' := by
  induction n using Nat.strongRecOn with
  | ind n ih =>
      rw [Nat.toDigits_eq_if (by omega)]
      split
      · rename_i small
        have digit : ∀ n < 10, 0 < n → [Nat.digitChar n].head? ≠ some '0' := by decide
        exact digit n small positive
      · have front := ih (n / 10) (by omega) (by omega)
        cases shape : Nat.toDigits 10 (n / 10) with
        | nil => exact absurd shape Nat.toDigits_ne_nil
        | cons digit rest => simpa [shape] using front

theorem not_padded (n : Nat) :
    ¬((Nat.toDigits 10 n).head? = some '0' ∧ 1 < (Nat.toDigits 10 n).length) := by
  rintro ⟨padded, long⟩
  by_cases positive : 0 < n
  · exact head?_toDigits positive padded
  · have nought : n = 0 := by omega
    simp [nought] at long

theorem EndsNumber.takeWhile {rest : Text} (ends : EndsNumber rest) :
    rest.takeWhile Char.isDigit = [] ∧ rest.dropWhile Char.isDigit = rest := by
  cases rest with
  | nil => simp
  | cons c rest =>
      have other := (ends c rfl).1
      simp [other]

theorem EndsNumber.writtenPower? {rest : Text} (ends : EndsNumber rest) :
    writtenPower? rest = some (none, rest) := by
  cases rest with
  | nil => rfl
  | cons c rest =>
      rcases ends c rfl with ⟨-, -, notSmall, notCapital⟩
      simp [Json.writtenPower?, notSmall, notCapital]

theorem unsigned?_ofNat {n : Nat} (fits : n < Nat.pow 2 64) (negative : Bool) {rest : Text}
    (ends : EndsNumber rest) :
    unsigned? negative (Digits.ofNat n ++ rest) = some (wholeNumber negative n, rest) := by
  have digits : ∀ c ∈ Nat.toDigits 10 n, c.isDigit = true := by
    intro c inside
    exact Digits.isDigit_of_mem_ofNat inside
  have front : (Digits.ofNat n ++ rest).takeWhile Char.isDigit = Nat.toDigits 10 n := by
    rw [Digits.ofNat, List.takeWhile_append_of_pos digits, ends.takeWhile.1, List.append_nil]
  have behind : (Digits.ofNat n ++ rest).dropWhile Char.isDigit = rest := by
    rw [Digits.ofNat, List.dropWhile_append_of_pos digits, ends.takeWhile.2]
  have gathered : gather 0 (Nat.toDigits 10 n) = (n, (Nat.toDigits 10 n).length) := by
    have whole := Nat.ofDigitChars_ten_toDigits (n := n)
    rw [gather_eq (by rwa [whole]), whole]
  have shape : ¬(Nat.toDigits 10 n = [] ∨
      ((Nat.toDigits 10 n).head? = some '0' ∧ 1 < (Nat.toDigits 10 n).length)) := by
    simp only [Nat.toDigits_ne_nil, false_or]
    exact not_padded n
  simp only [unsigned?, front, behind, if_neg shape, gathered, Nat.sub_self]
  split
  · have point := (ends '.' rfl).2.1
    contradiction
  · simp [ends.writtenPower?]

theorem number?_ofInt {n : Int} (low : -(Nat.pow 2 63 : Int) ≤ n) (high : n < Nat.pow 2 63)
    {rest : Text} (ends : EndsNumber rest) :
    number? (Digits.ofInt n ++ rest) = some (.whole n, rest) := by
  have wider : Nat.pow 2 63 < Nat.pow 2 64 := by decide
  have magnitude := unsigned?_ofNat (n := n.natAbs) (by omega)
  unfold Digits.ofInt
  split
  · rename_i below
    have inRange : ¬(n.natAbs = 0 ∨ Nat.pow 2 63 < n.natAbs) := by omega
    have value : -(n.natAbs : Int) = n := by omega
    rw [List.cons_append, number?, magnitude true ends, wholeNumber, if_neg (by simp),
      if_neg inRange, value]
  · rename_i notBelow
    have value : (n.natAbs : Int) = n := by omega
    rcases Digits.ofNat_head n.natAbs with ⟨c, digits, shape, digit⟩
    have unsigned : number? (Digits.ofNat n.natAbs ++ rest) =
        unsigned? false (Digits.ofNat n.natAbs ++ rest) := by
      rw [shape, List.cons_append]
      unfold number?
      split
      · simp_all
      · rfl
    rw [unsigned, magnitude false ends, wholeNumber, if_pos rfl, value]

/-- A character with which a written number begins. -/
def BeginsNumber (c : Char) : Prop :=
  c = '-' ∨ c.isDigit = true

theorem ofInt_head (n : Int) : ∃ c rest, Digits.ofInt n = c :: rest ∧ BeginsNumber c := by
  unfold Digits.ofInt
  split
  · exact ⟨'-', _, rfl, .inl rfl⟩
  · rcases Digits.ofNat_head n.natAbs with ⟨c, digits, shape, digit⟩
    exact ⟨c, digits, shape, .inr digit⟩

theorem token?_of_beginsNumber {c : Char} (begins : BeginsNumber c) (rest : Text) :
    token? (c :: rest) =
      (number? (c :: rest)).map fun parts => (.scalar parts.1, parts.2) := by
  have notToken : c ∉ ['[', ']', '{', '}', ',', ':', '"', 'n', 't', 'f'] := by
    intro listed
    rcases begins with rfl | digit
    · revert listed
      decide
    · have other : (['[', ']', '{', '}', ',', ':', '"', 'n', 't', 'f'].all
          fun c => !c.isDigit) = true := by
        decide
      simpa [digit] using List.all_eq_true.mp other c listed
  simp only [List.mem_cons, List.not_mem_nil, or_false, not_or, ← ne_eq] at notToken
  have scalar : scalar? (c :: rest) = number? (c :: rest) := by
    simp [scalar?, Text.after?, notToken.2.2.2.2.2.2.2.1.symm, notToken.2.2.2.2.2.2.2.2.1.symm,
      notToken.2.2.2.2.2.2.2.2.2.symm]
  rw [← scalar]
  unfold token?
  split <;> simp_all

/-! ## Strings -/

theorem unit?_control : ∀ n < 32,
    unit? '0' '0' (Nat.digitChar (n / 16)) (Nat.digitChar (n % 16)) = some n := by
  decide

/-- An escaped character is read as itself. -/
theorem stringBody?_escapeChar (c : Char) (rest : Text) :
    stringBody? (Value.escapeChar c ++ rest) =
      (stringBody? rest).map fun parts => (c :: parts.1, parts.2) := by
  unfold Value.escapeChar
  split
  case h_8 =>
    split
    · rename_i control
      have unit := unit?_control c.toNat control
      have noPair : isHighUnit c.toNat = false ∧ isLowUnit c.toNat = false := by
        simp only [isHighUnit, isLowUnit, Bool.and_eq_false_iff, decide_eq_false_iff_not]
        omega
      simp [stringBody?, unit, noPair]
    · rename_i ordinary
      rw [List.singleton_append, stringBody?, if_neg ordinary]
      all_goals
        intros
        simp_all
  all_goals rfl

theorem stringBody?_escaped (text rest : Text) :
    stringBody? (text.flatMap Value.escapeChar ++ '"' :: rest) = some (text, rest) := by
  induction text with
  | nil => rfl
  | cons c text ih => simp [stringBody?_escapeChar, ih]

theorem token?_quoteText (text rest : Text) :
    token? (Value.quoteText text ++ rest) = some (.string (String.ofList text), rest) := by
  simp [Value.quoteText, token?, stringBody?_escaped]

/-! ## Kinds of scalars -/

/-- A document that is no string and has no parts. -/
inductive IsScalar : Json → Prop where
  | null : IsScalar .null
  | bool (b : Bool) : IsScalar (.bool b)
  | whole (n : Int) : IsScalar (.whole n)
  | float (x : Float) : IsScalar (.float x)

theorem isScalar_wholeNumber (negative : Bool) (n : Nat) : (wholeNumber negative n).IsScalar := by
  unfold wholeNumber
  split
  · exact .whole n
  · split
    · exact .float _
    · exact .whole _

theorem isScalar_of_floating? {negative : Bool} {significand : Nat} {power : Int}
    {written : Option (Bool × Nat)} {value : Json}
    (read : floating? negative significand power written = some value) : value.IsScalar := by
  have scaled {x : Option Float} {sign : Float → Float}
      (read : x.map (fun x => Json.float (sign x)) = some value) : value.IsScalar := by
    rcases Option.map_eq_some_iff.mp read with ⟨x, -, rfl⟩
    exact .float _
  cases written with
  | none => exact scaled read
  | some power =>
      by_cases small : power.2 < Nat.pow 2 31
      · simp only [floating?, small, if_true] at read
        exact scaled read
      · simp only [floating?, small, if_false, Option.ite_none_left_eq_some,
          Option.some.injEq] at read
        rw [← read.2]
        exact .float _

theorem isScalar_of_unsigned? {negative : Bool} {text rest : Text} {value : Json}
    (read : unsigned? negative text = some (value, rest)) : value.IsScalar := by
  simp only [unsigned?] at read
  split at read
  · contradiction
  · split at read
    · split at read
      · contradiction
      · simp only [Option.bind_eq_bind, Option.bind_eq_some_iff, Option.some.injEq,
          Prod.mk.injEq] at read
        rcases read with ⟨written, -, value, float, rfl, -⟩
        exact isScalar_of_floating? float
    · simp only [Option.bind_eq_bind, Option.bind_eq_some_iff] at read
      rcases read with ⟨written, -, read⟩
      split at read
      · simp only [Option.some.injEq, Prod.mk.injEq] at read
        rw [← read.1]
        exact isScalar_wholeNumber _ _
      · simp only [Option.bind_eq_some_iff, Option.some.injEq, Prod.mk.injEq] at read
        rcases read with ⟨value, float, rfl, -⟩
        exact isScalar_of_floating? float

theorem isScalar_of_scalar? {text rest : Text} {value : Json}
    (read : scalar? text = some (value, rest)) : value.IsScalar := by
  unfold scalar? at read
  split at read
  · rw [← (Prod.mk.inj (Option.some.inj read)).1]
    exact .null
  · split at read
    · rw [← (Prod.mk.inj (Option.some.inj read)).1]
      exact .bool true
    · split at read
      · rw [← (Prod.mk.inj (Option.some.inj read)).1]
        exact .bool false
      · unfold number? at read
        split at read
        · exact isScalar_of_unsigned? read
        · exact isScalar_of_unsigned? read

theorem isScalar_of_token? {text rest : Text} {value : Json}
    (read : token? text = some (.scalar value, rest)) : value.IsScalar := by
  unfold token? at read
  split at read
  case h_8 =>
    simp only [Option.map_eq_some_iff, Prod.mk.injEq, Token.scalar.injEq] at read
    rcases read with ⟨parts, read, rfl, -⟩
    exact isScalar_of_scalar? read
  all_goals simp at read

end TextTemplate.Json
