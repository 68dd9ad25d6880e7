import TextTemplate.Number.Digits

/-!
# Written whole numbers

The digits of a number are read back as that number, and so is an integer of 64 bits with its sign.
-/

namespace TextTemplate.Digits

theorem isDigit_of_mem_ofNat {n : Nat} {c : Char} (inside : c ∈ ofNat n) : c.isDigit = true :=
  Nat.isDigit_of_mem_toDigits (b := 10) (n := n) (by omega) (by omega) inside

theorem ofNat_head (n : Nat) : ∃ c rest, ofNat n = c :: rest ∧ c.isDigit = true := by
  cases shape : ofNat n with
  | nil => exact absurd shape Nat.toDigits_ne_nil
  | cons c rest =>
      refine ⟨c, rest, rfl, isDigit_of_mem_ofNat (n := n) ?_⟩
      simp [shape]

theorem value?_ofNat (n : Nat) : value? (ofNat n) = some n := by
  have digits : (ofNat n).all Char.isDigit = true := by
    rw [List.all_eq_true]
    intro c inside
    exact isDigit_of_mem_ofNat inside
  rw [value?, if_pos ⟨Nat.toDigits_ne_nil, digits⟩, ofNat, Nat.ofDigitChars_ten_toDigits]

theorem natural?_ofNat {n bound : Nat} (fits : n < bound) : natural? bound (ofNat n) = some n := by
  have digits : natural? bound (ofNat n) = (value? (ofNat n)).filter (· < bound) := by
    rcases ofNat_head n with ⟨c, rest, shape, digit⟩
    rw [shape]
    unfold natural?
    split
    · simp_all
    · rfl
  simp [digits, value?_ofNat, fits]

theorem int64?_ofInt (n : Int64) : int64? (ofInt n.toInt) = some n := by
  have low := n.le_toInt
  have high := n.toInt_lt
  have bound : Nat.pow 2 63 = 9223372036854775808 := rfl
  unfold ofInt
  split
  · have room : n.toInt.natAbs ≤ Nat.pow 2 63 := by omega
    have magnitude : -(n.toInt.natAbs : Int) = n.toInt := by omega
    rw [int64?, value?_ofNat, Option.bind_some, if_pos room, magnitude, Int64.ofInt_toInt]
  · have room : n.toInt.natAbs < Nat.pow 2 63 := by omega
    have magnitude : (n.toInt.natAbs : Int) = n.toInt := by omega
    have unsigned := natural?_ofNat room
    rcases ofNat_head n.toInt.natAbs with ⟨c, rest, shape, digit⟩
    rw [shape] at unsigned ⊢
    unfold int64?
    split
    · simp_all
    · simp [unsigned, magnitude]

/-! ## Margins of written numbers -/

theorem isBlank_of_isDigit {c : Char} (digit : c.isDigit = true) : Unicode.isBlank c = false := by
  simp only [Char.isDigit, Bool.and_eq_true, decide_eq_true_eq, ge_iff_le,
    UInt32.le_iff_toNat_le] at digit
  have low : 48 ≤ c.toNat := digit.1
  have high : c.toNat ≤ 57 := digit.2
  simp only [Unicode.isBlank]
  rw [if_pos (by omega)]
  simp
  omega

theorem visible_of_natural? {bound n : Nat} {text : Text} (reads : natural? bound text = some n)
    {c : Char} (inside : c ∈ text) : Unicode.isBlank c = false := by
  have digits : ∀ {digits : Text}, (value? digits).filter (· < bound) = some n → c ∈ digits →
      Unicode.isBlank c = false := by
    intro digits reads inside
    rcases Option.filter_eq_some_iff.mp reads with ⟨value, -⟩
    unfold value? at value
    split at value
    · rename_i shape
      exact isBlank_of_isDigit (List.all_eq_true.mp shape.2 c inside)
    · contradiction
  unfold natural? at reads
  split at reads
  · rcases List.mem_cons.mp inside with rfl | behind
    · decide
    · exact digits reads behind
  · exact digits reads inside

theorem ofInt_visible {n : Int} {c : Char} (inside : c ∈ ofInt n) : Unicode.isBlank c = false := by
  have digits : ∀ {n : Nat}, c ∈ ofNat n → Unicode.isBlank c = false := by
    intro n inDigits
    exact isBlank_of_isDigit (isDigit_of_mem_ofNat inDigits)
  unfold ofInt at inside
  split at inside
  · rcases List.mem_cons.mp inside with rfl | behind
    · decide
    · exact digits behind
  · exact digits inside

theorem ofInt_nonempty (n : Int) : ofInt n ≠ [] := by
  unfold ofInt
  split
  · simp
  · exact Nat.toDigits_ne_nil

end TextTemplate.Digits
