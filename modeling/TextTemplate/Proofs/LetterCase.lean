import TextTemplate.Unicode.Case
import Mathlib.Data.List.Basic

/-!
# Lower and upper case side by side

Texts are told apart without regard to case in two ways, by their lower cases and by their upper
cases. The two agree as far as one case can be regained from the other, which is a property of
single characters: a character may have the upper case of its lower case, and the lower case of its
upper case. Characters of the basic alphabet do, but the Kelvin sign lacks the first property and
the sharp s the second.

The final form of sigma is the one thing that depends on neighbours. It shows in lower case only, so
equal lower cases still have equal upper cases (`upper_eq_of_lower_eq`), and the converse
(`lower_eq_of_upper_eq`) needs sigmas to stay medial.
-/

namespace TextTemplate.Unicode

/-! ## Basic letters -/

theorem basic_forall {property : Char → Prop} (points : ∀ n < 128, property (Char.ofNat n))
    {c : Char} (basic : c.toNat < 128) : property c := by
  rw [← Char.ofNat_toNat c]
  exact points c.toNat basic

theorem toLower_of_not_capital {c : Char} (other : ¬(65 ≤ c.toNat ∧ c.toNat ≤ 90)) :
    c.toLower = c :=
  dif_neg other

theorem toLower_of_not_basic {c : Char} (large : ¬c.toNat < 128) : c.toLower = c := by
  apply toLower_of_not_capital
  omega

theorem toNat_ofNat (point : Nat) :
    (Char.ofNat point).toNat = point ∨ (Char.ofNat point).toNat = 0 := by
  by_cases valid : point.isValidChar
  · rw [Char.ofNat, dif_pos valid]
    exact .inl rfl
  · rw [Char.ofNat, dif_neg valid]
    exact .inr rfl

theorem lowerChar_toLower (c : Char) : lowerChar c.toLower = lowerChar c := by
  by_cases basic : c.toNat < 128
  · revert basic
    apply basic_forall
    decide +kernel
  · rw [toLower_of_not_basic basic]

theorem isCased_toLower (c : Char) : isCased c.toLower = isCased c := by
  by_cases basic : c.toNat < 128
  · revert basic
    apply basic_forall
    decide +kernel
  · rw [toLower_of_not_basic basic]

theorem caseIgnorableRuns_apart :
    (caseIgnorableRuns.all fun run =>
      (Nat.blt run.last 65 || Nat.blt 90 run.first) &&
        (Nat.blt run.last 97 || Nat.blt 122 run.first)) = true := by
  decide +kernel

theorem isCaseIgnorable_of_letter {c : Char}
    (letter : (65 ≤ c.toNat ∧ c.toNat ≤ 90) ∨ (97 ≤ c.toNat ∧ c.toNat ≤ 122)) :
    isCaseIgnorable c = false := by
  rw [isCaseIgnorable, inRuns, List.any_eq_false]
  intro run listed inRun
  have apart := List.all_eq_true.mp caseIgnorableRuns_apart run listed
  simp only [Run.contains, Bool.and_eq_true, decide_eq_true_eq] at inRun
  simp only [Bool.and_eq_true, Bool.or_eq_true, Nat.blt_eq] at apart
  omega

theorem isCaseIgnorable_toLower (c : Char) : isCaseIgnorable c.toLower = isCaseIgnorable c := by
  by_cases capital : 65 ≤ c.toNat ∧ c.toNat ≤ 90
  · have small : 97 ≤ c.toLower.toNat ∧ c.toLower.toNat ≤ 122 := by
      have basic : c.toNat < 128 := by omega
      revert capital
      revert basic
      apply basic_forall
      decide
    rw [isCaseIgnorable_of_letter (.inl capital), isCaseIgnorable_of_letter (.inr small)]
  · rw [toLower_of_not_capital capital]

theorem toLower_eq_sigma {c : Char} : c.toLower = 'Σ' ↔ c = 'Σ' := by
  by_cases basic : c.toNat < 128
  · revert basic
    apply basic_forall
    decide
  · rw [toLower_of_not_basic basic]

theorem startsCased_map_toLower (text : List Char) :
    startsCased (text.map Char.toLower) = startsCased text := by
  induction text with
  | nil => rfl
  | cons c rest ih =>
      rw [startsCased, startsCased, List.map_cons, List.dropWhile_cons, List.dropWhile_cons,
        isCaseIgnorable_toLower]
      cases isCaseIgnorable c with
      | true => exact ih
      | false => exact isCased_toLower c

theorem lowerAfter_map_toLower (before text : List Char) :
    lowerAfter (before.map Char.toLower) (text.map Char.toLower) = lowerAfter before text := by
  induction text generalizing before with
  | nil => rfl
  | cons c rest ih =>
      have following := ih (c :: before)
      rw [List.map_cons] at following
      simp only [List.map_cons, lowerAfter, toLower_eq_sigma, lowerChar_toLower, following,
        lowerSigma, startsCased_map_toLower]

theorem sameFolded_iff {left right : List Char} :
    sameFolded left right = true ↔ lower left = lower right := by
  rw [sameFolded, Bool.or_eq_true, sameBasicLetters, beq_iff_eq, beq_iff_eq, or_iff_right_iff_imp]
  intro basic
  -- The first comparison saves time: what it accepts has the same lower case anyway.
  rw [lower, lower, ← lowerAfter_map_toLower [] left, basic, lowerAfter_map_toLower [] right]

/-! ## Regaining one case from the other -/

/-- The upper case of the character can be read off its lower case. -/
def RegainsUpper (c : Char) : Prop :=
  (lowerChar c).flatMap upperChar = upperChar c

/-- The lower case of the character can be read off its upper case. -/
def RegainsLower (c : Char) : Prop :=
  (upperChar c).flatMap lowerChar = lowerChar c

instance : DecidablePred RegainsUpper :=
  fun c => inferInstanceAs (Decidable ((lowerChar c).flatMap upperChar = upperChar c))

instance : DecidablePred RegainsLower :=
  fun c => inferInstanceAs (Decidable ((upperChar c).flatMap lowerChar = lowerChar c))

theorem regains_of_basic {c : Char} (basic : c.toNat < 128) : RegainsUpper c ∧ RegainsLower c := by
  revert basic
  apply basic_forall
  decide +kernel

theorem upper_append (front behind : List Char) :
    upper (front ++ behind) = upper front ++ upper behind :=
  List.flatMap_append

theorem lowerSigma_forms (before after : List Char) :
    lowerSigma before after = 'ς' ∨ lowerSigma before after = 'σ' := by
  rw [lowerSigma]
  split
  · exact .inl rfl
  · exact .inr rfl

theorem upperChar_lowerSigma (before after : List Char) :
    upperChar (lowerSigma before after) = upperChar 'Σ' := by
  rcases lowerSigma_forms before after with form | form
  · rw [form]
    decide +kernel
  · rw [form]
    decide +kernel

theorem upper_lowerAfter {text : List Char} (regains : ∀ c ∈ text, RegainsUpper c)
    (before : List Char) : upper (lowerAfter before text) = upper text := by
  induction text generalizing before with
  | nil => rfl
  | cons c rest ih =>
      rw [List.forall_mem_cons] at regains
      have behind := ih regains.2 (c :: before)
      rw [lowerAfter]
      split
      · rename_i sigma
        rw [upper, List.flatMap_cons, ← upper, behind, sigma, upperChar_lowerSigma]
        rfl
      · rw [upper_append, behind, upper, regains.1]
        rfl

theorem upper_eq_of_lower_eq {left right : List Char}
    (leftRegains : ∀ c ∈ left, RegainsUpper c) (rightRegains : ∀ c ∈ right, RegainsUpper c)
    (same : lower left = lower right) : upper left = upper right :=
  calc upper left = upper (lower left) := (upper_lowerAfter leftRegains []).symm
    _ = upper (lower right) := congrArg upper same
    _ = upper right := upper_lowerAfter rightRegains []

/-- A text of characters that are their own lower case is its own lower case. -/
theorem lowerAfter_of_fixed {text : List Char} (fixed : ∀ c ∈ text, lowerChar c = [c])
    (before : List Char) : lowerAfter before text = text := by
  induction text generalizing before with
  | nil => rfl
  | cons c rest ih =>
      have here := fixed c (by simp)
      have other : c ≠ 'Σ' := by
        rintro rfl
        revert here
        decide +kernel
      rw [lowerAfter, if_neg other, here, ih fun d inside => fixed d (by simp [inside])]
      rfl

/-- Somewhere in the text a capital sigma ends a word. -/
def FinalSigma (text : List Char) : Prop :=
  ∃ before after, text = before ++ 'Σ' :: after ∧ lowerSigma before.reverse after = 'ς'

theorem not_finalSigma {text : List Char} (absent : 'Σ' ∉ text) : ¬FinalSigma text := by
  rintro ⟨before, after, rfl, -⟩
  apply absent
  simp

theorem lowerAfter_of_medial {before text : List Char}
    (medial : ∀ front after, text = front ++ 'Σ' :: after →
      lowerSigma (front.reverse ++ before) after ≠ 'ς') :
    lowerAfter before text = text.flatMap lowerChar := by
  induction text generalizing before with
  | nil => rfl
  | cons c rest ih =>
      have behind : lowerAfter (c :: before) rest = rest.flatMap lowerChar := by
        apply ih
        intro front after parted
        have there := medial (c :: front) after (by rw [parted, List.cons_append])
        rwa [List.reverse_cons, List.append_assoc] at there
      rw [lowerAfter, List.flatMap_cons, behind]
      split
      · rename_i sigma
        have here := medial [] rest (by rw [sigma, List.nil_append])
        rcases lowerSigma_forms before rest with final | form
        · exact absurd final here
        · rw [sigma, form]
          rfl
      · rfl

theorem lower_of_medial {text : List Char} (medial : ¬FinalSigma text) :
    lower text = text.flatMap lowerChar := by
  apply lowerAfter_of_medial
  intro front after parted final
  rw [List.append_nil] at final
  exact medial ⟨front, after, parted, final⟩

theorem flatMap_lowerChar_upper {text : List Char} (regains : ∀ c ∈ text, RegainsLower c) :
    (upper text).flatMap lowerChar = text.flatMap lowerChar := by
  rw [upper, List.flatMap_assoc]
  exact List.flatMap_congr regains

theorem lower_eq_of_upper_eq {left right : List Char}
    (leftRegains : ∀ c ∈ left, RegainsLower c) (rightRegains : ∀ c ∈ right, RegainsLower c)
    (leftMedial : ¬FinalSigma left) (rightMedial : ¬FinalSigma right)
    (same : upper left = upper right) : lower left = lower right :=
  calc lower left = left.flatMap lowerChar := lower_of_medial leftMedial
    _ = (upper left).flatMap lowerChar := (flatMap_lowerChar_upper leftRegains).symm
    _ = (upper right).flatMap lowerChar := congrArg (List.flatMap lowerChar) same
    _ = right.flatMap lowerChar := flatMap_lowerChar_upper rightRegains
    _ = lower right := (lower_of_medial rightMedial).symm

/-- A text of which each case can be regained from the other. -/
structure Reversible (text : List Char) : Prop where
  regainsUpper : ∀ c ∈ text, RegainsUpper c
  regainsLower : ∀ c ∈ text, RegainsLower c
  medial : ¬FinalSigma text

namespace Reversible

theorem of_all {text : List Char}
    (regained : (text.all fun c => decide (RegainsUpper c ∧ RegainsLower c)) = true)
    (absent : 'Σ' ∉ text) : Reversible text := by
  have each : ∀ c ∈ text, RegainsUpper c ∧ RegainsLower c := by
    intro c inside
    exact of_decide_eq_true (List.all_eq_true.mp regained c inside)
  refine ⟨?_, ?_, not_finalSigma absent⟩
  · intro c inside
    exact (each c inside).1
  · intro c inside
    exact (each c inside).2

theorem of_basic {text : List Char} (basic : ∀ c ∈ text, c.toNat < 128) : Reversible text := by
  apply of_all
  · rw [List.all_eq_true]
    intro c inside
    exact decide_eq_true (regains_of_basic (basic c inside))
  · intro inside
    have small := basic 'Σ' inside
    contradiction

theorem upper_eq_iff {left right : List Char} (leftReversible : Reversible left)
    (rightReversible : Reversible right) : upper left = upper right ↔ lower left = lower right := by
  constructor
  · intro same
    exact lower_eq_of_upper_eq leftReversible.regainsLower rightReversible.regainsLower
      leftReversible.medial rightReversible.medial same
  · intro same
    exact upper_eq_of_lower_eq leftReversible.regainsUpper rightReversible.regainsUpper same

end Reversible

end TextTemplate.Unicode
