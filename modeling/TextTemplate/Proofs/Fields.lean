import TextTemplate.Proofs.LetterCase
import TextTemplate.Value.Field

/-!
# Fields under names that differ in case

A field is looked up by its exact name first and then without regard to case, and a list reads a
number out of the name. None of this tells names of the same lower case apart
(`Value.field?_congr`), as long as the keys of a map differ in more than their case and no object of
the host decides for itself what its fields are.

The numbers are the part that needs the tables of case mapping: digits have no case, and no other
character has a digit for its lower case.
-/

namespace TextTemplate

namespace Unicode

theorem sameName_iff {left right : String} :
    sameName left right = true ↔ foldName left = foldName right := by
  simp [sameName, sameFolded_iff, foldName, String.ofList_inj]

theorem sameName_congr {left right : String} (same : foldName left = foldName right)
    (name : String) : sameName left name = sameName right name := by
  apply Bool.eq_iff_iff.mpr
  simp [sameName_iff, same]

/-! ## Numerals -/

/-- A character that may occur in a written position. -/
def isNumeral (c : Char) : Bool :=
  c.isDigit || c == '+'

theorem toNat_of_isNumeral {c : Char} (numeral : isNumeral c = true) :
    43 ≤ c.toNat ∧ c.toNat ≤ 57 := by
  simp only [isNumeral, Char.isDigit, Bool.or_eq_true, Bool.and_eq_true, decide_eq_true_eq,
    beq_iff_eq, ge_iff_le, UInt32.le_iff_toNat_le] at numeral
  rcases numeral with ⟨low, high⟩ | rfl
  · exact ⟨Nat.le_trans (by decide) low, high⟩
  · decide

theorem lower_numeral {c : Char} (numeral : isNumeral c = true) :
    lowerChar c = [c] := by
  have basic : c.toNat < 128 := by
    have := toNat_of_isNumeral numeral
    omega
  revert numeral
  revert basic
  apply basic_forall
  decide +kernel

/-- What the table moves is a capital of the basic alphabet or comes to lie beyond the digits. -/
theorem lowerShifts_beyond :
    (lowerShifts.all fun shift =>
      Nat.blt shift.last 128 || decide (58 ≤ (shift.first : Int) + shift.distance)) = true := by
  decide +kernel

theorem shiftBy_beyond {point : Nat} (large : 128 ≤ point) : 58 ≤ shiftBy lowerShifts point := by
  unfold shiftBy
  split
  · rename_i shift found
    have beyond := List.all_eq_true.mp lowerShifts_beyond shift (List.mem_of_find?_eq_some found)
    have covered := List.find?_some found
    simp only [Shift.contains, Bool.and_eq_true, decide_eq_true_eq] at covered
    simp only [Bool.or_eq_true, Nat.blt_eq, decide_eq_true_eq] at beyond
    simp only [Int.ofNat_eq_natCast]
    omega
  · omega

theorem mapPoint_beyond {point : Nat} (large : 128 ≤ point) :
    ∃ mapped ∈ mapPoint lowerShifts lowerExpansions point, 58 ≤ mapped := by
  unfold mapPoint
  split
  · rename_i row found
    have listed := List.mem_of_find?_eq_some found
    rw [List.mem_singleton.mp listed]
    exact ⟨0x0069, by simp, by omega⟩
  · exact ⟨_, List.mem_singleton_self _, shiftBy_beyond large⟩

theorem not_isNumeral_ofNat {point : Nat} (beyond : 58 ≤ point) :
    isNumeral (Char.ofNat point) ≠ true := by
  intro numeral
  have bounds := toNat_of_isNumeral numeral
  rcases toNat_ofNat point with same | none <;> omega

theorem lowerChar_of_numerals {c : Char} (numerals : ∀ d ∈ lowerChar c, isNumeral d = true) :
    lowerChar c = [c] := by
  by_cases basic : c.toNat < 128
  · rw [← List.all_eq_true] at numerals
    revert numerals
    revert basic
    apply basic_forall
    decide +kernel
  · rcases mapPoint_beyond (Nat.le_of_not_lt basic) with ⟨mapped, listed, beyond⟩
    refine absurd (numerals (Char.ofNat mapped) ?_) (not_isNumeral_ofNat beyond)
    rw [lowerChar, if_neg basic]
    exact List.mem_map_of_mem listed

theorem lowerAfter_of_numerals {before text : List Char}
    (numerals : ∀ c ∈ text, isNumeral c = true) : lowerAfter before text = text :=
  lowerAfter_of_fixed (fun c inside => lower_numeral (numerals c inside)) before

theorem eq_of_lowerAfter_numerals {before text : List Char}
    (numerals : ∀ c ∈ lowerAfter before text, isNumeral c = true) :
    lowerAfter before text = text := by
  induction text generalizing before with
  | nil => rfl
  | cons c rest ih =>
      rw [lowerAfter] at numerals ⊢
      split at numerals
      · -- No form of sigma is a numeral.
        have sigma := numerals (lowerSigma before rest) (by simp)
        rcases lowerSigma_forms before rest with form | form <;>
          · rw [form] at sigma
            contradiction
      · rename_i other
        rw [if_neg other, lowerChar_of_numerals fun d inside => numerals d (by simp [inside]),
          ih fun d inside => numerals d (by simp [inside])]
        rfl

end Unicode

namespace Digits

theorem isNumeral_of_size? {text : Text} {position : Nat} (found : size? text = some position) :
    ∀ c ∈ text, Unicode.isNumeral c = true := by
  have digits : ∀ {text : Text} {n : Nat}, (value? text).filter (· < Nat.pow 2 64) = some n →
      ∀ c ∈ text, Unicode.isNumeral c = true := by
    intro text n read c inside
    rcases Option.filter_eq_some_iff.mp read with ⟨read, -⟩
    unfold value? at read
    split at read
    · rename_i shape
      simp [Unicode.isNumeral, List.all_eq_true.mp shape.2 c inside]
    · contradiction
  unfold size? natural? at found
  split at found
  · intro c inside
    rcases List.mem_cons.mp inside with rfl | inside
    · rfl
    · exact digits found c inside
  · exact digits found

/-- Names of the same lower case denote the same position, if any. -/
theorem size?_congr {left right : Text} (same : Unicode.lower left = Unicode.lower right) :
    size? left = size? right := by
  -- A numeral is its own lower case, and nothing else has that lower case.
  have carried : ∀ {left right : Text}, Unicode.lower left = Unicode.lower right →
      ∀ position, size? left = some position → size? right = some position := by
    intro left right same position found
    have numerals := isNumeral_of_size? found
    have own : Unicode.lower left = left := Unicode.lowerAfter_of_numerals numerals
    have alike : Unicode.lower right = right := by
      apply Unicode.eq_of_lowerAfter_numerals
      intro c inside
      apply numerals
      rwa [← own, same]
    rw [← alike, ← same, own]
    exact found
  apply Option.ext
  intro position
  exact ⟨carried same position, carried same.symm position⟩

end Digits

namespace Value

open Unicode (foldName sameName)

variable {σ : Type}

/-! ## Values whose keys differ in more than case -/

mutual

/-- There is no object in the value, and no map with two keys that differ only in case. -/
def Unambiguous : Value σ → Prop
  | list items => AllUnambiguous items
  | map entries => (entries.map fun entry => foldName entry.1).Nodup ∧ EntriesUnambiguous entries
  | object _ => False
  | _ => True

/-- There is none in the items. -/
def AllUnambiguous : List (Value σ) → Prop
  | [] => True
  | item :: others => item.Unambiguous ∧ AllUnambiguous others

/-- There is none in the values of the entries. -/
def EntriesUnambiguous : List (String × Value σ) → Prop
  | [] => True
  | (_, value) :: others => value.Unambiguous ∧ EntriesUnambiguous others

end

theorem allUnambiguous_iff {items : List (Value σ)} :
    AllUnambiguous items ↔ ∀ item ∈ items, item.Unambiguous := by
  induction items with
  | nil => simp [AllUnambiguous]
  | cons item others ih => simp [AllUnambiguous, ih]

theorem entriesUnambiguous_iff {entries : List (String × Value σ)} :
    EntriesUnambiguous entries ↔ ∀ entry ∈ entries, entry.2.Unambiguous := by
  induction entries with
  | nil => simp [EntriesUnambiguous]
  | cons entry others ih => simp [EntriesUnambiguous, ih]

@[simp]
theorem unambiguous_ofCount (n : Nat) : (ofCount n : Value σ).Unambiguous := by
  simp [ofCount, Unambiguous]

/-! ## Looking fields up -/

theorem find?_sameName {entries : List (String × Value σ)}
    (distinct : (entries.map fun entry => foldName entry.1).Nodup) {entry : String × Value σ}
    (listed : entry ∈ entries) :
    (entries.find? fun other => sameName other.1 entry.1) = some entry := by
  induction entries with
  | nil => contradiction
  | cons first others ih =>
      rw [List.map_cons, List.nodup_cons] at distinct
      rcases List.mem_cons.mp listed with rfl | listed
      · exact List.find?_cons_of_pos (Unicode.sameName_iff.mpr rfl)
      · have apart : foldName first.1 ≠ foldName entry.1 := by
          intro same
          apply distinct.1
          rw [same]
          exact List.mem_map_of_mem listed
        rw [List.find?_cons_of_neg (by simpa [Unicode.sameName_iff] using apart)]
        exact ih distinct.2 listed

/-- If no two keys differ in case only, the exact name has no precedence. -/
theorem lookup?_eq {entries : List (String × Value σ)}
    (distinct : (entries.map fun entry => foldName entry.1).Nodup) (name : String) :
    lookup? entries name = (entries.find? fun entry => sameName entry.1 name).map Prod.snd := by
  cases exactly : Entries.get? name entries with
  | none => simp [lookup?, exactly]
  | some value =>
      have found := find?_sameName distinct (Entries.mem_of_get? exactly)
      simp only at found
      simp [lookup?, exactly, found]

theorem field?_congr {value : Value σ} (unambiguous : value.Unambiguous) {left right : String}
    (same : foldName left = foldName right) : value.field? left = value.field? right := by
  cases value with
  | map entries =>
      simp only [Unambiguous] at unambiguous
      simp only [field?, lookup?_eq unambiguous.1]
      congr 2
      funext entry
      apply Bool.eq_iff_iff.mpr
      simp [Unicode.sameName_iff, same]
  | list items =>
      have position := Digits.size?_congr (String.ofList_injective same)
      simp only [field?, Unicode.sameName_congr same, position]
  | string s => simp only [field?, Unicode.sameName_congr same]
  | object o => simp [Unambiguous] at unambiguous
  | _ => rfl

theorem Unambiguous.field? {value found : Value σ} (unambiguous : value.Unambiguous)
    {name : String} (here : value.field? name = some found) : found.Unambiguous := by
  cases value with
  | map entries =>
      simp only [Unambiguous, entriesUnambiguous_iff] at unambiguous
      simp only [Value.field?, lookup?_eq unambiguous.1, Option.map_eq_some_iff] at here
      rcases here with ⟨entry, listed, rfl⟩
      exact unambiguous.2 entry (List.mem_of_find?_eq_some listed)
  | list items =>
      simp only [Unambiguous, allUnambiguous_iff] at unambiguous
      simp only [Value.field?] at here
      split at here
      · rw [← Option.some.inj here]
        exact unambiguous_ofCount _
      · rcases Option.bind_eq_some_iff.mp here with ⟨position, -, listed⟩
        exact unambiguous found (List.mem_of_getElem? listed)
  | string s =>
      simp only [Value.field?] at here
      split at here
      · rw [← Option.some.inj here]
        exact unambiguous_ofCount _
      · contradiction
  | object o => simp [Unambiguous] at unambiguous
  | _ => contradiction

end Value

end TextTemplate
