import TextTemplate.Proofs.LetterCase

/-!
# Lower case is final

Putting a text that is in lower case into lower case leaves it as it is (`Unicode.lower_lower`), so
a folded name can be looked up as it stands. The tables show it run by run: no shift leads to a
point that has a lower case of its own. Neither form of a small sigma has one, and a text in lower
case has no capital sigma whose form could depend on its neighbours.
-/

namespace TextTemplate.Unicode

/-- The points that a shift leads to. -/
def Shift.image (shift : Shift) : Run :=
  ⟨(shift.first + shift.distance).toNat, (shift.last + shift.distance).toNat, shift.step⟩

/-- A run lies before, behind or between the points of another one. -/
def Run.misses (run other : Run) : Bool :=
  Nat.blt run.last other.first || Nat.blt other.last run.first ||
    ((Nat.beq run.step 2 || Nat.beq run.first run.last) && Nat.beq other.step 2 &&
      Nat.beq ((run.first + other.first) % 2) 1)

theorem Run.contains_of_misses {run other : Run} (misses : run.misses other = true) {point : Nat}
    (inside : run.contains point = true) : other.contains point = false := by
  by_contra met
  simp only [contains, Bool.not_eq_false, Bool.and_eq_true, decide_eq_true_eq, beq_iff_eq]
    at inside met
  simp only [Run.misses, Bool.or_eq_true, Bool.and_eq_true, Nat.blt_eq, Nat.beq_eq] at misses
  rcases inside with ⟨⟨low, high⟩, aligned⟩
  rcases met with ⟨⟨otherLow, otherHigh⟩, otherAligned⟩
  rcases misses with (before | behind) | ⟨⟨even | single, otherEven⟩, odd⟩
  · omega
  · omega
  · rw [even] at aligned
    rw [otherEven] at otherAligned
    omega
  · rw [otherEven] at otherAligned
    omega

/-- The points that are not their own lower case. -/
def lowered : List Run :=
  (lowerShifts.map fun shift => ⟨shift.first, shift.last, shift.step⟩) ++
    lowerExpansions.map fun row => ⟨row.1, row.1, 1⟩

theorem lowerShifts_natural :
    (lowerShifts.all fun shift => decide (0 ≤ shift.first + shift.distance)) = true := by
  decide +kernel

theorem lowerShifts_miss_lowered :
    (lowerShifts.all fun shift => lowered.all shift.image.misses) = true := by
  decide +kernel

/-- No shift of the table leads to a point that has a lower case of its own. -/
theorem not_lowered_of_shift {shift : Shift} (listed : shift ∈ lowerShifts) {point : Nat}
    (covered : shift.contains point = true) :
    ∀ run ∈ lowered, run.contains (Int.ofNat point + shift.distance).toNat = false := by
  have natural := List.all_eq_true.mp lowerShifts_natural shift listed
  have misses := List.all_eq_true.mp lowerShifts_miss_lowered shift listed
  have inside : shift.image.contains (Int.ofNat point + shift.distance).toNat = true := by
    simp only [Shift.contains, Bool.and_eq_true, decide_eq_true_eq, beq_iff_eq] at covered natural
    rcases covered with ⟨⟨low, high⟩, aligned⟩
    have distance : ((point : Int) + shift.distance).toNat -
        ((shift.first : Int) + shift.distance).toNat = point - shift.first := by
      omega
    simp [Run.contains, Shift.image, distance, aligned]
    omega
  intro run known
  exact Run.contains_of_misses (List.all_eq_true.mp misses run known) inside

theorem lowerChar_of_not_lowered {c : Char}
    (other : ∀ run ∈ lowered, run.contains c.toNat = false) : lowerChar c = [c] := by
  have unshifted : ∀ shift ∈ lowerShifts, shift.contains c.toNat = false := by
    intro shift listed
    exact other _ (List.mem_append_left _ (List.mem_map.mpr ⟨shift, listed, rfl⟩))
  by_cases basic : c.toNat < 128
  · have capitals := unshifted ⟨0x0041, 0x005A, 1, 32⟩ List.mem_cons_self
    rw [lowerChar, if_pos basic, toLower_of_not_capital]
    rintro ⟨low, high⟩
    simp [Shift.contains, Nat.mod_one] at capitals
    omega
  · have single : lowerExpansions.find? (fun row => row.1 == c.toNat) = none := by
      rw [List.find?_eq_none]
      intro row listed same
      have apart := other _ (List.mem_append_right _ (List.mem_map.mpr ⟨row, listed, rfl⟩))
      rw [beq_iff_eq] at same
      simp [Run.contains, same] at apart
    have stays : lowerShifts.find? (fun shift => shift.contains c.toNat) = none := by
      rw [List.find?_eq_none]
      intro shift listed
      simp [unshifted shift listed]
    rw [lowerChar, if_neg basic, mapPoint, single]
    simp [shiftBy, stays]

/-- What a character has for its lower case is in lower case. -/
theorem lowerChar_of_mem {c d : Char} (inside : d ∈ lowerChar c) : lowerChar d = [d] := by
  by_cases basic : c.toNat < 128
  · rw [lowerChar, if_pos basic, List.mem_singleton] at inside
    rw [inside, lowerChar_toLower, lowerChar, if_pos basic]
  · have alone := inside
    rw [lowerChar, if_neg basic, mapPoint] at inside
    split at inside
    · rename_i row found
      have listed := List.mem_of_find?_eq_some found
      rw [List.mem_singleton.mp listed] at inside
      simp only [List.map_cons, List.map_nil, List.mem_cons, List.not_mem_nil, or_false] at inside
      rcases inside with rfl | rfl <;> decide +kernel
    · rename_i single
      rw [List.map_singleton, List.mem_singleton, shiftBy] at inside
      split at inside
      · rename_i shift found
        have covered := List.find?_some found
        have outside := not_lowered_of_shift (List.mem_of_find?_eq_some found) covered
        rcases toNat_ofNat (Int.ofNat c.toNat + shift.distance).toNat with same | nothing
        · apply lowerChar_of_not_lowered
          rw [inside, same]
          exact outside
        · have null : d = Char.ofNat 0 := by
            rw [← Char.ofNat_toNat d, inside, nothing]
          rw [null]
          decide
      · rename_i stays
        have own : lowerChar c = [c] := by
          rw [lowerChar, if_neg basic, mapPoint, single]
          simp [shiftBy, stays]
        rw [own, List.mem_singleton] at alone
        rw [alone, own]

theorem lowerChar_of_mem_lowerAfter {before text : List Char} {c : Char}
    (inside : c ∈ lowerAfter before text) : lowerChar c = [c] := by
  induction text generalizing before with
  | nil => contradiction
  | cons d rest ih =>
      rw [lowerAfter] at inside
      split at inside
      · rcases List.mem_cons.mp inside with here | behind
        · rcases lowerSigma_forms before rest with form | form <;>
            · rw [here, form]
              decide +kernel
        · exact ih behind
      · rcases List.mem_append.mp inside with here | behind
        · exact lowerChar_of_mem here
        · exact ih behind

/-- A text in lower case is its own lower case. -/
theorem lower_lower (text : List Char) : lower (lower text) = lower text :=
  lowerAfter_of_fixed (fun _ inside => lowerChar_of_mem_lowerAfter inside) []

theorem foldName_foldName (name : String) : foldName (foldName name) = foldName name := by
  simp [foldName, lower_lower]

end TextTemplate.Unicode
