import TextTemplate.Proofs.Balance
import TextTemplate.Proofs.Parts
import TextTemplate.Proofs.PathSteps

/-!
# Reading a path from place to place

The steps of a path are read in turns, each of which takes its piece out of the path as a slice of
bytes and leaves the next turn the place behind it. That place lies behind the path when a call is
not closed. Every path is read to its end in this way, whatever parentheses and quotes are missing
in it, and there is no other way to read it (`turns_iff`): no slice is out of range or cuts a
character, because the marks at which it ends are basic characters.
-/

namespace TextTemplate.Path

open Text (size encoded Slice closingAt? openQuote opened closed)

/-- The turns in which the steps are read from a place on. -/
inductive Turns (path : Text) : Nat → List Step → Prop where
  | finished {place : Nat} (passed : size path ≤ place) : Turns path place []
  | separator {place : Nat} {mark : Char} {steps : List Step}
      (here : (encoded path)[place]? = some mark) (separates : isSeparator mark = true)
      (next : Turns path (place + 1) steps) : Turns path place steps
  | call {place close : Nat} {inner : Text} {steps : List Step}
      (here : (encoded path)[place]? = some '(')
      (closes : (closingAt? (encoded path) place).getD (size path) = close)
      (written : Slice path (place + 1) close inner) (next : Turns path (close + 1) steps) :
      Turns path place (.call (.ofInner inner) :: steps)
  | member {place stop : Nat} {mark : Char} {name : Text} {steps : List Step}
      (here : (encoded path)[place]? = some mark)
      (begins : isSeparator mark = false ∧ mark ≠ '(')
      (written : Slice path place stop name) (within : ∀ c ∈ name, isMemberChar c = true)
      (ends : ∀ c ∈ (encoded path)[stop]?, isMemberChar c = false)
      (next : Turns path stop steps) : Turns path place (.member (Text.trim name) :: steps)

/-! ## Marks of a path -/

theorem basic_of_isSeparator {mark : Char} (separates : isSeparator mark = true) :
    mark.toNat < 128 := by
  simp only [isSeparator, Bool.or_eq_true, beq_iff_eq] at separates
  rcases separates with (rfl | rfl) | rfl <;> decide

theorem isSeparator_congr {c d : Char}
    (same : ∀ mark : Char, mark.toNat < 128 → (d = mark ↔ c = mark)) :
    isSeparator d = isSeparator c := by
  rw [Bool.eq_iff_iff]
  simp only [isSeparator, Bool.or_eq_true, beq_iff_eq]
  rw [same '.' (by decide), same ' ' (by decide), same '\t' (by decide)]

theorem isMemberChar_congr {c d : Char}
    (same : ∀ mark : Char, mark.toNat < 128 → (d = mark ↔ c = mark)) :
    isMemberChar d = isMemberChar c := by
  rw [Bool.eq_iff_iff]
  simp only [isMemberChar, Bool.and_eq_true, bne_iff_ne, ne_eq]
  rw [same '.' (by decide), same '(' (by decide)]

theorem isMemberChar_of_begins {c : Char} (begins : isSeparator c = false ∧ c ≠ '(') :
    isMemberChar c = true := by
  rcases begins with ⟨noSeparator, noCall⟩
  simp only [isSeparator, Bool.or_eq_false_iff] at noSeparator
  simpa [isMemberChar, noCall] using noSeparator.1.1

theorem steps_unclosed {inner : Text} (unclosed : Text.closing? ('(' :: inner) = none) :
    steps ('(' :: inner) = [.call (.ofInner inner)] := by
  have opening : ¬isSeparator '(' = true := by decide
  have behind : inner.drop ('(' :: inner).length = [] := by simp
  rw [steps, if_neg opening, if_pos rfl, unclosed]
  simp only [Option.getD_none, behind, steps_nil]
  simp

/-! ## Turns -/

/-- The sizes of a call without and with its closing parenthesis. -/
theorem size_call (inner : Text) :
    size ('(' :: inner) = 1 + size inner ∧ size ('(' :: inner ++ [')']) = 1 + size inner + 1 := by
  have opening : size ['('] = 1 := by decide
  have closing : size [')'] = 1 := by decide
  have parted : '(' :: inner = ['('] ++ inner := rfl
  simp only [parted, Text.size_append, opening, closing, and_self]

theorem size_behind_opening (front : Text) : size (front ++ ['(']) = size front + 1 := by
  rw [Text.size_append, (size_call []).1, Text.size_nil]

/-- A name ends where the byte behind it is no character of a name. -/
theorem ends_iff {front behind : Text} :
    (∀ c ∈ (encoded (front ++ behind))[size front]?, isMemberChar c = false) ↔
      ∀ c ∈ behind.head?, isMemberChar c = false := by
  cases behind with
  | nil =>
      simp
  | cons d behind =>
      rcases Text.encoded_at front d behind with ⟨byte, there, same⟩
      rw [there]
      simp [isMemberChar_congr same]

/-- A call goes up to the parenthesis that closes it, or to the end of the path if none does. -/
theorem call_cases {front inner rest : Text} {close : Nat}
    (closes : (closingAt? (encoded (front ++ '(' :: (inner ++ rest))) (size front)).getD
      (size (front ++ '(' :: (inner ++ rest))) = close)
    (ending : close = size front + 1 + size inner) :
    (Text.closing? ('(' :: inner ++ [')']) = some (inner.length + 1) ∧
        ∃ behind, rest = ')' :: behind) ∨
      Text.closing? ('(' :: inner) = none ∧ rest = [] := by
  rw [Text.closingAt?_encoded] at closes
  cases found : Text.closing? ('(' :: (inner ++ rest)) with
  | some position =>
      rcases Text.closing?_eq_some found with ⟨front', behind, whole, rfl, closed⟩
      have cut : ('(' :: (inner ++ rest)).take (front'.length + 1) = '(' :: front' := by
        rw [whole]
        simp
      rw [found, Option.map_some, Option.getD_some, cut, (size_call front').1] at closes
      rcases Text.append_inj_of_size whole (by omega) with ⟨rfl, rfl⟩
      exact .inl ⟨closed, behind, rfl⟩
  | none =>
      have parted : '(' :: (inner ++ rest) = '(' :: inner ++ rest := rfl
      rw [found, Option.map_none, Option.getD_none, parted, Text.size_append, Text.size_append,
        (size_call inner).1] at closes
      cases rest with
      | nil =>
          rw [List.append_nil] at found
          exact .inr ⟨found, rfl⟩
      | cons c rest =>
          have := Text.size_pos (List.cons_ne_nil c rest)
          omega

/-- A name goes on up to a point, a parenthesis or the end of the path. -/
theorem member_cases {front name rest : Text} {mark : Char}
    (here : (encoded (front ++ (name ++ rest)))[size front]? = some mark)
    (begins : isSeparator mark = false ∧ mark ≠ '(')
    (ends : ∀ c ∈ (encoded (front ++ (name ++ rest)))[size front + size name]?,
      isMemberChar c = false) :
    (∃ c others, name = c :: others ∧ isSeparator c = false ∧ c ≠ '(') ∧
      ∀ c ∈ rest.head?, isMemberChar c = false := by
  have whole : front ++ (name ++ rest) = (front ++ name) ++ rest := by simp
  have ended : ∀ c ∈ rest.head?, isMemberChar c = false := by
    apply ends_iff.mp
    rw [← whole, Text.size_append]
    exact ends
  refine ⟨?_, ended⟩
  cases name with
  | nil =>
      have stop := ends mark here
      rw [isMemberChar_of_begins begins] at stop
      contradiction
  | cons c others =>
      rcases Text.encoded_at front c (others ++ rest) with ⟨byte, there, same⟩
      rcases Option.some.inj (there.symm.trans here) with rfl
      refine ⟨c, others, rfl, ?_, ?_⟩
      · rw [← isSeparator_congr same]
        exact begins.1
      · rintro rfl
        exact begins.2 ((same '(' (by decide)).mpr rfl)

/-- What the turns read is what is read from the text behind the place. -/
theorem Turns.eq_steps {path : Text} {place : Nat} {read : List Step}
    (turns : Turns path place read) :
    (size path < place → read = []) ∧
      ∀ front rest, path = front ++ rest → size front = place → read = steps rest := by
  have inside : ∀ {place : Nat} {mark : Char}, (encoded path)[place]? = some mark →
      ¬size path < place := by
    intro place mark here passed
    have bound := (List.getElem?_eq_some_iff.mp here).1
    rw [Text.length_encoded] at bound
    omega
  induction turns with
  | finished passed =>
      refine ⟨fun _ => rfl, ?_⟩
      rintro front rest rfl rfl
      cases rest with
      | nil => rw [steps_nil]
      | cons c rest =>
          have := Text.size_pos (List.cons_ne_nil c rest)
          rw [Text.size_append] at passed
          omega
  | @separator place mark read here separates next ih =>
      refine ⟨fun passed => absurd passed (inside here), ?_⟩
      rintro front rest rfl rfl
      have basic := basic_of_isSeparator separates
      rcases Text.cons_of_basic_at basic here with ⟨behind, rfl⟩
      rw [steps_separator separates]
      apply ih.2 (front ++ [mark]) behind
      · simp
      · simp [Text.size_cons, Text.utf8Size_basic basic]
  | @call place close inner read here closes written next ih =>
      refine ⟨fun passed => absurd passed (inside here), ?_⟩
      rintro front rest rfl rfl
      rcases Text.cons_of_basic_at (by decide) here with ⟨behind, rfl⟩
      have whole : front ++ '(' :: behind = (front ++ ['(']) ++ behind := by simp
      rw [whole, ← size_behind_opening] at written
      rcases written.cut with ⟨rest, rfl, ending⟩
      rw [size_behind_opening] at ending
      rcases call_cases closes ending with ⟨closed, following, rfl⟩ | ⟨unclosed, rfl⟩
      · have shape : '(' :: (inner ++ ')' :: following) = '(' :: inner ++ [')'] ++ following := by
          simp
        rw [shape, steps_call closed]
        congr 1
        apply ih.2 (front ++ ('(' :: inner ++ [')'])) following
        · simp
        · rw [Text.size_append, (size_call inner).2]
          omega
      · rw [List.append_nil, steps_unclosed unclosed]
        congr 1
        apply ih.1
        rw [List.append_nil, Text.size_append, (size_call inner).1]
        omega
  | @member place stop mark name read here begins written within ends next ih =>
      refine ⟨fun passed => absurd passed (inside here), ?_⟩
      rintro front rest rfl rfl
      rcases written.cut with ⟨behind, rfl, rfl⟩
      rcases member_cases here begins ends with ⟨⟨c, others, rfl, first⟩, ended⟩
      rw [List.forall_mem_cons] at within
      rw [List.cons_append, steps_member first within.2 ended]
      congr 1
      apply ih.2 (front ++ c :: others) behind
      · simp
      · simp

/-- A call that is closed is read in one turn, and the next one begins behind it. -/
theorem turns_closed {front inner behind : Text} {read : List Step}
    (closed : Text.closing? ('(' :: (inner ++ ')' :: behind)) = some (inner.length + 1))
    (next : Turns (front ++ ('(' :: inner ++ [')']) ++ behind)
      (size (front ++ ('(' :: inner ++ [')']))) read) :
    Turns (front ++ '(' :: (inner ++ ')' :: behind)) (size front)
      (.call (.ofInner inner) :: read) := by
  rcases Text.encoded_at front '(' (inner ++ ')' :: behind) with ⟨byte, here, same⟩
  rcases (same '(' (by decide)).mpr rfl with rfl
  have cut : ('(' :: (inner ++ ')' :: behind)).take (inner.length + 1) = '(' :: inner := by simp
  have place : (closingAt? (encoded (front ++ '(' :: (inner ++ ')' :: behind))) (size front)).getD
      (size (front ++ '(' :: (inner ++ ')' :: behind))) = size front + (1 + size inner) := by
    rw [Text.closingAt?_encoded, closed, Option.map_some, Option.getD_some, cut,
      (size_call inner).1]
  have written := Text.slice_append (front ++ ['(']) inner (')' :: behind)
  rw [size_behind_opening, Nat.add_assoc] at written
  rw [Text.size_append, (size_call inner).2] at next
  apply Turns.call here place
  · simpa using written
  · simpa [Nat.add_assoc] using next

/-- A call that is not closed is read to the end of the path. -/
theorem turns_unclosed {front inner : Text} (unclosed : Text.closing? ('(' :: inner) = none) :
    Turns (front ++ '(' :: inner) (size front) [.call (.ofInner inner)] := by
  rcases Text.encoded_at front '(' inner with ⟨byte, here, same⟩
  rcases (same '(' (by decide)).mpr rfl with rfl
  have place : (closingAt? (encoded (front ++ '(' :: inner)) (size front)).getD
      (size (front ++ '(' :: inner)) = size front + 1 + size inner := by
    rw [Text.closingAt?_encoded, unclosed, Option.map_none, Option.getD_none, Text.size_append,
      (size_call inner).1, Nat.add_assoc]
  have written := Text.slice_append (front ++ ['(']) inner []
  rw [size_behind_opening] at written
  apply Turns.call here place
  · simpa using written
  · apply Turns.finished
    rw [Text.size_append, (size_call inner).1]
    omega

/-- What is read from the text behind a place is read in turns. -/
theorem turns_steps (front rest : Text) : Turns (front ++ rest) (size front) (steps rest) := by
  fun_induction steps rest generalizing front with
  | case1 =>
      apply Turns.finished
      simp
  | case2 c rest separates ih =>
      have basic := basic_of_isSeparator separates
      rcases Text.encoded_at front c rest with ⟨byte, here, same⟩
      rcases (same c basic).mpr rfl with rfl
      have next := ih (front ++ [byte])
      rw [Text.size_append, Text.size_cons, Text.utf8Size_basic basic] at next
      apply Turns.separator here separates
      simpa using next
  | case3 rest notSeparator close ih =>
      have chosen : close = (Text.closing? ('(' :: rest)).getD ('(' :: rest).length := rfl
      change Turns (front ++ '(' :: rest) (size front)
        (.call (.ofInner (rest.take (close - 1))) :: steps (rest.drop close))
      clear_value close
      cases found : Text.closing? ('(' :: rest) with
      | some position =>
          rcases Text.closing?_eq_some found with ⟨inner, behind, rfl, rfl, -⟩
          rw [found, Option.getD_some] at chosen
          have cut : (inner ++ ')' :: behind).drop (inner.length + 1) = behind := by simp
          rw [chosen, cut] at ih ⊢
          rw [Nat.add_sub_cancel, List.take_left]
          exact turns_closed found (ih (front ++ ('(' :: inner ++ [')'])))
      | none =>
          rw [found, Option.getD_none, List.length_cons] at chosen
          rw [chosen, Nat.add_sub_cancel, List.take_length, List.drop_eq_nil_of_le (by omega),
            steps_nil]
          exact turns_unclosed found
  | case4 c rest notSeparator notCall ih =>
      rw [Bool.not_eq_true] at notSeparator
      rcases Text.encoded_at front c rest with ⟨byte, here, same⟩
      have name := List.takeWhile_append_dropWhile (p := isMemberChar) (l := rest)
      have written := Text.slice_append front (c :: rest.takeWhile isMemberChar)
        (rest.dropWhile isMemberChar)
      have next := ih (front ++ c :: rest.takeWhile isMemberChar)
      have ends : ∀ d ∈ (rest.dropWhile isMemberChar).head?, isMemberChar d = false := by
        intro d first
        have stop := List.head?_dropWhile_not isMemberChar rest
        rw [Option.mem_def.mp first] at stop
        exact stop
      have stop := (@ends_iff (front ++ c :: rest.takeWhile isMemberChar) _).mpr ends
      rw [Text.size_append] at next stop
      rw [List.append_assoc, List.cons_append, name] at written next stop
      apply Turns.member here ?_ written ?_ stop next
      · refine ⟨(isSeparator_congr same).trans notSeparator, ?_⟩
        rintro rfl
        exact notCall ((same '(' (by decide)).mp rfl)
      · intro d inside
        rcases List.mem_cons.mp inside with rfl | inside
        · exact isMemberChar_of_begins ⟨notSeparator, notCall⟩
        · exact List.mem_takeWhile_imp inside

/-- A path is read to its end, and in one way only. -/
theorem turns_iff {path : Text} {read : List Step} : Turns path 0 read ↔ read = steps path := by
  constructor
  · intro turns
    exact turns.eq_steps.2 [] path rfl rfl
  · rintro rfl
    exact turns_steps [] path

/-! ## Parentheses of byte strings -/

theorem getElem?_ofBytes {bytes : List UInt8} {place : Nat} {c : Char}
    (basic : c.toNat < 128) (here : bytes[place]? = some c.toUInt8) :
    (Text.ofBytes bytes)[place]? = some c := by
  rw [Text.ofBytes, List.getElem?_map, here, Option.map_some, Text.ofUInt8_toUInt8 basic]

/-- Among the bytes of a text the parentheses enclose a slice of the text. -/
theorem closingAt?_slice {text : Text} {opening place : Nat}
    (opens : (encoded text)[opening]? = some '(')
    (found : closingAt? (encoded text) opening = some place) :
    ∃ inner, Slice text (opening + 1) place inner := by
  rcases Text.basic_at (by decide) opens with ⟨front, rest, rfl, rfl⟩
  rw [Text.closingAt?_encoded] at found
  rcases Option.map_eq_some_iff.mp found with ⟨position, closes, rfl⟩
  rcases Text.closing?_eq_some closes with ⟨inner, behind, rfl, rfl, -⟩
  have cut : ('(' :: (inner ++ ')' :: behind)).take (inner.length + 1) = '(' :: inner := by simp
  have written := Text.slice_append (front ++ ['(']) inner (')' :: behind)
  rw [size_behind_opening] at written
  refine ⟨inner, ?_⟩
  rw [cut, (size_call inner).1, ← Nat.add_assoc]
  simpa using written

/-- The parenthesis that closes another one is the first that balances it, in every byte string;
behind the first parenthesis the search never takes one from a count of nought; in the bytes of a
text the two parentheses enclose a slice, and the search among characters finds the same place.
With it every path is read to its end, through slices of the path. -/
theorem reads_balanced :
    (∀ (bytes : List UInt8) (opening : Nat), bytes[opening]? = some '('.toUInt8 →
      (∀ place, closingAt? (Text.ofBytes bytes) opening = some place ↔
        IsLeast {place | Text.BalancesAt (Text.ofBytes bytes) opening place} place) ∧
      (closingAt? (Text.ofBytes bytes) opening = none ↔
        ∀ place, ¬Text.BalancesAt (Text.ofBytes bytes) opening place) ∧
      (∀ front rest, (Text.ofBytes bytes).drop opening = front ++ rest → front ≠ [] →
        Text.closing? front = none →
          closed none front < opened none front ∧
            Text.closing? (front ++ rest) =
              (Text.closingFrom (opened none front - closed none front) (openQuote none front)
                rest).map (· + front.length)) ∧
      ∀ text place, bytes = Text.bytes text →
        closingAt? (Text.ofBytes bytes) opening = some place →
          ∃ inner, Slice text (opening + 1) place inner) ∧
    (∀ front text, closingAt? (encoded (front ++ text)) (size front) =
      (Text.closing? text).map fun place => size front + size (text.take place)) ∧
    ∀ path read, Turns path 0 read ↔ read = steps path := by
  refine ⟨?_, Text.closingAt?_encoded, fun path read => turns_iff⟩
  intro bytes opening opens
  have here := getElem?_ofBytes (by decide) opens
  rcases Text.closingAt?_least here with ⟨least, nowhere⟩
  refine ⟨least, nowhere, ?_, ?_⟩
  · intro front rest parted nonempty missing
    rw [Text.drop_opening here] at parted
    cases front with
    | nil => contradiction
    | cons c front =>
        rcases (List.cons.inj parted).1 with rfl
        exact Text.closing?_behind missing rest
  · rintro text place rfl found
    exact closingAt?_slice here found

/-- A call with a quoted parenthesis and a nested one behind a large character, and a path with a
stray parenthesis, a call that is not closed and a quote that is not closed. -/
theorem reads_balanced_awkward :
    (Text.bytes ['é', '(', '\'', 'a', ')', '\'', '(', 'x', ')', ')', 'z'])[2]? =
        some '('.toUInt8 ∧
      IsLeast {place | Text.BalancesAt
        (encoded ['é', '(', '\'', 'a', ')', '\'', '(', 'x', ')', ')', 'z']) 2 place} 10 ∧
      (∃ inner, Slice ['é', '(', '\'', 'a', ')', '\'', '(', 'x', ')', ')', 'z'] 3 10 inner) ∧
      Turns ['a', ')', 'b', '(', '\'', 'é', ')'] 0
        [.member ['a', ')', 'b'], .call (.expression ['\'', 'é', ')'])] := by
  have opens : (Text.bytes ['é', '(', '\'', 'a', ')', '\'', '(', 'x', ')', ')', 'z'])[2]? =
      some '('.toUInt8 := by
    decide
  have found : closingAt? (encoded ['é', '(', '\'', 'a', ')', '\'', '(', 'x', ')', ')', 'z']) 2 =
      some 10 := by
    decide
  have read : steps ['a', ')', 'b', '(', '\'', 'é', ')'] =
      [.member ['a', ')', 'b'], .call (.expression ['\'', 'é', ')'])] := by
    cbv
  rcases reads_balanced with ⟨search, -, paths⟩
  rcases search _ 2 opens with ⟨least, -, -, slices⟩
  exact ⟨opens, (least 10).mp found, slices _ 10 rfl found, (paths _ _).mpr read.symm⟩

end TextTemplate.Path
