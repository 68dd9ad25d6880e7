import TextTemplate.Unicode.Class

/-!
# Text

Templates, expressions and patterns are read character by character, so they are lists of
characters here, and every reader below either takes a front part off or cuts at the first place
where something occurs.
-/

namespace TextTemplate

/-- Text that is being read or assembled. -/
abbrev Text := List Char

namespace Text

open Unicode (isBlank)

/-- The text without leading blanks. -/
def trimStart (text : Text) : Text :=
  text.dropWhile isBlank

/-- The text without trailing blanks. -/
def trimEnd (text : Text) : Text :=
  (text.reverse.dropWhile isBlank).reverse

/-- The text without blanks at either end. -/
def trim (text : Text) : Text :=
  trimEnd (trimStart text)

/-- Only blanks, or nothing at all. -/
def isBlankText (text : Text) : Bool :=
  text.all isBlank

/-- What follows `token` when the text begins with it. -/
def after? : Text → Text → Option Text
  | [], text => some text
  | _ :: _, [] => none
  | c :: token, d :: text => if c = d then after? token text else none

/-- What precedes `token` when the text ends with it. -/
def before? (token text : Text) : Option Text :=
  (after? token.reverse text.reverse).map List.reverse

/-- The parts before and after the first occurrence of `token`. -/
def cut? (token : Text) : Text → Option (Text × Text)
  | [] => if token.isEmpty then some ([], []) else none
  | c :: rest =>
    match after? token (c :: rest) with
    | some following => some ([], following)
    | none => (cut? token rest).map fun parts => (c :: parts.1, parts.2)

/-- The parts before and after the first occurrence of the character `mark`. -/
def cutAt? (mark : Char) : Text → Option (Text × Text)
  | [] => none
  | c :: rest =>
    if c = mark then some ([], rest)
    else (cutAt? mark rest).map fun parts => (c :: parts.1, parts.2)

/-- The text occurs somewhere. -/
def mentions (token text : Text) : Bool :=
  (cut? token text).isSome

/-- The pieces between the occurrences of the character `mark`, of which there is one more than
there are occurrences. -/
def pieces (mark : Char) : Text → List Text
  | [] => [[]]
  | c :: rest =>
    match pieces mark rest with
    | [] => [[c]]
    | piece :: others => if c = mark then [] :: piece :: others else (c :: piece) :: others

/-- The text inside one pair of the given quotes, if it is written between them. -/
def inQuotes? (quote : Char) (text : Text) : Option Text :=
  match text with
  | first :: second :: rest =>
    if first = quote ∧ (second :: rest).getLast? = some quote then
      some (second :: rest).dropLast
    else none
  | _ => none

/-- The text without one pair of double quotes around it or, failing that, single quotes. -/
def unquote (text : Text) : Text :=
  match inQuotes? '"' text with
  | some inner => inner
  | none => (inQuotes? '\'' text).getD text

theorem after?_eq_some {token text following : Text} (found : after? token text = some following) :
    text = token ++ following := by
  fun_induction after? token text with
  | case1 text => simpa using found
  | case2 => simp at found
  | case3 token d text ih => simpa using ih found
  | case4 => simp at found

theorem after?_append (token rest : Text) : after? token (token ++ rest) = some rest := by
  induction token with
  | nil => simp [after?]
  | cons c token ih => simpa [after?] using ih

theorem length_after?_add {token text following : Text}
    (found : after? token text = some following) :
    following.length + token.length = text.length := by
  simp [after?_eq_some found, Nat.add_comm]

theorem length_after?_le {token text following : Text}
    (found : after? token text = some following) : following.length ≤ text.length := by
  have := length_after?_add found
  omega

theorem cut?_eq_some {token text before following : Text}
    (found : cut? token text = some (before, following)) :
    text = before ++ token ++ following := by
  fun_induction cut? token text generalizing before with
  | case1 empty =>
    rcases Prod.mk.inj (Option.some.inj found) with ⟨rfl, rfl⟩
    simpa using empty
  | case2 => simp at found
  | case3 c rest behind here =>
    rcases Prod.mk.inj (Option.some.inj found) with ⟨rfl, rfl⟩
    simpa using after?_eq_some here
  | case4 c rest _ ih =>
    rcases Option.map_eq_some_iff.mp found with ⟨⟨front, back⟩, inner, parts⟩
    rcases Prod.mk.inj parts with ⟨rfl, rfl⟩
    simpa using ih inner

theorem length_cut?_add {token text before following : Text}
    (found : cut? token text = some (before, following)) :
    before.length + token.length + following.length = text.length := by
  simp [cut?_eq_some found, Nat.add_assoc]

theorem length_dropWhile_le (keep : Char → Bool) (text : Text) :
    (text.dropWhile keep).length ≤ text.length :=
  (List.dropWhile_sublist keep).length_le

theorem length_trimStart_le (text : Text) : (trimStart text).length ≤ text.length :=
  length_dropWhile_le isBlank text

theorem length_trimEnd_le (text : Text) : (trimEnd text).length ≤ text.length := by
  simpa [trimEnd] using length_dropWhile_le isBlank text.reverse

theorem length_trim_le (text : Text) : (trim text).length ≤ text.length :=
  Nat.le_trans (length_trimEnd_le _) (length_trimStart_le _)

end Text

end TextTemplate
