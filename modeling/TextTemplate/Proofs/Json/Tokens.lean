import TextTemplate.Proofs.Json.Scalars

/-!
# Tokens of JSON texts

A text is read token by token. How much of a text may be read does not matter once it is enough for
the whole text (`Json.Lexes`), which is how the tokens of a text that is put together are found; and
a text that was read holds what its tokens show.
-/

namespace TextTemplate.Json

/-! ## Reading one token -/

theorem tokensWithin_nil (fuel : Nat) : tokensWithin fuel [] = some [] := by
  cases fuel <;> rfl

/-- A text is read token by token, and blanks are left out. -/
theorem tokensWithin_cons {fuel : Nat} {c : Char} {rest : Text} {tokens : List Token}
    (lexed : tokensWithin (fuel + 1) (c :: rest) = some tokens) :
    tokensWithin fuel rest = some tokens ∨
      ∃ token following others, token? (c :: rest) = some (token, following) ∧
        tokensWithin fuel following = some others ∧ tokens = token :: others := by
  rw [tokensWithin] at lexed
  split at lexed
  · exact .inl lexed
  · split at lexed
    · contradiction
    · rename_i token following read
      rcases Option.map_eq_some_iff.mp lexed with ⟨others, behind, rfl⟩
      exact .inr ⟨token, following, others, read, behind, rfl⟩

/-! ## Texts with known tokens -/

/-- The text consists of these tokens, however many characters may be read at most. -/
def Lexes (text : Text) (tokens : List Token) : Prop :=
  ∀ fuel, text.length ≤ fuel → tokensWithin fuel text = some tokens

theorem lexes_nil : Lexes [] [] := by
  intro fuel enough
  exact tokensWithin_nil fuel

theorem Lexes.cons {c : Char} {rest following : Text} {token : Token} {tokens : List Token}
    (behind : Lexes following tokens) (visible : isSpace c = false)
    (read : token? (c :: rest) = some (token, following))
    (shorter : following.length ≤ rest.length) : Lexes (c :: rest) (token :: tokens) := by
  intro fuel enough
  cases fuel with
  | zero => contradiction
  | succ fuel =>
      simp only [List.length_cons] at enough
      simp [tokensWithin, visible, read, behind fuel (by omega)]

/-- A bracket, a comma or a colon. -/
theorem Lexes.mark {c : Char} {rest : Text} {token : Token} {tokens : List Token}
    (behind : Lexes rest tokens) (visible : isSpace c = false)
    (read : token? (c :: rest) = some (token, rest)) : Lexes (c :: rest) (token :: tokens) :=
  behind.cons visible read (Nat.le_refl _)

theorem Lexes.quoteText {rest : Text} {tokens : List Token} (behind : Lexes rest tokens)
    (text : Text) :
    Lexes (Value.quoteText text ++ rest) (.string (String.ofList text) :: tokens) := by
  have read := token?_quoteText text rest
  rw [Value.quoteText, List.cons_append] at read ⊢
  exact behind.cons rfl read (by simp; omega)

theorem endsNumber_cons {c : Char} (mark : c ∈ [',', ']', '}']) (rest : Text) :
    EndsNumber (c :: rest) := by
  simp only [List.mem_cons, List.not_mem_nil, or_false] at mark
  intro d head
  rw [← Option.some.inj head]
  rcases mark with rfl | rfl | rfl <;> decide

theorem Lexes.ofInt {rest : Text} {tokens : List Token} (behind : Lexes rest tokens)
    (ends : EndsNumber rest) (n : Int64) :
    Lexes (Digits.ofInt n.toInt ++ rest) (.scalar (.whole n.toInt) :: tokens) := by
  rcases ofInt_head n.toInt with ⟨c, digits, shape, begins⟩
  have visible : isSpace c = false := by
    rcases begins with rfl | digit
    · rfl
    · have other : ([' ', '\t', '\n', '\r'].all fun c => !c.isDigit) = true := by decide
      have notListed : c ∉ [' ', '\t', '\n', '\r'] := by
        intro listed
        simpa [digit] using List.all_eq_true.mp other c listed
      simpa [isSpace, and_assoc] using notListed
  have read := number?_ofInt n.le_toInt n.toInt_lt ends
  rw [shape, List.cons_append] at read ⊢
  refine behind.cons visible ?_ (by simp)
  rw [token?_of_beginsNumber begins, read]
  rfl

/-! ## What tokens show -/

theorem isScalar_of_mem_tokensWithin {fuel : Nat} {text : Text} {tokens : List Token}
    (lexed : tokensWithin fuel text = some tokens) {value : Json}
    (listed : .scalar value ∈ tokens) : value.IsScalar := by
  induction fuel generalizing text tokens with
  | zero =>
      cases text with
      | nil => simp_all [tokensWithin_nil]
      | cons c rest => contradiction
  | succ fuel ih =>
      cases text with
      | nil => simp_all [tokensWithin_nil]
      | cons c rest =>
          rcases tokensWithin_cons lexed with behind | ⟨token, following, others, read, behind, rfl⟩
          · exact ih behind listed
          · rcases List.mem_cons.mp listed with rfl | listed
            · exact isScalar_of_token? read
            · exact ih behind listed

theorem token?_openObject {c : Char} {rest following : Text}
    (read : token? (c :: rest) = some (.openObject, following)) : c = '{' := by
  unfold token? at read
  split at read <;> simp_all

/-- A text that opens an object has a brace, so it is not blank. -/
theorem mem_of_openObject {fuel : Nat} {text : Text} {tokens : List Token}
    (lexed : tokensWithin fuel text = some (.openObject :: tokens)) : '{' ∈ text := by
  induction text generalizing fuel with
  | nil => simp [tokensWithin_nil] at lexed
  | cons c rest ih =>
      cases fuel with
      | zero => contradiction
      | succ fuel =>
          rcases tokensWithin_cons lexed with behind | ⟨token, following, others, read, -, opened⟩
          · exact List.mem_cons_of_mem c (ih behind)
          · rw [← (List.cons.inj opened).1] at read
            simp [token?_openObject read]

end TextTemplate.Json
