import TextTemplate.Text

/-!
# Texts as bytes

Places in a text are counted in the bytes of its encoding. To let the readers of texts run on byte
strings as well, a byte string is taken as a text with one character for each byte.

A basic character is its own only byte, and all bytes of the other characters lie above the basic
ones. So a basic character among the bytes of a text is a character of the text at that place
(`basic_at`), and cutting there cuts between characters (`Slice`).
-/

namespace TextTemplate.Text

/-- A byte string as a text. -/
def ofBytes (bytes : List UInt8) : Text :=
  bytes.map Char.ofUInt8

/-- The UTF-8 bytes of a text. -/
def bytes (text : Text) : List UInt8 :=
  text.flatMap String.utf8EncodeChar

/-- The number of bytes of a text. -/
def size (text : Text) : Nat :=
  (bytes text).length

/-- The bytes of a text as a text. -/
def encoded (text : Text) : Text :=
  ofBytes (bytes text)

@[simp]
theorem bytes_append (front rest : Text) : bytes (front ++ rest) = bytes front ++ bytes rest := by
  simp [bytes]

/-! ## Sizes -/

@[simp]
theorem size_nil : size [] = 0 :=
  rfl

@[simp]
theorem size_append (front rest : Text) : size (front ++ rest) = size front + size rest := by
  simp [size]

theorem size_cons (c : Char) (rest : Text) : size (c :: rest) = c.utf8Size + size rest := by
  simp [size, bytes]

theorem utf8Size_basic {c : Char} (basic : c.toNat < 128) : c.utf8Size = 1 := by
  apply Char.utf8Size_eq_one_iff.mpr
  apply UInt32.le_iff_toNat_le.mpr
  exact Nat.le_of_lt_succ basic

theorem size_pos {text : Text} (nonempty : text ≠ []) : 0 < size text := by
  cases text with
  | nil => contradiction
  | cons c rest =>
      have := c.utf8Size_pos
      simp only [size_cons]
      omega

theorem utf8ByteSize_ofList (text : Text) : (String.ofList text).utf8ByteSize = size text := by
  induction text with
  | nil => rfl
  | cons c rest ih =>
      have parted : c :: rest = [c] ++ rest := rfl
      rw [size_cons, ← ih, parted, String.ofList_append, String.utf8ByteSize_append]
      simp

/-! ## Bytes of characters -/

@[simp]
theorem encoded_append (front rest : Text) :
    encoded (front ++ rest) = encoded front ++ encoded rest := by
  simp [encoded, ofBytes]

@[simp]
theorem length_encoded (text : Text) : (encoded text).length = size text := by
  simp [encoded, ofBytes, size]

theorem ofUInt8_toUInt8 {c : Char} (basic : c.toNat < 128) : Char.ofUInt8 c.toUInt8 = c := by
  have small : c.val.toNat < 256 := Nat.lt_trans basic (by decide)
  apply Char.ext
  apply UInt32.toNat_inj.mp
  change (c.val.toUInt8).toUInt32.toNat = c.val.toNat
  rw [UInt8.toNat_toUInt32, UInt32.toNat_toUInt8, Nat.mod_eq_of_lt small]

theorem encoded_basic {c : Char} (basic : c.toNat < 128) (rest : Text) :
    encoded (c :: rest) = c :: encoded rest := by
  simp [encoded, bytes, ofBytes, String.utf8EncodeChar_eq_singleton (utf8Size_basic basic),
    ofUInt8_toUInt8 basic]

theorem mark_le_or (byte mark : UInt8) : mark.toNat ≤ (byte ||| mark).toNat := by
  rw [UInt8.toNat_or]
  exact Nat.right_le_or

/-- Every byte of a character that takes several bytes is marked as one. -/
theorem large_encoded {c : Char} (large : ¬c.toNat < 128) :
    ∀ d ∈ encoded [c], ¬d.toNat < 128 := by
  have several : c.utf8Size ≠ 1 := by
    intro single
    have small := UInt32.le_iff_toNat_le.mp (Char.utf8Size_eq_one_iff.mp single)
    exact large (Nat.lt_succ_of_le small)
  have marked : ∀ byte ∈ String.utf8EncodeChar c, 128 ≤ byte.toNat := by
    intro byte inside
    have first (front : UInt8) : 128 ≤ (front ||| 0xc0).toNat :=
      Nat.le_trans (by decide) (mark_le_or front 0xc0)
    have second (front : UInt8) : 128 ≤ (front ||| 0xe0).toNat :=
      Nat.le_trans (by decide) (mark_le_or front 0xe0)
    have third (front : UInt8) : 128 ≤ (front ||| 0xf0).toNat :=
      Nat.le_trans (by decide) (mark_le_or front 0xf0)
    have following (front : UInt8) : 128 ≤ (front ||| 0x80).toNat :=
      mark_le_or front 0x80
    rcases c.utf8Size_eq with one | two | three | four
    · contradiction
    · simp only [String.utf8EncodeChar_eq_cons_cons two, List.mem_cons, List.not_mem_nil,
        or_false] at inside
      rcases inside with rfl | rfl
      · exact first _
      · exact following _
    · simp only [String.utf8EncodeChar_eq_cons_cons_cons three, List.mem_cons, List.not_mem_nil,
        or_false] at inside
      rcases inside with rfl | rfl | rfl
      · exact second _
      · exact following _
      · exact following _
    · simp only [String.utf8EncodeChar_eq_cons_cons_cons_cons four, List.mem_cons,
        List.not_mem_nil, or_false] at inside
      rcases inside with rfl | rfl | rfl | rfl
      · exact third _
      · exact following _
      · exact following _
      · exact following _
  intro d inside
  simp only [encoded, ofBytes, bytes, List.flatMap_singleton, List.mem_map] at inside
  rcases inside with ⟨byte, among, rfl⟩
  have above := marked byte among
  have same : (Char.ofUInt8 byte).toNat = byte.toNat := UInt8.toNat_toUInt32 byte
  omega

/-- What holds of the text without characters, of a basic one in front and of a large one in front
holds of every text. -/
theorem encoding_induction {motive : Text → Prop} (nil : motive [])
    (basic : ∀ c rest, c.toNat < 128 → encoded (c :: rest) = c :: encoded rest → motive rest →
      motive (c :: rest))
    (large : ∀ c rest marks, ¬c.toNat < 128 → (∀ d ∈ marks, ¬d.toNat < 128) →
      marks.length = c.utf8Size → encoded (c :: rest) = marks ++ encoded rest → motive rest →
      motive (c :: rest))
    (text : Text) : motive text := by
  induction text with
  | nil => exact nil
  | cons c rest ih =>
      by_cases small : c.toNat < 128
      · exact basic c rest small (encoded_basic small rest) ih
      · have length : (encoded [c]).length = c.utf8Size := by
          simp [size_cons]
        exact large c rest (encoded [c]) small (large_encoded small) length
          (encoded_append [c] rest) ih

theorem drop_encoded (front rest : Text) :
    (encoded (front ++ rest)).drop (size front) = encoded rest := by
  rw [encoded_append, List.drop_left' (length_encoded front)]

/-- The first byte of a character is a basic character exactly if the character is that one. -/
theorem encoded_at (front : Text) (c : Char) (rest : Text) :
    ∃ d, (encoded (front ++ c :: rest))[size front]? = some d ∧
      ∀ mark : Char, mark.toNat < 128 → (d = mark ↔ c = mark) := by
  have first : (encoded (front ++ c :: rest))[size front]? = (encoded (c :: rest))[0]? := by
    rw [← drop_encoded front (c :: rest), List.getElem?_drop, Nat.add_zero]
  by_cases basic : c.toNat < 128
  · refine ⟨c, ?_, fun mark _ => Iff.rfl⟩
    rw [first, encoded_basic basic, List.getElem?_cons_zero]
  · cases written : encoded [c] with
    | nil =>
        have length := length_encoded [c]
        have := c.utf8Size_pos
        rw [written, size_cons] at length
        simp only [List.length_nil, size_nil] at length
        omega
    | cons d marks =>
        have above := large_encoded basic d (by simp [written])
        have whole : encoded (c :: rest) = encoded [c] ++ encoded rest := encoded_append [c] rest
        refine ⟨d, ?_, ?_⟩
        · rw [first, whole, written, List.cons_append, List.getElem?_cons_zero]
        · rintro mark small
          refine ⟨?_, ?_⟩
          · rintro rfl
            contradiction
          · rintro rfl
            contradiction

/-- A basic character among the bytes of a text is a character of the text. -/
theorem basic_at {text : Text} {place : Nat} {c : Char} (basic : c.toNat < 128)
    (here : (encoded text)[place]? = some c) :
    ∃ front behind, text = front ++ c :: behind ∧ size front = place := by
  induction text using encoding_induction generalizing place with
  | nil => simp at here
  | basic d rest small written ih =>
      cases place with
      | zero =>
          simp only [written, List.getElem?_cons_zero, Option.some.injEq] at here
          exact ⟨[], rest, by simp [here], rfl⟩
      | succ place =>
          simp only [written, List.getElem?_cons_succ] at here
          rcases ih here with ⟨front, behind, rfl, rfl⟩
          refine ⟨d :: front, behind, rfl, ?_⟩
          simp [size_cons, utf8Size_basic small, Nat.add_comm]
  | large d rest marks several above length written ih =>
      rw [written] at here
      by_cases within : place < marks.length
      · rw [List.getElem?_append_left within] at here
        exact absurd basic (above c (List.mem_of_getElem? here))
      · rw [List.getElem?_append_right (by omega)] at here
        rcases ih here with ⟨front, behind, rfl, shifted⟩
        refine ⟨d :: front, behind, rfl, ?_⟩
        simp only [size_cons]
        omega

/-! ## Slices -/

/-- Two places cut a piece out of a text: they are in order, they are borders of characters, and
the bytes between them are those of the piece. -/
structure Slice (text : Text) (first last : Nat) (piece : Text) : Prop where
  ordered : first ≤ last
  firstValid : String.Pos.Raw.IsValid (String.ofList text) ⟨first⟩
  lastValid : String.Pos.Raw.IsValid (String.ofList text) ⟨last⟩
  written : (bytes text).extract first last = bytes piece

theorem isValid_size (front rest : Text) :
    String.Pos.Raw.IsValid (String.ofList (front ++ rest)) ⟨size front⟩ := by
  apply String.Pos.Raw.isValid_ofList.mpr
  refine ⟨front.length, ?_⟩
  simp [utf8ByteSize_ofList]

theorem slice_append (before piece behind : Text) :
    Slice (before ++ piece ++ behind) (size before) (size before + size piece) piece where
  ordered := Nat.le_add_right _ _
  firstValid := by
    rw [List.append_assoc]
    exact isValid_size before (piece ++ behind)
  lastValid := by
    rw [← size_append]
    exact isValid_size (before ++ piece) behind
  written := by
    simp [List.extract, size]

theorem Slice.le_size {text piece : Text} {first last : Nat} (slice : Slice text first last piece) :
    last ≤ size text := by
  have bound := slice.lastValid.le_utf8ByteSize
  simpa [utf8ByteSize_ofList] using bound

/-- What a slice cuts out stands in the text behind as many bytes. -/
theorem Slice.parted {text piece : Text} {first last : Nat} (slice : Slice text first last piece) :
    ∃ before behind, text = before ++ piece ++ behind ∧ size before = first ∧
      last = first + size piece := by
  rcases String.Pos.Raw.isValid_ofList.mp slice.firstValid with ⟨count, counted⟩
  have place : first = size (text.take count) := by
    simpa [utf8ByteSize_ofList] using counted
  have whole : bytes text = bytes (text.take count) ++ bytes (text.drop count) := by
    rw [← bytes_append, List.take_append_drop]
  have cut : bytes piece = (bytes (text.drop count)).take (last - first) := by
    rw [← slice.written, List.extract, whole, place]
    simp [size]
  have begins : piece <+: text.drop count := by
    apply List.isPrefix_of_utf8Encode_append_eq_utf8Encode
      ((bytes (text.drop count)).drop (last - first)).toByteArray
    change (bytes piece).toByteArray ++ _ = (bytes (text.drop count)).toByteArray
    rw [cut, ← List.toByteArray_append, List.take_append_drop]
  rcases begins with ⟨behind, rest⟩
  refine ⟨text.take count, behind, ?_, place.symm, ?_⟩
  · rw [List.append_assoc, rest, List.take_append_drop]
  · have length := congrArg List.length cut
    have ordered := slice.ordered
    have bound := slice.le_size
    have sizes : size text = first + (bytes (text.drop count)).length := by
      rw [place, size, whole, List.length_append]
      rfl
    rw [List.length_take] at length
    simp only [size] at *
    omega

/-- A place in a text has only one text before it and one behind it. -/
theorem append_inj_of_size {front rest before behind : Text}
    (same : front ++ rest = before ++ behind) (place : size front = size before) :
    front = before ∧ rest = behind := by
  induction front generalizing before with
  | nil =>
      cases before with
      | nil => exact ⟨rfl, same⟩
      | cons c before =>
          have := size_pos (List.cons_ne_nil c before)
          simp only [size_nil] at place
          omega
  | cons c front ih =>
      cases before with
      | nil =>
          have := size_pos (List.cons_ne_nil c front)
          simp only [size_nil] at place
          omega
      | cons d before =>
          rcases List.cons.inj same with ⟨rfl, following⟩
          simp only [size_cons, Nat.add_left_cancel_iff] at place
          rcases ih following place with ⟨rfl, rfl⟩
          exact ⟨rfl, rfl⟩

/-- A basic character among the bytes behind a text begins what follows the text. -/
theorem cons_of_basic_at {front rest : Text} {c : Char} (basic : c.toNat < 128)
    (here : (encoded (front ++ rest))[size front]? = some c) :
    ∃ behind, rest = c :: behind := by
  rcases basic_at basic here with ⟨before, behind, whole, place⟩
  rcases append_inj_of_size whole place.symm with ⟨-, rfl⟩
  exact ⟨behind, rfl⟩

/-- A slice that begins behind a text begins what follows the text. -/
theorem Slice.cut {front rest piece : Text} {last : Nat}
    (slice : Slice (front ++ rest) (size front) last piece) :
    ∃ behind, rest = piece ++ behind ∧ last = size front + size piece := by
  rcases slice.parted with ⟨before, behind, whole, place, ending⟩
  rw [List.append_assoc] at whole
  rcases append_inj_of_size whole place.symm with ⟨-, rfl⟩
  exact ⟨behind, rfl, ending⟩

end TextTemplate.Text
