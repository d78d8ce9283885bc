import BlockSync.Text.Utf8
import Mathlib.Tactic.Tauto

namespace BlockSync.Text

/-!
# UTF-8 round trips

Decoding undoes encoding, and bytes that can be decoded are the encoding of what they decode to. So
a text that is read from a file and written back unchanged leaves the bytes of the file as they
were.
-/

/-- Bytes that continue a character lie in a range of their own. -/
theorem isContinuation_iff {byte : UInt8} :
    isContinuation byte = true ↔ 0x80 ≤ byte.toNat ∧ byte.toNat ≤ 0xBF := by
  simp [isContinuation, UInt8.le_iff_toNat_le]

/-- A second byte is a continuation, narrowed by the first bytes of overlong and excessive forms. -/
theorem canFollow_iff {first second : UInt8} :
    canFollow first second = true ↔
      (0x80 ≤ second.toNat ∧ second.toNat ≤ 0xBF) ∧
        (first.toNat = 0xE0 → 0xA0 ≤ second.toNat) ∧
        (first.toNat = 0xED → second.toNat < 0xA0) ∧
        (first.toNat = 0xF0 → 0x90 ≤ second.toNat) ∧
        (first.toNat = 0xF4 → second.toNat < 0x90) := by
  have eq_iff : ∀ byte : UInt8, first = byte ↔ first.toNat = byte.toNat :=
    fun byte => UInt8.toNat_inj.symm
  simp only [canFollow, Bool.and_eq_true, isContinuation_iff, Bool.or_eq_true,
    bne_iff_ne, ne_eq, eq_iff, decide_eq_true_eq, UInt8.lt_iff_toNat_lt,
    UInt8.le_iff_toNat_le, UInt8.reduceToNat, or_iff_not_imp_left, not_not]
  tauto

/-- The number of a valid code point is read back. -/
private theorem toNat_val_ofNat
    {code : Nat}
    (valid : code.isValidChar) :
    (Char.ofNat code).val.toNat = code := by
  rw [Char.ofNat, dif_pos valid]
  rfl

/-- A byte is given by its number. -/
private theorem ofNat_eq_of_eq
    {byte : UInt8}
    {number : Nat}
    (same : number = byte.toNat) :
    UInt8.ofNat number = byte := by
  rw [same, UInt8.ofNat_toNat]

section Bytes

variable {a b c d : UInt8}

/-- The character of one byte is encoded by that byte. -/
private theorem encodes_one (ascii : a < 0x80) :
    String.utf8EncodeChar (Char.ofNat a.toNat) = [a] := by
  rw [UInt8.lt_iff_toNat_lt] at ascii
  change a.toNat < 0x80 at ascii
  rw [String.utf8EncodeChar, toNat_val_ofNat (Or.inl (by omega)), if_pos (by omega),
    UInt8.ofNat_toNat]

/-- The character of two bytes is encoded by those bytes. -/
private theorem encodes_two
    (start : 0xC2 ≤ a.toNat)
    (short : a.toNat < 0xE0)
    (follows : canFollow a b = true) :
    String.utf8EncodeChar
        (Char.ofNat ((a.toNat % 0x20) * 0x40 + continuationBits b)) =
      [a, b] := by
  rw [canFollow_iff] at follows
  simp only [continuationBits]
  rw [String.utf8EncodeChar, toNat_val_ofNat (Or.inl (by omega)), if_neg (by omega),
    if_pos (by omega)]
  congr 1
  · exact ofNat_eq_of_eq (by omega)
  · congr 1
    exact ofNat_eq_of_eq (by omega)

/-- The character of three bytes is encoded by those bytes. -/
private theorem encodes_three
    (long : 0xE0 ≤ a.toNat)
    (short : a.toNat < 0xF0)
    (follows : canFollow a b = true)
    (continues : isContinuation c = true) :
    String.utf8EncodeChar
        (Char.ofNat
          (((a.toNat % 0x10) * 0x40 + continuationBits b) * 0x40 + continuationBits c)) =
      [a, b, c] := by
  rw [canFollow_iff] at follows
  rw [isContinuation_iff] at continues
  simp only [continuationBits]
  have valid :
      Nat.isValidChar
        (((a.toNat % 0x10) * 0x40 + b.toNat % 0x40) * 0x40 + c.toNat % 0x40) := by
    simp only [Nat.isValidChar]
    omega
  rw [String.utf8EncodeChar, toNat_val_ofNat valid, if_neg (by omega), if_neg (by omega),
    if_pos (by omega)]
  congr 1
  · exact ofNat_eq_of_eq (by omega)
  · congr 1
    · exact ofNat_eq_of_eq (by omega)
    · congr 1
      exact ofNat_eq_of_eq (by omega)

/-- The character of four bytes is encoded by those bytes. -/
private theorem encodes_four
    (long : 0xF0 ≤ a.toNat)
    (notBeyond : a.toNat ≤ 0xF4)
    (follows : canFollow a b = true)
    (continues : isContinuation c = true)
    (ends : isContinuation d = true) :
    String.utf8EncodeChar
        (Char.ofNat
          ((((a.toNat % 0x08) * 0x40 + continuationBits b) * 0x40 + continuationBits c) * 0x40 +
            continuationBits d)) =
      [a, b, c, d] := by
  rw [canFollow_iff] at follows
  rw [isContinuation_iff] at continues ends
  simp only [continuationBits]
  have valid :
      Nat.isValidChar
        ((((a.toNat % 0x08) * 0x40 + b.toNat % 0x40) * 0x40 + c.toNat % 0x40) * 0x40 +
          d.toNat % 0x40) := by
    simp only [Nat.isValidChar]
    omega
  rw [String.utf8EncodeChar, toNat_val_ofNat valid, if_neg (by omega), if_neg (by omega),
    if_neg (by omega)]
  congr 1
  · exact ofNat_eq_of_eq (by omega)
  · congr 1
    · exact ofNat_eq_of_eq (by omega)
    · congr 1
      · exact ofNat_eq_of_eq (by omega)
      · congr 1
        exact ofNat_eq_of_eq (by omega)

variable {position : Nat} {decoded : List Char} {rest : List UInt8}

/-- One byte is decoded as one character. -/
private theorem decodeFrom_one (ascii : a.toNat < 0x80) :
    decodeFrom position decoded (a :: rest) =
      decodeFrom (position + 1) (Char.ofNat a.toNat :: decoded) rest := by
  have isAscii : a < 0x80 := UInt8.lt_iff_toNat_lt.mpr ascii
  rw [decodeFrom.eq_def]
  simp only [if_pos isAscii]

/-- What a first byte of several ones passes before the other bytes are looked at. -/
private theorem passes_start
    (start : 0xC2 ≤ a.toNat)
    (notBeyond : a.toNat ≤ 0xF4) :
    ¬ a < 0x80 ∧ ¬ (a < 0xC2 || 0xF4 < a) = true := by
  simp only [UInt8.lt_iff_toNat_lt, UInt8.reduceToNat, Bool.or_eq_true, decide_eq_true_eq]
  omega

/-- Two bytes are decoded as one character. -/
private theorem decodeFrom_two
    (start : 0xC2 ≤ a.toNat)
    (short : a.toNat < 0xE0)
    (follows : canFollow a b = true) :
    decodeFrom position decoded (a :: b :: rest) =
      decodeFrom (position + 2)
        (Char.ofNat ((a.toNat % 0x20) * 0x40 + continuationBits b) :: decoded) rest := by
  obtain ⟨notAscii, started⟩ := passes_start start (by omega)
  have isTwo : a < 0xE0 := UInt8.lt_iff_toNat_lt.mpr short
  rw [decodeFrom.eq_def]
  simp [notAscii, started, follows, isTwo]

/-- Three bytes are decoded as one character. -/
private theorem decodeFrom_three
    (long : 0xE0 ≤ a.toNat)
    (short : a.toNat < 0xF0)
    (follows : canFollow a b = true)
    (continues : isContinuation c = true) :
    decodeFrom position decoded (a :: b :: c :: rest) =
      decodeFrom (position + 3)
        (Char.ofNat
            (((a.toNat % 0x10) * 0x40 + continuationBits b) * 0x40 + continuationBits c) ::
          decoded) rest := by
  obtain ⟨notAscii, started⟩ := passes_start (a := a) (by omega) (by omega)
  have notTwo : ¬ a < 0xE0 := fun isTwo =>
    Nat.not_lt.mpr long (UInt8.lt_iff_toNat_lt.mp isTwo)
  have isThree : a < 0xF0 := UInt8.lt_iff_toNat_lt.mpr short
  rw [decodeFrom.eq_def]
  simp [notAscii, started, follows, notTwo, continues, isThree]

/-- Four bytes are decoded as one character. -/
private theorem decodeFrom_four
    (long : 0xF0 ≤ a.toNat)
    (notBeyond : a.toNat ≤ 0xF4)
    (follows : canFollow a b = true)
    (continues : isContinuation c = true)
    (ends : isContinuation d = true) :
    decodeFrom position decoded (a :: b :: c :: d :: rest) =
      decodeFrom (position + 4)
        (Char.ofNat
            ((((a.toNat % 0x08) * 0x40 + continuationBits b) * 0x40 + continuationBits c) *
                0x40 + continuationBits d) ::
          decoded) rest := by
  obtain ⟨notAscii, started⟩ := passes_start (a := a) (by omega) notBeyond
  have notTwo : ¬ a < 0xE0 := fun isTwo =>
    Nat.not_lt.mpr (Nat.le_trans (by decide) long) (UInt8.lt_iff_toNat_lt.mp isTwo)
  have notThree : ¬ a < 0xF0 := fun isThree =>
    Nat.not_lt.mpr long (UInt8.lt_iff_toNat_lt.mp isThree)
  rw [decodeFrom.eq_def]
  simp [notAscii, started, follows, notTwo, continues, notThree, ends]

/-- What is known of a first byte that passes the tests of the decoder. -/
private theorem start_bounds
    (started : ¬ (a < 0xC2 || 0xF4 < a) = true) :
    0xC2 ≤ a.toNat ∧ a.toNat ≤ 0xF4 := by
  simp only [UInt8.lt_iff_toNat_lt, UInt8.reduceToNat, Bool.or_eq_true, decide_eq_true_eq]
    at started
  omega

/-- Bytes that are decoded are the encoding of the characters they are decoded to. -/
private theorem eq_encoding_of_decodeFrom
    {chars : List Char}
    {bytes : List UInt8}
    (accepted : decodeFrom position decoded bytes = .ok chars) :
    ∃ later,
      chars = decoded.reverse ++ later ∧ bytes = later.flatMap String.utf8EncodeChar := by
  have oneMore : ∀ {decoded : List Char} {character : Char} {first rest : List UInt8},
      String.utf8EncodeChar character = first →
        (∃ later,
          chars = (character :: decoded).reverse ++ later ∧
            rest = later.flatMap String.utf8EncodeChar) →
        ∃ later,
          chars = decoded.reverse ++ later ∧
            first ++ rest = later.flatMap String.utf8EncodeChar := by
    rintro decoded character first rest encoded ⟨later, rfl, rfl⟩
    exact ⟨character :: later, by simp, by simp [encoded]⟩
  -- The cases in which the decoder refuses the bytes contradict the hypothesis.
  fun_induction decodeFrom position decoded bytes
  case case1 =>
    injection accepted with same
    exact ⟨[], by simp [same], rfl⟩
  case case2 ascii inductionHypothesis =>
    exact oneMore (encodes_one ascii) (inductionHypothesis accepted)
  case case6 _ started _ _ follows short _ inductionHypothesis =>
    have bounds := start_bounds started
    rw [UInt8.lt_iff_toNat_lt] at short
    exact oneMore (encodes_two bounds.1 short (by simpa using follows))
      (inductionHypothesis accepted)
  case case9 _ _ _ follows notTwo _ _ continues short _ inductionHypothesis =>
    rw [UInt8.lt_iff_toNat_lt] at notTwo short
    exact oneMore
      (encodes_three (Nat.not_lt.mp notTwo) short (by simpa using follows)
        (by simpa using continues))
      (inductionHypothesis accepted)
  case case12 _ started _ follows _ _ continues notThree _ _ ends _
      inductionHypothesis =>
    have bounds := start_bounds started
    rw [UInt8.lt_iff_toNat_lt] at notThree
    exact oneMore
      (encodes_four (Nat.not_lt.mp notThree) bounds.2 (by simpa using follows)
        (by simpa using continues) (by simpa using ends))
      (inductionHypothesis accepted)
  all_goals cases accepted

/-- The number of a byte that is given by its number. -/
private theorem toNat_byte
    (number : Nat)
    (small : number < 0x100) :
    (UInt8.ofNat number).toNat = number :=
  UInt8.toNat_ofNat_of_lt' small

/-- The encoding of a character is decoded as that character. -/
private theorem decodeFrom_encoding
    (position : Nat)
    (decoded : List Char)
    (character : Char)
    (rest : List UInt8) :
    ∃ later,
      decodeFrom position decoded (String.utf8EncodeChar character ++ rest) =
        decodeFrom later (character :: decoded) rest := by
  have valid := character.valid
  simp only [UInt32.isValidChar, Nat.isValidChar] at valid
  have readBack :
      ∀ {code : Nat}, code = character.val.toNat → Char.ofNat code = character := by
    rintro _ rfl
    exact Char.ofNat_toNat character
  rw [String.utf8EncodeChar]
  generalize character.val.toNat = code at valid readBack
  split
  · have first := toNat_byte code (by omega)
    refine ⟨position + 1, ?_⟩
    rw [List.singleton_append, decodeFrom_one (by omega), readBack first]
  · split
    · have first := toNat_byte (code / 64 % 0x20 + 0xC0) (by omega)
      have second := toNat_byte (code % 0x40 + 0x80) (by omega)
      refine ⟨position + 2, ?_⟩
      rw [List.cons_append, List.singleton_append,
        decodeFrom_two (by omega) (by omega) (canFollow_iff.mpr (by omega)), readBack]
      rw [continuationBits, first, second]
      omega
    · split
      · have first := toNat_byte (code / 4096 % 0x10 + 0xE0) (by omega)
        have second := toNat_byte (code / 64 % 0x40 + 0x80) (by omega)
        have third := toNat_byte (code % 0x40 + 0x80) (by omega)
        refine ⟨position + 3, ?_⟩
        rw [List.cons_append, List.cons_append, List.singleton_append,
          decodeFrom_three (by omega) (by omega) (canFollow_iff.mpr (by omega))
            (isContinuation_iff.mpr (by omega)), readBack]
        rw [continuationBits, continuationBits, first, second, third]
        omega
      · have first := toNat_byte (code / 262144 % 0x08 + 0xF0) (by omega)
        have second := toNat_byte (code / 4096 % 0x40 + 0x80) (by omega)
        have third := toNat_byte (code / 64 % 0x40 + 0x80) (by omega)
        have fourth := toNat_byte (code % 0x40 + 0x80) (by omega)
        refine ⟨position + 4, ?_⟩
        rw [List.cons_append, List.cons_append, List.cons_append, List.singleton_append,
          decodeFrom_four (by omega) (by omega) (canFollow_iff.mpr (by omega))
            (isContinuation_iff.mpr (by omega)) (isContinuation_iff.mpr (by omega)),
          readBack]
        rw [continuationBits, continuationBits, continuationBits, first, second, third, fourth]
        omega

end Bytes

/-- The encoding of characters is decoded as those characters. -/
private theorem decodeFrom_encodings
    (position : Nat)
    (decoded chars : List Char) :
    decodeFrom position decoded (chars.flatMap String.utf8EncodeChar) =
      .ok (decoded.reverse ++ chars) := by
  induction chars generalizing position decoded with
  | nil =>
      simp [decodeFrom]
  | cons character rest inductionHypothesis =>
      obtain ⟨later, step⟩ :=
        decodeFrom_encoding position decoded character
          (rest.flatMap String.utf8EncodeChar)
      rw [List.flatMap_cons, step, inductionHypothesis]
      simp

/-- The bytes of a text are those of its characters. -/
private theorem toList_encode (text : String) :
    (encode text).data.toList = text.toList.flatMap String.utf8EncodeChar := by
  rw [encode, String.toUTF8_eq_toByteArray, ← String.utf8Encode_toList, List.utf8Encode,
    List.toList_data_toByteArray]

/-- Decoding undoes encoding. -/
@[simp] theorem decode_encode (text : String) : decode (encode text) = .ok text := by
  rw [decode, toList_encode, decodeFrom_encodings]
  simp [Except.map]

/-- Bytes that can be decoded are the encoding of the text that they are decoded to. -/
theorem encode_of_decode
    {bytes : ByteArray}
    {text : String}
    (decoded : decode bytes = .ok text) :
    encode text = bytes := by
  rw [decode] at decoded
  cases accepted : decodeFrom 0 [] bytes.data.toList with
  | error error =>
      rw [accepted] at decoded
      cases decoded
  | ok chars =>
      rw [accepted] at decoded
      injection decoded with same
      obtain ⟨later, rfl, encoded⟩ := eq_encoding_of_decodeFrom accepted
      apply ByteArray.ext
      rw [← Array.toList_inj, toList_encode, encoded, ← same]
      simp

end BlockSync.Text
