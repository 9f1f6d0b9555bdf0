import Drift.Digest

/-!
# Hexadecimal text read back

Reading takes exactly the texts of 64 hexadecimal digits of either case and gives
the digest that is written with their lower-case forms. Of any other text of 64
bytes it names the first byte that is no digit, in whichever half of a pair that
byte stands. Digits are ASCII, so a text of digits has as many characters as bytes.
-/

namespace Drift

namespace Text

theorem utf8_ofList (characters : List Char) :
    utf8 (String.ofList characters) = characters.flatMap String.utf8EncodeChar := by
  simp [utf8, String.toByteArray_ofList, List.utf8Encode, List.data_toByteArray]

/-- An ASCII character takes one byte, its number. -/
theorem utf8_ofList_ascii {characters : List Char}
    (ascii : ∀ character ∈ characters, character.val ≤ 127) :
    utf8 (String.ofList characters) =
      characters.map fun character => character.val.toUInt8 := by
  rw [utf8_ofList, List.map_eq_flatMap, List.flatMap_def, List.flatMap_def]
  congr 1
  apply List.map_congr_left
  intro character member
  exact String.utf8EncodeChar_eq_singleton
    (Char.utf8Size_eq_one_iff.mpr (ascii character member))

end Text

namespace Hex

/-- The character of the same number as a byte. -/
def charOf (byte : UInt8) : Char := Char.ofNat byte.toNat

/-- The sixteen digits, those above nine in either case. -/
def IsDigit (byte : UInt8) : Prop :=
  charOf byte ∈ "0123456789abcdefABCDEF".toList

instance : DecidablePred IsDigit :=
  fun byte => inferInstanceAs (Decidable (charOf byte ∈ "0123456789abcdefABCDEF".toList))

/-- What holds of all 256 bytes holds of every byte. -/
theorem forall_byte {property : UInt8 → Prop}
    (holds : ∀ value : Fin 256, property (UInt8.ofNat value)) (byte : UInt8) :
    property byte := by
  have here := holds ⟨byte.toNat, byte.toNat_lt⟩
  rwa [UInt8.ofNat_toNat] at here

theorem value?_eq_none_iff (byte : UInt8) : value? byte = none ↔ ¬ IsDigit byte := by
  revert byte
  exact forall_byte (by decide +kernel)

/-- A digit is written in lower case again. -/
theorem digit_of_value? (byte : UInt8) : ∀ value ∈ value? byte,
    value < 16 ∧ digit value = (charOf byte).toLower := by
  revert byte
  exact forall_byte (by decide +kernel)

/-- A digit that is written is ASCII and read as its value. -/
theorem value?_digit (value : UInt8) : value < 16 →
    (digit value).val ≤ 127 ∧ value? (digit value).val.toUInt8 = some value := by
  revert value
  exact forall_byte (by decide +kernel)

theorem ascii_of_isDigit (byte : UInt8) : IsDigit byte →
    (charOf byte).val ≤ 127 ∧ (charOf byte).val.toUInt8 = byte := by
  revert byte
  exact forall_byte (by decide +kernel)

/-- A byte is made of two digits, each below sixteen, in one way. -/
theorem halves_of_byte (byte : UInt8) :
    byte / 16 < 16 ∧ byte % 16 < 16 ∧ 16 * (byte / 16) + byte % 16 = byte := by
  revert byte
  exact forall_byte (by decide +kernel)

theorem halves_of_digits {high low : UInt8} (smallHigh : high < 16) (smallLow : low < 16) :
    (16 * high + low) / 16 = high ∧ (16 * high + low) % 16 = low := by
  rw [UInt8.lt_iff_toNat_lt] at smallHigh smallLow
  simp only [← UInt8.toNat_inj, UInt8.toNat_div, UInt8.toNat_mod, UInt8.toNat_add,
    UInt8.toNat_mul]
  simp only [UInt8.reduceToNat] at *
  omega

/-- Some bytes are all digits, or there is a first one that is none. -/
theorem forall_isDigit_or_first (bytes : List UInt8) :
    (∀ byte ∈ bytes, IsDigit byte) ∨
      ∃ before bad after, bytes = before ++ bad :: after ∧
        (∀ byte ∈ before, IsDigit byte) ∧ ¬ IsDigit bad := by
  cases found : bytes.find? fun byte => ¬ IsDigit byte with
  | none => exact .inl (by simpa using found)
  | some bad =>
      obtain ⟨other, before, after, parts, good⟩ := List.find?_eq_some_iff_append.mp found
      exact .inr ⟨before, bad, after, parts, by simpa using good, by simpa using other⟩

theorem valueAt_of_isDigit {byte : UInt8} (isDigit : IsDigit byte) (position : Nat) :
    ∃ value, valueAt position byte = .ok value ∧ value < 16 ∧
      digit value = (charOf byte).toLower := by
  cases read : value? byte with
  | none => exact absurd isDigit ((value?_eq_none_iff byte).mp read)
  | some value => exact ⟨value, by rw [valueAt, read], digit_of_value? byte value read⟩

theorem valueAt_of_not_isDigit {byte : UInt8} (other : ¬ IsDigit byte) (position : Nat) :
    valueAt position byte = .error ⟨byte, position⟩ := by
  rw [valueAt, (value?_eq_none_iff byte).mpr other]

theorem valueAt_digit {value : UInt8} (small : value < 16) (position : Nat) :
    valueAt position (digit value).val.toUInt8 = .ok value := by
  rw [valueAt, (value?_digit value small).2]

theorem decodeFrom_cons_cons {position : Nat} {high low highValue lowValue : UInt8}
    (readHigh : valueAt position high = .ok highValue)
    (readLow : valueAt (position + 1) low = .ok lowValue) (rest : List UInt8) :
    decodeFrom position (high :: low :: rest) =
      (decodeFrom (position + 2) rest).map ((16 * highValue + lowValue) :: ·) := by
  rw [decodeFrom, readHigh, readLow]
  cases decodeFrom (position + 2) rest <;> rfl

/-- Digits are read as the bytes whose text they are, up to case. -/
theorem decodeFrom_of_isDigit (position : Nat) {digits : List UInt8}
    (even : digits.length % 2 = 0) (good : ∀ byte ∈ digits, IsDigit byte) :
    ∃ bytes, decodeFrom position digits = .ok bytes ∧
      encode bytes = digits.map fun byte => (charOf byte).toLower := by
  match digits with
  | [] => exact ⟨[], rfl, rfl⟩
  | [_] => cases even
  | high :: low :: rest =>
      obtain ⟨goodHigh, goodLow, goodRest⟩ :
          IsDigit high ∧ IsDigit low ∧ ∀ byte ∈ rest, IsDigit byte := by
        simpa using good
      obtain ⟨highValue, readHigh, smallHigh, writtenHigh⟩ :=
        valueAt_of_isDigit goodHigh position
      obtain ⟨lowValue, readLow, smallLow, writtenLow⟩ :=
        valueAt_of_isDigit goodLow (position + 1)
      have evenRest : rest.length % 2 = 0 := by
        simp only [List.length_cons] at even
        omega
      obtain ⟨bytes, read, written⟩ := decodeFrom_of_isDigit (position + 2) evenRest goodRest
      obtain ⟨quotient, remainder⟩ := halves_of_digits smallHigh smallLow
      refine ⟨(16 * highValue + lowValue) :: bytes, ?_, ?_⟩
      · rw [decodeFrom_cons_cons readHigh readLow, read]
        rfl
      · simp only [encode, List.flatMap_cons, quotient, remainder, writtenHigh, writtenLow,
          List.map_cons] at written ⊢
        rw [written]
        rfl

/-- The first byte that is no digit is named, wherever it stands. -/
theorem decodeFrom_of_not_isDigit (position : Nat) {before after : List UInt8} {bad : UInt8}
    (even : (before ++ bad :: after).length % 2 = 0) (good : ∀ byte ∈ before, IsDigit byte)
    (other : ¬ IsDigit bad) :
    decodeFrom position (before ++ bad :: after) = .error ⟨bad, position + before.length⟩ := by
  match before, after with
  | [], [] => cases even
  | [], low :: after =>
      rw [List.nil_append, decodeFrom, valueAt_of_not_isDigit other]
      rfl
  | [high], after =>
      obtain ⟨highValue, readHigh, -⟩ :=
        valueAt_of_isDigit (good high List.mem_cons_self) position
      rw [List.singleton_append, decodeFrom, readHigh, valueAt_of_not_isDigit other]
      rfl
  | high :: low :: before, after =>
      obtain ⟨goodHigh, goodLow, goodRest⟩ :
          IsDigit high ∧ IsDigit low ∧ ∀ byte ∈ before, IsDigit byte := by
        simpa using good
      obtain ⟨highValue, readHigh, -⟩ := valueAt_of_isDigit goodHigh position
      obtain ⟨lowValue, readLow, -⟩ := valueAt_of_isDigit goodLow (position + 1)
      have evenRest : (before ++ bad :: after).length % 2 = 0 := by
        simp only [List.length_cons, List.cons_append] at even
        omega
      rw [List.cons_append, List.cons_append, decodeFrom_cons_cons readHigh readLow,
        decodeFrom_of_not_isDigit (position + 2) evenRest goodRest other]
      simp only [Except.map, List.length_cons]
      congr 2
      omega

theorem ascii_of_mem_encode {bytes : List UInt8} {character : Char}
    (member : character ∈ encode bytes) : character.val ≤ 127 := by
  obtain ⟨byte, -, inside⟩ := List.mem_flatMap.mp member
  obtain ⟨smallHigh, smallLow, -⟩ := halves_of_byte byte
  simp only [List.mem_cons, List.not_mem_nil, or_false] at inside
  rcases inside with rfl | rfl
  · exact (value?_digit _ smallHigh).1
  · exact (value?_digit _ smallLow).1

/-- What is written is read back. -/
theorem decodeFrom_encode (position : Nat) (bytes : List UInt8) :
    decodeFrom position ((encode bytes).map fun character => character.val.toUInt8) =
      .ok bytes := by
  induction bytes generalizing position with
  | nil => rfl
  | cons byte rest ih =>
      obtain ⟨smallHigh, smallLow, joined⟩ := halves_of_byte byte
      have next := ih (position + 2)
      rw [encode, List.flatMap_cons, ← encode, List.map_append]
      simp only [List.map_cons, List.map_nil, List.cons_append, List.nil_append]
      rw [decodeFrom_cons_cons (valueAt_digit smallHigh position)
        (valueAt_digit smallLow (position + 1)), next, joined]
      rfl

theorem length_encode (bytes : List UInt8) : (encode bytes).length = 2 * bytes.length := by
  induction bytes with
  | nil => rfl
  | cons byte rest ih =>
      rw [encode, List.flatMap_cons, ← encode, List.length_append, ih, List.length_cons]
      simp only [List.length_cons, List.length_nil]
      omega

end Hex

namespace Digest

/-- A text of 64 bytes, each a hexadecimal digit. -/
def Spelled (text : String) : Prop :=
  (Text.utf8 text).length = 64 ∧ ∀ byte ∈ Text.utf8 text, Hex.IsDigit byte

/-- A text of digits has a character for each of its bytes. -/
theorem eq_ofList_of_isDigit {text : String}
    (good : ∀ byte ∈ Text.utf8 text, Hex.IsDigit byte) :
    text = String.ofList ((Text.utf8 text).map Hex.charOf) := by
  apply Text.utf8_inj.mp
  rw [Text.utf8_ofList_ascii, List.map_map]
  · have kept := List.map_congr_left fun byte member =>
      (Hex.ascii_of_isDigit byte (good byte member)).2
    exact (kept.trans (List.map_id' _)).symm
  · intro character member
    obtain ⟨byte, inside, rfl⟩ := List.mem_map.mp member
    exact (Hex.ascii_of_isDigit byte (good byte inside)).1

theorem toLower_of_isDigit {text : String} (good : ∀ byte ∈ Text.utf8 text, Hex.IsDigit byte) :
    text.toLower =
      String.ofList ((Text.utf8 text).map fun byte => (Hex.charOf byte).toLower) := by
  have characters := congrArg String.toList (eq_ofList_of_isDigit good)
  rw [String.toList_ofList] at characters
  have lowered : text.toLower.toList = text.toList.map Char.toLower := String.toList_map
  apply String.toList_inj.mp
  rw [lowered, characters, List.map_map, String.toList_ofList]
  rfl

theorem utf8_toHex (digest : Digest) :
    Text.utf8 digest.toHex =
      (Hex.encode digest.bytes).map fun character => character.val.toUInt8 :=
  Text.utf8_ofList_ascii fun _ member => Hex.ascii_of_mem_encode member

theorem ofHex_of_length_ne {text : String} (other : (Text.utf8 text).length ≠ 64) :
    ofHex text = .error (.wrongLength (Text.utf8 text).length) := by
  rw [ofHex, dif_neg other]

theorem ofHex_of_decode_eq_ok {text : String} {bytes : List UInt8}
    (long : (Text.utf8 text).length = 64) (decoded : Hex.decode (Text.utf8 text) = .ok bytes) :
    ∃ digest, ofHex text = .ok digest ∧ digest.bytes = bytes := by
  rw [ofHex, dif_pos long]
  split
  · rename_i found same
    rw [decoded] at same
    cases same
    exact ⟨_, rfl, rfl⟩
  · rename_i digit same
    rw [decoded] at same
    cases same

theorem ofHex_of_decode_eq_error {text : String} {digit : Hex.BadDigit}
    (long : (Text.utf8 text).length = 64)
    (decoded : Hex.decode (Text.utf8 text) = .error digit) :
    ofHex text = .error (.badDigit text digit) := by
  rw [ofHex, dif_pos long]
  split
  · rename_i found same
    rw [decoded] at same
    cases same
  · rename_i other same
    rw [decoded] at same
    cases same
    rfl

theorem exists_ofHex_of_spelled {text : String} (spelled : Spelled text) :
    ∃ digest, ofHex text = .ok digest ∧ digest.toHex = text.toLower := by
  obtain ⟨long, good⟩ := spelled
  obtain ⟨bytes, read, written⟩ := Hex.decodeFrom_of_isDigit 0 (by rw [long]) good
  obtain ⟨digest, found, rfl⟩ := ofHex_of_decode_eq_ok long read
  exact ⟨digest, found, by rw [toHex, written, toLower_of_isDigit good]⟩

theorem ofHex_of_not_isDigit {text : String} {before after : List UInt8} {bad : UInt8}
    (long : (Text.utf8 text).length = 64) (parts : Text.utf8 text = before ++ bad :: after)
    (good : ∀ byte ∈ before, Hex.IsDigit byte) (other : ¬ Hex.IsDigit bad) :
    ofHex text = .error (.badDigit text ⟨bad, before.length⟩) := by
  apply ofHex_of_decode_eq_error long
  have even : (before ++ bad :: after).length % 2 = 0 := by rw [← parts, long]
  rw [parts, Hex.decode, Hex.decodeFrom_of_not_isDigit 0 even good other, Nat.zero_add]

theorem ofHex_toHex (digest : Digest) : ofHex digest.toHex = .ok digest := by
  have long : (Text.utf8 digest.toHex).length = 64 := by
    rw [utf8_toHex, List.length_map, Hex.length_encode, digest.length_bytes]
  have decoded : Hex.decode (Text.utf8 digest.toHex) = .ok digest.bytes := by
    rw [utf8_toHex]
    exact Hex.decodeFrom_encode 0 digest.bytes
  obtain ⟨found, read, same⟩ := ofHex_of_decode_eq_ok long decoded
  rw [read, Digest.ext same]

theorem toHex_inj {left right : Digest} : left.toHex = right.toHex ↔ left = right := by
  constructor
  · intro same
    have read := ofHex_toHex left
    rw [same, ofHex_toHex] at read
    exact (Except.ok.inj read).symm
  · exact congrArg toHex

/-- What comes of reading a text: a digest, or a fault of its length, or of its
first byte that is no digit. -/
theorem ofHex_cases (text : String) :
    (Spelled text ∧ ∃ digest, ofHex text = .ok digest ∧ digest.toHex = text.toLower) ∨
    ((Text.utf8 text).length ≠ 64 ∧
      ofHex text = .error (.wrongLength (Text.utf8 text).length)) ∨
    ((Text.utf8 text).length = 64 ∧ ∃ before bad after,
      Text.utf8 text = before ++ bad :: after ∧ (∀ byte ∈ before, Hex.IsDigit byte) ∧
        ¬ Hex.IsDigit bad ∧ ofHex text = .error (.badDigit text ⟨bad, before.length⟩)) := by
  by_cases long : (Text.utf8 text).length = 64
  · rcases Hex.forall_isDigit_or_first (Text.utf8 text) with
      good | ⟨before, bad, after, parts, good, other⟩
    · exact .inl ⟨⟨long, good⟩, exists_ofHex_of_spelled ⟨long, good⟩⟩
    · exact .inr (.inr ⟨long, before, bad, after, parts, good, other,
        ofHex_of_not_isDigit long parts good other⟩)
  · exact .inr (.inl ⟨long, ofHex_of_length_ne long⟩)

theorem spelled_of_ofHex_eq_ok {text : String} {digest : Digest}
    (read : ofHex text = .ok digest) : Spelled text ∧ digest.toHex = text.toLower := by
  rcases ofHex_cases text with
    ⟨spelled, found, same, written⟩ | ⟨-, failed⟩ | ⟨-, _, _, _, -, -, -, failed⟩
  · rw [read] at same
    cases same
    exact ⟨spelled, written⟩
  · rw [read] at failed
    cases failed
  · rw [read] at failed
    cases failed

theorem ofHex_eq_ok_iff {text : String} {digest : Digest} :
    ofHex text = .ok digest ↔ Spelled text ∧ digest.toHex = text.toLower := by
  constructor
  · exact spelled_of_ofHex_eq_ok
  · rintro ⟨spelled, written⟩
    obtain ⟨found, read, lower⟩ := exists_ofHex_of_spelled spelled
    rw [read, toHex_inj.mp (lower.trans written.symm)]

/-- Reading succeeds on the texts of 64 digits and gives the digest that is
written as the text in lower case; every digest is read from what it is written
as. Otherwise the length is at fault whenever it is not 64 bytes, and else the
first byte that is no digit, which is named with its position. -/
theorem ofHex_accepts_spelled (text : String) :
    ((∃ digest, ofHex text = .ok digest) ↔ Spelled text) ∧
    (∀ digest, ofHex text = .ok digest ↔ Spelled text ∧ digest.toHex = text.toLower) ∧
    (∀ digest, ofHex digest.toHex = .ok digest) ∧
    ∀ fault, ofHex text = .error fault ↔
      (Text.utf8 text).length ≠ 64 ∧ fault = .wrongLength (Text.utf8 text).length ∨
      (Text.utf8 text).length = 64 ∧ ∃ before bad after,
        Text.utf8 text = before ++ bad :: after ∧ (∀ byte ∈ before, Hex.IsDigit byte) ∧
          ¬ Hex.IsDigit bad ∧ fault = .badDigit text ⟨bad, before.length⟩ := by
  refine ⟨⟨?_, ?_⟩, fun digest => ofHex_eq_ok_iff, ofHex_toHex, fun fault => ⟨?_, ?_⟩⟩
  · rintro ⟨digest, read⟩
    exact (spelled_of_ofHex_eq_ok read).1
  · intro spelled
    obtain ⟨digest, read, -⟩ := exists_ofHex_of_spelled spelled
    exact ⟨digest, read⟩
  · intro failed
    rcases ofHex_cases text with
      ⟨-, digest, read, -⟩ | ⟨short, found⟩ |
      ⟨long, before, bad, after, parts, good, other, found⟩
    · rw [failed] at read
      cases read
    · rw [failed] at found
      exact .inl ⟨short, Except.error.inj found⟩
    · rw [failed] at found
      exact .inr ⟨long, before, bad, after, parts, good, other, Except.error.inj found⟩
  · rintro (⟨short, rfl⟩ | ⟨long, before, bad, after, parts, good, other, rfl⟩)
    · exact ofHex_of_length_ne short
    · exact ofHex_of_not_isDigit long parts good other

end Digest

end Drift
