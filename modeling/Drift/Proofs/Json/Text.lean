import Drift.Json.Text
import Drift.Proofs.Text.Digits

/-!
# Strings read back

Each character of a text is written in a way that is read as that character, whether
it stands for itself or is escaped. So a text between quotes is read back, whatever
comes behind.
-/

namespace Drift.Json

/-- A control character is escaped by its number. -/
theorem scanPieces_unicodeEscape {character : Char} (control : character.toNat < 0x20)
    (seen : List Piece) (rest : List Char) :
    scanPieces seen ('\\' :: 'u' :: '0' :: '0' :: hexDigit (character.toNat / 16) ::
        hexDigit (character.toNat % 16) :: rest) =
      scanPieces (.character character :: seen) rest := by
  have unit : ¬ (0xD800 ≤ character.toNat ∧ character.toNat ≤ 0xDFFF) := by omega
  rw [scanPieces, hexDigit, hexDigit, Text.hexNumber?_of_lt character.toNat control]
  simp only [Piece.ofUnit, if_neg unit, Char.ofNat_toNat]

/-- What a character is written as is read as that character. -/
theorem scanPieces_escape (seen : List Piece) (character : Char) (rest : List Char) :
    scanPieces seen (escape character ++ rest) =
      scanPieces (.character character :: seen) rest := by
  unfold escape
  split
  case h_8 quote backslash _ _ _ _ _ =>
    by_cases control : character.toNat < 0x20
    · rw [if_pos control]
      exact scanPieces_unicodeEscape control seen rest
    · rw [if_neg control]
      have plain : ¬ (character = '\\' ∨ character.toNat < 0x20) :=
        not_or.mpr ⟨backslash, control⟩
      rw [List.singleton_append, scanPieces, if_neg plain]
      · exact quote
      · exact fun _ _ _ _ _ same _ => backslash same
      · exact fun _ _ same _ => backslash same
  all_goals rfl

theorem scanPieces_flatMap_escape (seen : List Piece) (characters rest : List Char) :
    scanPieces seen (characters.flatMap escape ++ '"' :: rest) =
      some (seen.reverse ++ characters.map Piece.character, rest) := by
  induction characters generalizing seen with
  | nil => simp [scanPieces]
  | cons character others ih =>
      rw [List.flatMap_cons, List.append_assoc, scanPieces_escape, ih]
      simp

theorem joinPieces_map_character (seen characters : List Char) :
    joinPieces seen (characters.map Piece.character) = some (seen.reverse ++ characters) := by
  induction characters generalizing seen with
  | nil => simp [joinPieces]
  | cons character others ih =>
      rw [List.map_cons, joinPieces, ih]
      simp

/-- A string takes up at least its closing quote. -/
theorem length_of_scanPieces {seen pieces : List Piece} {chars rest : List Char}
    (scanned : scanPieces seen chars = some (pieces, rest)) : rest.length < chars.length := by
  fun_induction scanPieces seen chars with
  | case1 => cases scanned
  | case2 =>
      cases scanned
      exact Nat.lt_succ_self _
  | case3 seen first second third fourth others unit _ ih =>
      have shorter := ih scanned
      simp only [List.length_cons]
      omega
  | case4 => cases scanned
  | case5 seen escaped others _ character _ ih =>
      have shorter := ih scanned
      simp only [List.length_cons]
      omega
  | case6 => cases scanned
  | case7 => cases scanned
  | case8 seen character others _ _ _ _ ih => exact Nat.lt_succ_of_lt (ih scanned)

end Drift.Json
