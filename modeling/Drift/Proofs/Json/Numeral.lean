import Drift.Json.Numeral
import Drift.Proofs.Text.Digits

/-!
# Numerals read back

A numeral that is spelled as documents spell numbers is split off as it was written,
as long as nothing comes behind that a numeral could go on with. The numeral of a
natural number of 64 bits is one of them, and its value is that number.
-/

namespace Drift.Json

namespace Numeral

/-- A numeral as documents spell it: with digits before the point, with no zero in
front of others, and with digits behind a point or an exponent's mark. -/
structure Spelled (numeral : Numeral) : Prop where
  whole : Text.Decimal numeral.whole
  whole_ne_nil : numeral.whole ≠ []
  leading : numeral.whole.head? = some '0' → numeral.whole = ['0']
  fraction : ∀ digits ∈ numeral.fraction?, Text.Decimal digits ∧ digits ≠ []
  exponent : ∀ marked ∈ numeral.exponent?, Text.Decimal marked.2 ∧ marked.2 ≠ []

/-- No numeral goes on with some characters. -/
def EndsBefore (rest : List Char) : Prop :=
  ∀ next ∈ rest.head?, next.isDigit = false ∧ next ≠ '.' ∧ next ≠ 'e' ∧ next ≠ 'E'

theorem endsBefore_cons {next : Char}
    (other : next.isDigit = false ∧ next ≠ '.' ∧ next ≠ 'e' ∧ next ≠ 'E') (rest : List Char) :
    EndsBefore (next :: rest) := by
  rintro _ ⟨⟩
  exact other

theorem spelled_ofNat (value : Nat) : (ofNat value).Spelled where
  whole := Text.decimal_toDigits value
  whole_ne_nil := Nat.toDigits_ne_nil
  leading := Text.toDigits_eq_of_head?_eq_zero
  fraction := by rintro _ ⟨⟩
  exponent := by rintro _ ⟨⟩

theorem amount?_ofNat {value : Nat} (small : value < UInt64.size) :
    (ofNat value).amount? = some (.integer value) := by
  simp [amount?, ofNat, small]

/-- A point and digits, where there are any. -/
def fractionChars : Option (List Char) → List Char
  | some digits => '.' :: digits
  | none => []

/-- An exponent's mark, its sign and its digits, where there are any. -/
def exponentChars : Option (Bool × List Char) → List Char
  | some (negative, digits) => 'e' :: if negative then '-' :: digits else digits
  | none => []

theorem render_eq (numeral : Numeral) :
    numeral.render = (if numeral.negative then ['-'] else []) ++ numeral.whole ++
      fractionChars numeral.fraction? ++ exponentChars numeral.exponent? :=
  rfl

/-- A numeral begins with its sign or a digit. -/
theorem exists_render_eq_cons {numeral : Numeral} (spelled : numeral.Spelled) :
    ∃ first others, numeral.render = first :: others ∧
      (first.isDigit = true ∨ first = '-') := by
  obtain ⟨first, others, digits⟩ := List.exists_cons_of_ne_nil spelled.whole_ne_nil
  have isDigit := spelled.whole first (by simp [digits])
  rw [render_eq, digits]
  cases numeral.negative with
  | true => exact ⟨'-', _, rfl, .inr rfl⟩
  | false => exact ⟨first, _, rfl, .inl isDigit⟩

end Numeral

open Numeral

theorem scanFraction_fractionChars {fraction? : Option (List Char)} {rest : List Char}
    (spelled : ∀ digits ∈ fraction?, Text.Decimal digits ∧ digits ≠ [])
    (ends : ∀ next ∈ rest.head?, next.isDigit = false ∧ next ≠ '.') :
    scanFraction (fractionChars fraction? ++ rest) = some (fraction?, rest) := by
  cases fraction? with
  | none =>
      rw [fractionChars, List.nil_append]
      cases rest with
      | nil => rfl
      | cons next others =>
          rw [scanFraction]
          rintro digits ⟨⟩
          exact (ends '.' rfl).2 rfl
  | some digits =>
      obtain ⟨decimal, nonempty⟩ := spelled digits rfl
      have stops : Text.StopsDigits rest := fun next first => (ends next first).1
      obtain ⟨first, others, rfl⟩ := List.exists_cons_of_ne_nil nonempty
      rw [fractionChars, List.cons_append, scanFraction, Text.splitDigits_append decimal stops]

theorem scanExponentSign_digits {digits rest : List Char} (decimal : Text.Decimal digits)
    (nonempty : digits ≠ []) (negative : Bool) :
    scanExponentSign ((if negative then '-' :: digits else digits) ++ rest) =
      (negative, digits ++ rest) := by
  cases negative with
  | true => rfl
  | false =>
      obtain ⟨first, others, rfl⟩ := List.exists_cons_of_ne_nil nonempty
      have isDigit := decimal first List.mem_cons_self
      rw [if_neg Bool.false_ne_true, List.cons_append, scanExponentSign]
      · rintro _ ⟨⟩
        exact absurd isDigit (by decide)
      · rintro _ ⟨⟩
        exact absurd isDigit (by decide)

theorem scanExponent_exponentChars {exponent? : Option (Bool × List Char)} {rest : List Char}
    (spelled : ∀ marked ∈ exponent?, Text.Decimal marked.2 ∧ marked.2 ≠ [])
    (ends : EndsBefore rest) :
    scanExponent (exponentChars exponent? ++ rest) = some (exponent?, rest) := by
  cases exponent? with
  | none =>
      rw [exponentChars, List.nil_append]
      cases rest with
      | nil => rfl
      | cons next others =>
          obtain ⟨-, -, lower, upper⟩ := ends next rfl
          rw [scanExponent]
          · rintro _ ⟨⟩
            exact lower rfl
          · rintro _ ⟨⟩
            exact upper rfl
  | some marked =>
      obtain ⟨negative, digits⟩ := marked
      obtain ⟨decimal, nonempty⟩ := spelled _ rfl
      have stops : Text.StopsDigits rest := fun next first => (ends next first).1
      rw [exponentChars, List.cons_append, scanExponent]
      dsimp only at decimal nonempty ⊢
      rw [scanExponentSign_digits decimal nonempty]
      dsimp only
      rw [Text.splitDigits_append decimal stops]
      obtain ⟨first, others, rfl⟩ := List.exists_cons_of_ne_nil nonempty
      rfl

/-- Behind the digits before the point comes neither a digit nor, without a
fraction, a point. -/
theorem head?_exponentChars_append {exponent? : Option (Bool × List Char)} {rest : List Char}
    (ends : EndsBefore rest) :
    ∀ next ∈ (exponentChars exponent? ++ rest).head?, next.isDigit = false ∧ next ≠ '.' := by
  cases exponent? with
  | none => exact fun next first => ⟨(ends next first).1, (ends next first).2.1⟩
  | some marked =>
      rintro next ⟨⟩
      decide

theorem stopsDigits_fractionChars_append {fraction? : Option (List Char)} {rest : List Char}
    (ends : ∀ next ∈ rest.head?, next.isDigit = false ∧ next ≠ '.') :
    Text.StopsDigits (fractionChars fraction? ++ rest) := by
  cases fraction? with
  | none => exact fun next first => (ends next first).1
  | some digits =>
      rintro next ⟨⟩
      decide

theorem scanUnsigned_render {numeral : Numeral} (spelled : numeral.Spelled) {rest : List Char}
    (ends : EndsBefore rest) :
    scanUnsigned numeral.negative (numeral.whole ++
        (fractionChars numeral.fraction? ++ (exponentChars numeral.exponent? ++ rest))) =
      some (numeral, rest) := by
  have behind : ∀ next ∈ (exponentChars numeral.exponent? ++ rest).head?,
      next.isDigit = false ∧ next ≠ '.' := head?_exponentChars_append ends
  have admitted : (guard (numeral.whole ≠ [] ∧
      (numeral.whole.head? = some '0' → numeral.whole = ['0'])) : Option Unit) = some () :=
    if_pos ⟨spelled.whole_ne_nil, spelled.leading⟩
  rw [scanUnsigned,
    Text.splitDigits_append spelled.whole (stopsDigits_fractionChars_append behind)]
  dsimp only
  rw [admitted, scanFraction_fractionChars spelled.fraction behind]
  simp only [scanExponent_exponentChars spelled.exponent ends, Option.bind_eq_bind,
    Option.pure_def, Option.bind_some]

/-- A numeral is split off as it was written. -/
theorem scanNumeral_render {numeral : Numeral} (spelled : numeral.Spelled) {rest : List Char}
    (ends : EndsBefore rest) : scanNumeral (numeral.render ++ rest) = some (numeral, rest) := by
  have unsigned := scanUnsigned_render spelled ends
  rw [render_eq]
  simp only [List.append_assoc]
  cases sign : numeral.negative with
  | true =>
      rw [sign] at unsigned
      exact unsigned
  | false =>
      rw [sign] at unsigned
      obtain ⟨first, others, digits⟩ := List.exists_cons_of_ne_nil spelled.whole_ne_nil
      have isDigit := spelled.whole first (by simp [digits])
      rw [if_neg Bool.false_ne_true, List.nil_append]
      rw [digits, List.cons_append] at unsigned ⊢
      rw [scanNumeral, unsigned]
      rintro _ ⟨⟩
      exact absurd isDigit (by decide)

/-! ## Progress -/

theorem length_of_scanFraction {chars rest : List Char} {fraction? : Option (List Char)}
    (scanned : scanFraction chars = some (fraction?, rest)) : rest.length ≤ chars.length := by
  unfold scanFraction at scanned
  split at scanned
  · split at scanned
    · cases scanned
    · rename_i digits others _ split
      cases scanned
      have lengths := Text.length_of_splitDigits split
      simp only [List.length_cons]
      omega
  · cases scanned
    exact Nat.le_refl _

theorem length_scanExponentSign (chars : List Char) :
    (scanExponentSign chars).2.length ≤ chars.length := by
  unfold scanExponentSign
  split
  · exact Nat.le_succ _
  · exact Nat.le_succ _
  · exact Nat.le_refl _

theorem length_of_scanExponent {chars rest : List Char} {exponent? : Option (Bool × List Char)}
    (scanned : scanExponent chars = some (exponent?, rest)) : rest.length ≤ chars.length := by
  unfold scanExponent at scanned
  split at scanned
  case h_1 | h_2 =>
    dsimp only at scanned
    split at scanned
    · cases scanned
    · rename_i others _ digits behind _ split
      cases scanned
      have lengths := Text.length_of_splitDigits split
      have signed := length_scanExponentSign others
      simp only [List.length_cons]
      omega
  case h_3 =>
    cases scanned
    exact Nat.le_refl _

theorem length_of_scanUnsigned {negative : Bool} {chars rest : List Char} {numeral : Numeral}
    (scanned : scanUnsigned negative chars = some (numeral, rest)) :
    rest.length < chars.length := by
  rw [scanUnsigned] at scanned
  obtain ⟨_, guarded, scanned⟩ := Option.bind_eq_some_iff.mp scanned
  obtain ⟨⟨fraction?, behindWhole⟩, fraction, scanned⟩ := Option.bind_eq_some_iff.mp scanned
  obtain ⟨⟨exponent?, behindFraction⟩, exponent, result⟩ := Option.bind_eq_some_iff.mp scanned
  cases result
  have lengths : (Text.splitDigits chars).1.length + (Text.splitDigits chars).2.length =
      chars.length := Text.length_of_splitDigits rfl
  have fractionLength : behindWhole.length ≤ (Text.splitDigits chars).2.length :=
    length_of_scanFraction fraction
  have exponentLength := length_of_scanExponent exponent
  have nonempty : (Text.splitDigits chars).1 ≠ [] := fun nothing =>
    absurd (guarded.symm.trans (if_neg fun admitted => admitted.1 nothing)) nofun
  have positive := List.length_pos_iff.mpr nonempty
  omega

/-- A numeral takes up at least a digit. -/
theorem length_of_scanNumeral {chars rest : List Char} {numeral : Numeral}
    (scanned : scanNumeral chars = some (numeral, rest)) : rest.length < chars.length := by
  unfold scanNumeral at scanned
  split at scanned
  · exact Nat.lt_succ_of_lt (length_of_scanUnsigned scanned)
  · exact length_of_scanUnsigned scanned

end Drift.Json
