import Drift.Text.Digits

/-!
# Digits read back

The decimal digits of a number write that number, the only one of them with a zero in
front is zero itself, and digits are split off up to what is none.
-/

namespace Drift.Text

/-- All characters are decimal digits. -/
def Decimal (digits : List Char) : Prop :=
  ∀ digit ∈ digits, digit.isDigit = true

/-- No decimal digit begins some characters. -/
def StopsDigits (rest : List Char) : Prop :=
  ∀ next ∈ rest.head?, next.isDigit = false

theorem ne_of_isDigit {digit other : Char} (isDigit : digit.isDigit = true)
    (noDigit : other.isDigit = false) : digit ≠ other := by
  intro same
  rw [same, noDigit] at isDigit
  cases isDigit

theorem decimal_toDigits (value : Nat) : Decimal (Nat.toDigits 10 value) :=
  fun _ member => Nat.isDigit_of_mem_toDigits (by decide) (by decide) member

theorem foldl_digitValue? {digits : List Char} (decimal : Decimal digits) (value : Nat) :
    digits.foldl (fun value digit => 10 * value + (digitValue? digit).getD 0) value =
      Nat.ofDigitChars 10 digits value := by
  induction digits generalizing value with
  | nil => rfl
  | cons digit rest ih =>
      obtain ⟨isDigit, others⟩ := List.forall_mem_cons.mp decimal
      rw [List.foldl_cons, ih others, Nat.ofDigitChars_cons, digitValue?, if_pos isDigit,
        Option.getD_some]

/-- A number is what its decimal digits write. -/
@[simp] theorem natural_toDigits (value : Nat) :
    natural 10 (Nat.toDigits 10 value) = value := by
  rw [natural, foldl_digitValue? (decimal_toDigits value), Nat.ofDigitChars_ten_toDigits]

/-- Only zero is written with a zero in front. -/
theorem toDigits_eq_of_head?_eq_zero {value : Nat}
    (leading : (Nat.toDigits 10 value).head? = some '0') : Nat.toDigits 10 value = ['0'] := by
  induction value using Nat.strongRecOn with
  | ind value ih =>
      rw [Nat.toDigits_eq_if (by decide)] at leading ⊢
      split at leading
      · rename_i small
        rw [if_pos small]
        simpa using leading
      · rename_i large
        obtain ⟨first, others, digits⟩ :=
          List.exists_cons_of_ne_nil (Nat.toDigits_ne_nil (n := value / 10) (b := 10))
        rw [digits] at leading
        -- The quotient would be written as zero, which it is not.
        have quotient := congrArg (natural 10)
          (ih (value / 10) (by omega) (by rw [digits]; exact leading))
        rw [natural_toDigits] at quotient
        have zero : value / 10 = 0 := quotient
        omega

theorem splitDigits_append {digits rest : List Char} (decimal : Decimal digits)
    (stops : StopsDigits rest) : splitDigits (digits ++ rest) = (digits, rest) := by
  have nothing : rest.takeWhile Char.isDigit = [] ∧ rest.dropWhile Char.isDigit = rest := by
    cases rest with
    | nil => exact ⟨rfl, rfl⟩
    | cons next others =>
        have other : ¬ next.isDigit = true := by simp [stops next rfl]
        exact ⟨List.takeWhile_cons_of_neg other, List.dropWhile_cons_of_neg other⟩
  rw [splitDigits, List.takeWhile_append_of_pos decimal, List.dropWhile_append_of_pos decimal,
    nothing.1, nothing.2, List.append_nil]

theorem length_of_splitDigits {chars digits rest : List Char}
    (scanned : splitDigits chars = (digits, rest)) :
    digits.length + rest.length = chars.length := by
  obtain ⟨rfl, rfl⟩ := Prod.mk.inj scanned
  rw [← List.length_append, List.takeWhile_append_dropWhile]

/-- A number below thirty-two is what its two hexadecimal digits behind two zeros
write. -/
theorem hexNumber?_of_lt : ∀ value < 32,
    hexNumber? ['0', '0', (value / 16).digitChar, (value % 16).digitChar] = some value := by
  decide

end Drift.Text
