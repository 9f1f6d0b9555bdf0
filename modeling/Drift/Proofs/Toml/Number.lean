import Drift.Proofs.Text.Digits
import Drift.Toml.Value

/-!
# Integers read back

The decimal digits of a natural number below two to the power of 63, with the end
of the line behind them, are read as that integer. Moments and doubles are looked
for first. They are not found, because digits and the end of a line hold none of
the characters that would have to follow the first digits.
-/

namespace Drift.Toml

theorem isDigitIn_ten {digit : Char} (isDigit : digit.isDigit = true) :
    Text.isDigitIn 10 digit = true := by
  have bounds := isDigit
  simp only [Char.isDigit, Bool.and_eq_true, decide_eq_true_eq, ge_iff_le,
    UInt32.le_iff_toNat_le] at bounds
  have small : digit.toNat - '0'.toNat < 10 :=
    Nat.lt_succ_of_le (Nat.sub_le_sub_right bounds.2 48)
  rw [Text.isDigitIn, Text.digitValue?, if_pos isDigit]
  exact decide_eq_true small

theorem scanNextDigit_cons {digit : Char} (isDigit : digit.isDigit = true) (rest : List Char) :
    scanNextDigit 10 (digit :: rest) = some (digit, rest) := by
  rw [scanNextDigit, if_pos (isDigitIn_ten isDigit)]
  exact fun _ _ underscore _ => Text.ne_of_isDigit isDigit (by decide) underscore

section Line

variable {digits : List Char} (decimal : Text.Decimal digits) (rest : List Char)

include decimal

theorem scanDigits_append (nonempty : digits ≠ []) :
    scanDigits 10 (digits ++ '\n' :: rest) = some (digits, '\n' :: rest) := by
  obtain ⟨first, others, rfl⟩ := List.exists_cons_of_ne_nil nonempty
  obtain ⟨isDigit, decimalOthers⟩ := List.forall_mem_cons.mp decimal
  have stops : scanNextDigit 10 ('\n' :: rest) = none := rfl
  have run := Text.many_of_characters
    (fun digit member => scanNextDigit_cons (decimalOthers digit member)) stops
  rw [List.cons_append, scanDigits, if_pos (isDigitIn_ten isDigit), run]

/-- Digits up to the end of a line begin with a digit or the end of the line. -/
theorem expect_of_decimal (expected : Char) (noDigit : expected.isDigit = false)
    (noEnd : expected ≠ '\n') : expect expected (digits ++ '\n' :: rest) = none := by
  cases digits with
  | nil => exact if_neg (Ne.symm noEnd)
  | cons digit others =>
      exact if_neg (Text.ne_of_isDigit (decimal digit List.mem_cons_self) noDigit)

/-- Where a fixed number of digits is found before the end of a line, only digits
are left before it. -/
theorem scanFixed_of_decimal {count value : Nat} {behind : List Char}
    (scanned : scanFixed count (digits ++ '\n' :: rest) = some (value, behind)) :
    ∃ others, Text.Decimal others ∧ behind = others ++ '\n' :: rest := by
  rw [scanFixed] at scanned
  obtain ⟨_, admitted, result⟩ := Option.bind_eq_some_iff.mp scanned
  cases result
  have conditions : ((digits ++ '\n' :: rest).take count).length = count ∧
      ((digits ++ '\n' :: rest).take count).all Char.isDigit = true :=
    Decidable.byContradiction fun refused =>
      absurd (admitted.symm.trans (if_neg refused)) nofun
  have inside : count ≤ digits.length := by
    apply Nat.le_of_not_lt
    intro beyond
    obtain ⟨further, distance⟩ := Nat.exists_eq_add_of_lt beyond
    have newline : '\n' ∈ (digits ++ '\n' :: rest).take count := by
      rw [List.take_append, distance, Nat.add_assoc, Nat.add_sub_cancel_left]
      exact List.mem_append_right _ List.mem_cons_self
    exact absurd (List.all_eq_true.mp conditions.2 '\n' newline) (by decide)
  refine ⟨digits.drop count, ?_, List.drop_append_of_le_length inside⟩
  exact fun digit member => decimal digit (List.mem_of_mem_drop member)

/-- Behind a fixed number of digits nothing divides the parts of a moment. -/
theorem expect_behind_scanFixed {count value : Nat} {behind : List Char} (expected : Char)
    (noDigit : expected.isDigit = false) (noEnd : expected ≠ '\n')
    (scanned : scanFixed count (digits ++ '\n' :: rest) = some (value, behind)) :
    expect expected behind = none := by
  obtain ⟨others, decimalOthers, rfl⟩ := scanFixed_of_decimal decimal rest scanned
  exact expect_of_decimal decimalOthers rest expected noDigit noEnd

theorem scanDate_of_decimal : scanDate (digits ++ '\n' :: rest) = none := by
  rw [scanDate]
  cases scanned : scanFixed 4 (digits ++ '\n' :: rest) with
  | none => rfl
  | some found =>
      have undivided := expect_behind_scanFixed decimal rest '-' (by decide) (by decide)
        scanned
      rw [Option.bind_eq_bind, Option.bind_some]
      dsimp only
      rw [undivided]
      rfl

theorem scanClock_of_decimal : scanClock (digits ++ '\n' :: rest) = none := by
  rw [scanClock]
  cases scanned : scanFixed 2 (digits ++ '\n' :: rest) with
  | none => rfl
  | some found =>
      have undivided := expect_behind_scanFixed decimal rest ':' (by decide) (by decide)
        scanned
      rw [Option.bind_eq_bind, Option.bind_some]
      dsimp only
      rw [undivided]
      exact Option.bind_fun_none _

theorem scanMoment_of_decimal : scanMoment (digits ++ '\n' :: rest) = none := by
  rw [scanMoment, scanDate_of_decimal decimal, scanTime, scanClock_of_decimal decimal]
  rfl

variable (nonempty : digits ≠ [])

include nonempty

theorem scanSign_of_decimal :
    scanSign (digits ++ '\n' :: rest) = (false, digits ++ '\n' :: rest) := by
  obtain ⟨first, others, rfl⟩ := List.exists_cons_of_ne_nil nonempty
  have isDigit := decimal first List.mem_cons_self
  rw [List.cons_append, scanSign]
  · exact fun _ same => Text.ne_of_isDigit isDigit (by decide) (List.cons.inj same).1
  · exact fun _ same => Text.ne_of_isDigit isDigit (by decide) (List.cons.inj same).1

theorem expectWord_of_decimal (word : String) (first : Char) {letters : List Char}
    (spelled : word.toList = first :: letters) (noDigit : first.isDigit = false) :
    expectWord word (digits ++ '\n' :: rest) = none := by
  obtain ⟨digit, others, rfl⟩ := List.exists_cons_of_ne_nil nonempty
  have different : (first == digit) = false :=
    beq_eq_false_iff_ne.mpr
      (Text.ne_of_isDigit (decimal digit List.mem_cons_self) noDigit).symm
  rw [expectWord, spelled, List.cons_append, List.isPrefixOf, different, Bool.false_and,
    if_neg Bool.false_ne_true]

theorem scanSpecial_of_decimal : scanSpecial (digits ++ '\n' :: rest) = none := by
  rw [scanSpecial, scanSign_of_decimal decimal rest nonempty]
  simp only [expectWord_of_decimal decimal rest nonempty "inf" 'i' rfl (by decide),
    expectWord_of_decimal decimal rest nonempty "nan" 'n' rfl (by decide)]

end Line

section Natural

variable (value : Nat) (rest : List Char)

/-- Only zero begins with the digit zero, so a number is scanned to its end. -/
theorem scanWhole_toDigits :
    scanWhole (Nat.toDigits 10 value ++ '\n' :: rest) =
      some (Nat.toDigits 10 value, '\n' :: rest) := by
  have nonempty : Nat.toDigits 10 value ≠ [] := Nat.toDigits_ne_nil
  have scanned := scanDigits_append (Text.decimal_toDigits value) rest nonempty
  by_cases leading : (Nat.toDigits 10 value).head? = some '0'
  · rw [Text.toDigits_eq_of_head?_eq_zero leading]
    rfl
  · obtain ⟨first, others, digits⟩ := List.exists_cons_of_ne_nil nonempty
    rw [digits] at leading scanned ⊢
    rw [List.cons_append] at scanned ⊢
    rw [scanWhole, scanned]
    exact fun _ same => leading (congrArg some (List.cons.inj same).1)

/-- Digits alone are no double: neither a fraction nor an exponent follows. -/
theorem scanDouble_toDigits : scanDouble (Nat.toDigits 10 value ++ '\n' :: rest) = none := by
  have decimal := Text.decimal_toDigits value
  have nonempty : Nat.toDigits 10 value ≠ [] := Nat.toDigits_ne_nil
  rw [scanDouble, scanSpecial_of_decimal decimal rest nonempty, scanDecimal,
    scanSign_of_decimal decimal rest nonempty]
  dsimp only
  rw [scanWhole_toDigits]
  rfl

/-- The first digit is not followed by the mark of another base. -/
theorem scanInteger_toDigits (fits : value < Nat.pow 2 63) :
    scanInteger (Nat.toDigits 10 value ++ '\n' :: rest) =
      some ((value : Int), '\n' :: rest) := by
  have decimal := Text.decimal_toDigits value
  have nonempty : Nat.toDigits 10 value ≠ [] := Nat.toDigits_ne_nil
  have second {mark : Char} {others : List Char} (noDigit : mark.isDigit = false)
      (noEnd : mark ≠ '\n') :
      Nat.toDigits 10 value ++ '\n' :: rest ≠ '0' :: mark :: others := by
    obtain ⟨first, digits, parts⟩ := List.exists_cons_of_ne_nil nonempty
    rw [parts] at decimal ⊢
    intro same
    have behind := (List.cons.inj same).2
    cases digits with
    | nil => exact noEnd (List.cons.inj behind).1.symm
    | cons digit digits =>
        have isDigit := decimal digit (List.mem_cons_of_mem _ List.mem_cons_self)
        exact Text.ne_of_isDigit isDigit noDigit (List.cons.inj behind).1
  rw [scanInteger, scanSign_of_decimal decimal rest nonempty]
  · simp only [scanWhole_toDigits, Option.bind_eq_bind, Option.bind_some, Text.natural_toDigits,
      integer?, Bool.false_eq_true, if_false, if_pos fits, Option.pure_def]
  · exact fun _ same => second (by decide) (by decide) same
  · exact fun _ same => second (by decide) (by decide) same
  · exact fun _ same => second (by decide) (by decide) same

end Natural

end Drift.Toml
