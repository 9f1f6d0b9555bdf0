import Drift.Json.Printer
import Drift.Proofs.Json.Numeral
import Drift.Proofs.Json.Text

/-!
# Tokens read back

A scalar is split off as the token it was written as. Every token takes up some of the
text, so a text is split into tokens up to where none begins.
-/

namespace Drift.Json

/-- A scalar that has a text: numbers are spelled as documents spell them, and every
surrogate is paired. -/
def Scalar.Spelled : Scalar → Prop
  | null | boolean _ | text _ => True
  | number numeral => numeral.Spelled
  | unpairedText => False

namespace Token

theorem scanHere_of_numeric {first : Char} (numeric : first.isDigit = true ∨ first = '-')
    (others : List Char) :
    scanHere (first :: others) = (scanNumeral (first :: others)).map fun (numeral, rest) =>
      (.scalar (.number numeral), rest) := by
  unfold scanHere
  split
  case h_11 => rfl
  -- No other token begins with a sign or a digit.
  all_goals
    rename_i same
    obtain ⟨rfl, -⟩ := List.cons.inj same
    exact absurd numeric (by decide)

theorem isBlank_of_numeric {first : Char} (numeric : first.isDigit = true ∨ first = '-') :
    isBlank first = false := by
  refine Bool.eq_false_iff.mpr fun blank => ?_
  simp only [isBlank, Bool.or_eq_true, decide_eq_true_eq] at blank
  obtain ((rfl | rfl) | rfl) | rfl := blank <;> exact absurd numeric (by decide)

theorem scan?_number {numeral : Numeral} (spelled : numeral.Spelled) {rest : List Char}
    (ends : Numeral.EndsBefore rest) :
    scan? (numeral.render ++ rest) = some (.scalar (.number numeral), rest) := by
  have scanned := scanNumeral_render spelled ends
  obtain ⟨first, others, render, numeric⟩ := Numeral.exists_render_eq_cons spelled
  rw [render, List.cons_append] at scanned ⊢
  have here := scanHere_of_numeric numeric (others ++ rest)
  rw [scanned] at here
  rw [scan?, List.dropWhile_cons_of_neg (by simp [isBlank_of_numeric numeric]), here]
  rfl

theorem scan?_text (value : String) (rest : List Char) :
    scan? (renderText value ++ rest) = some (.scalar (.text value), rest) := by
  have scanned := scanPieces_flatMap_escape [] value.toList rest
  have joined := joinPieces_map_character [] value.toList
  have here : scanHere ('"' :: (value.toList.flatMap escape ++ '"' :: rest)) =
      some (.scalar (.ofPieces (value.toList.map Piece.character)), rest) := by
    rw [scanHere, scanned]
    rfl
  rw [renderText, List.cons_append, List.cons_append, List.append_assoc, List.singleton_append,
    scan?, List.dropWhile_cons_of_neg (by decide), here, Scalar.ofPieces, joined]
  simp

/-- A scalar is split off as it was written. -/
theorem scan?_render {value : Scalar} (spelled : value.Spelled) {rest : List Char}
    (ends : Numeral.EndsBefore rest) :
    scan? (value.render ++ rest) = some (.scalar value, rest) := by
  cases value with
  | null => rfl
  | boolean value => cases value <;> rfl
  | number numeral => exact scan?_number spelled ends
  | text value => exact scan?_text value rest
  | unpairedText => exact spelled.elim

theorem length_of_scanHere {chars rest : List Char} {token : Token}
    (scanned : scanHere chars = some (token, rest)) : rest.length < chars.length := by
  unfold scanHere at scanned
  split at scanned
  case h_10 =>
    obtain ⟨_, pieces, result⟩ := Option.map_eq_some_iff.mp scanned
    cases result
    exact Nat.lt_succ_of_lt (length_of_scanPieces pieces)
  case h_11 =>
    obtain ⟨_, numeral, result⟩ := Option.map_eq_some_iff.mp scanned
    cases result
    exact length_of_scanNumeral numeral
  all_goals
    cases scanned
    simp only [List.length_cons]
    omega

theorem advances_scan? : Text.Scanner.Advances scan? := fun scanned =>
  Nat.lt_of_lt_of_le (length_of_scanHere scanned) (List.dropWhile_suffix isBlank).length_le

end Token

end Drift.Json
