/-!
# Hexadecimal digits

Bytes are written as two lower-case digits, the high half first. Reading takes
digits of either case in pairs and stops at the first byte that is no digit,
naming that byte and its position.
-/

namespace Drift.Hex

/-- The lower-case digit of a value below sixteen. -/
def digit (value : UInt8) : Char :=
  Char.ofNat (if value < 10 then 48 + value.toNat else 87 + value.toNat)

/-- The lower-case hexadecimal text of some bytes, as characters. -/
def encode (bytes : List UInt8) : List Char :=
  bytes.flatMap fun byte => [digit (byte / 16), digit (byte % 16)]

/-- The value of an ASCII hexadecimal digit of either case. -/
def value? (byte : UInt8) : Option UInt8 :=
  if 48 ≤ byte ∧ byte ≤ 57 then some (byte - 48)
  else if 65 ≤ byte ∧ byte ≤ 70 then some (byte - 55)
  else if 97 ≤ byte ∧ byte ≤ 102 then some (byte - 87)
  else none

/-- A byte that stands where a digit should, counted from the start. -/
structure BadDigit where
  byte : UInt8
  position : Nat
  deriving DecidableEq, Repr

/-- The value of the digit at a position, or the fault that it is none. -/
def valueAt (position : Nat) (byte : UInt8) : Except BadDigit UInt8 :=
  match value? byte with
  | some value => .ok value
  | none => .error ⟨byte, position⟩

/-- Reads pairs of digits from a position on. A last digit without a partner
carries no byte. -/
def decodeFrom (position : Nat) : List UInt8 → Except BadDigit (List UInt8)
  | high :: low :: rest => do
      let highValue ← valueAt position high
      let lowValue ← valueAt (position + 1) low
      let bytes ← decodeFrom (position + 2) rest
      return (16 * highValue + lowValue) :: bytes
  | _ => .ok []

/-- Reads the bytes that an even number of digits write. -/
def decode (digits : List UInt8) : Except BadDigit (List UInt8) :=
  decodeFrom 0 digits

theorem length_of_decodeFrom {position : Nat} {digits bytes : List UInt8}
    (decoded : decodeFrom position digits = .ok bytes) :
    bytes.length = digits.length / 2 := by
  match digits with
  | [] | [_] =>
      cases decoded
      simp
  | high :: low :: rest =>
      unfold decodeFrom at decoded
      cases highCase : valueAt position high with
      | error fault => simp [highCase, bind, Except.bind] at decoded
      | ok highValue =>
        cases lowCase : valueAt (position + 1) low with
        | error fault => simp [highCase, lowCase, bind, Except.bind] at decoded
        | ok lowValue =>
          cases restCase : decodeFrom (position + 2) rest with
          | error fault => simp [highCase, lowCase, restCase, bind, Except.bind] at decoded
          | ok tail =>
            simp only [highCase, lowCase, restCase, bind, Except.bind, pure, Except.pure,
              Except.ok.injEq] at decoded
            subst decoded
            simp only [List.length_cons, length_of_decodeFrom restCase]
            omega

/-- As many bytes come out of reading as there are pairs of digits. -/
theorem length_of_decode {digits bytes : List UInt8} (decoded : decode digits = .ok bytes) :
    bytes.length = digits.length / 2 :=
  length_of_decodeFrom decoded

end Drift.Hex
