import Drift.Json.Value

/-!
# Writing JSON values

Values are written without any blank. Only complete values are ever written.
-/

namespace Drift.Json

/-- The characters of a scalar. -/
def Scalar.render : Scalar → List Char
  | null => "null".toList
  | boolean true => "true".toList
  | boolean false => "false".toList
  | number numeral => numeral.render
  | text value => renderText value
  | unpairedText => []

mutual

/-- The characters of a value. -/
def Value.render : Value → List Char
  | .scalar value => value.render
  | .array items _ => '[' :: renderItems items ++ [']']
  | .object members _ => '\x7b' :: renderMembers members ++ ['\x7d']
  | .missing => []

/-- Items with commas between them. -/
def renderItems : List Value → List Char
  | [] => []
  | [value] => value.render
  | value :: next :: others => value.render ++ ',' :: renderItems (next :: others)

/-- Members with commas between them. -/
def renderMembers : List (Option String × Value) → List Char
  | [] => []
  | [(key, value)] => renderText (key.getD "") ++ ':' :: value.render
  | (key, value) :: next :: others =>
      renderText (key.getD "") ++ ':' :: value.render ++ ',' :: renderMembers (next :: others)

end

/-- The text of a value. -/
def Value.toText (value : Value) : String :=
  String.ofList value.render

/-- The value of a text. -/
def Value.ofText (text : String) : Value := .scalar (.text text)

/-- The value of a truth value. -/
def Value.ofBool (value : Bool) : Value := .scalar (.boolean value)

/-- The value of a natural number. -/
def Value.ofNat (value : Nat) : Value := .scalar (.number (.ofNat value))

/-- An array of values. -/
def Value.ofItems (items : List Value) : Value := .array items .closed

/-- An object of members. -/
def Value.ofMembers (members : List (String × Value)) : Value :=
  .object (members.map fun (key, value) => (some key, value)) .closed

end Drift.Json
