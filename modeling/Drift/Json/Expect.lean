import Drift.Json.Value
import Drift.Mismatch

/-!
# Reading JSON values

Readers of scalars, named variants, arrays and records. Each reader walks its
value in document order and reports the first fault it meets: that the document
is malformed, or that it says something else than expected.
-/

namespace Drift.Json

/-- Why a document could not be read. -/
inductive Fault where
  | malformed
  | mismatch (mismatch : Mismatch)
  deriving DecidableEq, Repr

/-- What a reader makes of a value. -/
abbrev Read (α : Type u) := Except Fault α

/-- A scalar as messages show it, unless it is malformed. -/
def Scalar.found? : Scalar → Option Found
  | null => some .null
  | boolean value => some (.boolean value)
  | number numeral =>
      numeral.amount?.map fun amount =>
        match amount with
        | .integer value => .integer value
        | .double value => .decimal (doubleLayout.text value)
  | text value => some (.text value)
  | unpairedText => none

/-- A value as messages show it, unless it is malformed at its start. -/
def Value.found? : Value → Option Found
  | scalar value => value.found?
  | array _ _ => some .sequence
  | object _ _ => some .map
  | missing => none

/-- The fault that something stands where something else is expected. -/
def unexpected (found? : Option Found) (expected : String) : Fault :=
  match found? with
  | some found => .mismatch (.wrongType found expected)
  | none => .malformed

/-- Reads a text. -/
def asText : Value → Read String
  | .scalar (.text value) => .ok value
  | value => .error (unexpected value.found? "a string")

/-- Reads a truth value. -/
def asBoolean : Value → Read Bool
  | .scalar (.boolean value) => .ok value
  | value => .error (unexpected value.found? "a boolean")

/-- Reads a natural number below a bound. -/
def asNatural (bound : Nat) (expected : String) (value : Value) : Read Nat :=
  match value.found? with
  | some (.integer number) =>
      if 0 ≤ number ∧ number < bound then .ok number.toNat
      else .error (.mismatch (.outOfRange (.integer number) expected))
  | found? => .error (unexpected found? expected)

/-- Reads the name of a variant. -/
def asName (ofName? : String → Option α) (known : List String) (name : String) : Read α :=
  match ofName? name with
  | some variant => .ok variant
  | none => .error (.mismatch (.unknownVariant name known))

/-- Reads what should be nothing. -/
def asUnit : Value → Read Unit
  | .scalar .null => .ok ()
  | value => .error (unexpected value.found? "unit")

/-- Reads a variant: its name, or an object with its name as the only key, and
nothing behind it. -/
def asVariant (ofName? : String → Option α) (known : List String) : Value → Read α
  | .scalar (.text name) => asName ofName? known name
  | .object ((some name, value) :: others) ending => do
      let variant ← asName ofName? known name
      asUnit value
      if others.isEmpty ∧ ending = .closed then return variant else .error .malformed
  | _ => .error .malformed

/-- Reads an array of at most as many items as a limit says. -/
def asItems (limit : Nat) (expected : String) (item : Value → Read α) : Value → Read (List α)
  | .array items ending => do
      let values ← (items.take limit).mapM item
      if items.length ≤ limit ∧ ending = .closed then return values else .error .malformed
  | value => .error (unexpected value.found? expected)

/-- Reads the members of an object one after another into a result. -/
def foldMembers (add : α → String → Value → Read α) (start : α) : Value → Read α
  | .object members ending => do
      let result ← members.foldlM (fun result (key, value) =>
        match key with
        | some key => add result key value
        | none => .error .malformed) start
      if ending = .closed then return result else .error .malformed
  | value => .error (unexpected value.found? "a map")

/-! ## Records -/

/-- One field of a record. -/
structure Field (α : Type u) where
  name : String
  read : Value → Read α
  /-- What holds where the field is left out. -/
  default? : Option α

namespace Field

/-- Reads a field into its place, which has to be free. -/
def fill (field : Field α) (place : Option α) (value : Value) : Read (Option α) := do
  if place.isSome then .error (.mismatch (.duplicateField field.name))
  else return some (← field.read value)

/-- The value of a field after all members. -/
def settle (field : Field α) (place : Option α) : Read α :=
  match place <|> field.default? with
  | some value => .ok value
  | none => .error (.mismatch (.missingField field.name))

/-- Reads a field that is an item of an array. -/
def item (field : Field α) (record : String) (items : List Value) (ending : Ending)
    (index : Nat) : Read α :=
  match items[index]? with
  | some value => field.read value
  | none =>
    if ending = .closed then
      match field.default? with
      | some value => .ok value
      | none => .error (.mismatch (.wrongLength index s!"{record} with 3 elements"))
    else
      .error .malformed

end Field

/-- A record of three fields. -/
structure Record (α β γ : Type u) where
  /-- What messages call the record. -/
  name : String
  first : Field α
  second : Field β
  third : Field γ

namespace Record

/-- The fields read so far. -/
abbrev Places (α β γ : Type u) := Option α × Option β × Option γ

/-- Reads one member of a record. Members of other names have to be well-formed
but are otherwise passed over. -/
def readMember (record : Record α β γ) (places : Places α β γ) (key : String) (value : Value) :
    Read (Places α β γ) := do
  let (first, second, third) := places
  if key = record.first.name then
    return (← record.first.fill first value, second, third)
  else if key = record.second.name then
    return (first, ← record.second.fill second value, third)
  else if key = record.third.name then
    return (first, second, ← record.third.fill third value)
  else if value.isComplete then
    return places
  else
    .error .malformed

/-- Reads a record, as an object or as the array of its fields. -/
def read (record : Record α β γ) : Value → Read (α × β × γ)
  | .object members ending => do
      let (first, second, third) ←
        foldMembers record.readMember (none, none, none) (.object members ending)
      return (← record.first.settle first, ← record.second.settle second,
        ← record.third.settle third)
  | .array items ending => do
      let first ← record.first.item record.name items ending 0
      let second ← record.second.item record.name items ending 1
      let third ← record.third.item record.name items ending 2
      if items.length ≤ 3 ∧ ending = .closed then return (first, second, third)
      else .error .malformed
  | value => .error (unexpected value.found? record.name)

end Record

/-- Reads a whole document, which has nothing behind its value. -/
def readDocument (read : Value → Read α) (text : String) : Read α := do
  let document := parse text
  let result ← read document.value
  if document.isComplete then return result else .error .malformed

end Drift.Json
