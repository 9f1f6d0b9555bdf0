import Drift.Json.Expect
import Drift.Proofs.Json.Value

/-!
# Readers of what was written

A way to write values of some type as JSON is faithful if what it writes has a text and
its reader gives the same value again. Texts, truth values and names are written
faithfully; so are arrays, objects with a member for each of several values, and records
whose fields are. `Faithful.readDocument_toText` takes this to whole documents.
-/

namespace Drift.Json

/-- What is written has a text and is read as what it was written for. -/
structure Faithful (write : α → Value) (read : Value → Read α) : Prop where
  spelled : ∀ value, (write value).Spelled
  read_write : ∀ value, read (write value) = .ok value

/-- A document that was written faithfully is read back from its text. -/
theorem Faithful.readDocument_toText {write : α → Value} {read : Value → Read α}
    (faithful : Faithful write read) (value : α) :
    readDocument read (write value).toText = .ok value := by
  rw [readDocument]
  simp only [parse_toText (faithful.spelled value), faithful.read_write]
  rfl

/-- Values that are taken apart to be written, and put together again. -/
theorem Faithful.through {write : α → Value} {read : Value → Read α}
    (faithful : Faithful write read) (split : β → α) (join : α → β)
    (inverse : ∀ value, join (split value) = value) :
    Faithful (fun value => write (split value)) fun value => do return join (← read value) where
  spelled value := faithful.spelled (split value)
  read_write value := by
    rw [faithful.read_write]
    exact congrArg Except.ok (inverse value)

/-! ## Scalars -/

theorem faithful_asText : Faithful Value.ofText asText where
  spelled _ := .scalar trivial
  read_write _ := rfl

theorem faithful_asBoolean : Faithful Value.ofBool asBoolean where
  spelled _ := .scalar trivial
  read_write _ := rfl

/-- Names that are told apart are written faithfully. -/
theorem faithful_asVariant {name : α → String} {ofName? : String → Option α}
    (inverse : ∀ variant, ofName? (name variant) = some variant) (known : List String) :
    Faithful (fun variant => .ofText (name variant)) (asVariant ofName? known) where
  spelled _ := .scalar trivial
  read_write variant := by
    rw [Value.ofText, asVariant, asName, inverse]

/-- A natural number is read back by a reader whose bound it is below. -/
theorem asNatural_ofNat {bound value : Nat} (below : value < bound)
    (small : value < UInt64.size)
    (expected : String) : asNatural bound expected (.ofNat value) = .ok value := by
  have found : (Value.ofNat value).found? = some (.integer value) := by
    rw [Value.ofNat, Value.found?, Scalar.found?, Numeral.amount?_ofNat small, Option.map_some]
  rw [asNatural, found]
  exact if_pos ⟨Int.natCast_nonneg value, Int.ofNat_lt.mpr below⟩

/-- Machine words of at most 64 bits are written faithfully as their numbers. -/
theorem faithful_word {toNat : α → Nat} {ofNat : Nat → α} {bound : Nat}
    (below : ∀ word, toNat word < bound) (narrow : bound ≤ UInt64.size)
    (inverse : ∀ word, ofNat (toNat word) = word) (expected : String) :
    Faithful (fun word => .ofNat (toNat word))
      fun value => do return ofNat (← asNatural bound expected value) where
  spelled word := .scalar (Numeral.spelled_ofNat (toNat word))
  read_write word := by
    rw [asNatural_ofNat (below word) (Nat.lt_of_lt_of_le (below word) narrow)]
    exact congrArg Except.ok (inverse word)

/-! ## Containers -/

theorem mapM_map_write {write : α → Value} {read : Value → Read α}
    (faithful : Faithful write read) (values : List α) :
    (values.map write).mapM read = .ok values := by
  induction values with
  | nil => rfl
  | cons value others ih =>
      rw [List.map_cons, List.mapM_cons, faithful.read_write, ih]
      rfl

/-- An array of values that are written faithfully is read back, up to as many as its
reader admits. -/
theorem asItems_ofItems {write : α → Value} {read : Value → Read α}
    (faithful : Faithful write read) {limit : Nat} {values : List α}
    (admitted : values.length ≤ limit) (expected : String) :
    asItems limit expected read (.ofItems (values.map write)) = .ok values := by
  have length : (values.map write).length ≤ limit := by rwa [List.length_map]
  rw [Value.ofItems, asItems, List.take_of_length_le length, mapM_map_write faithful]
  exact if_pos ⟨length, rfl⟩

theorem foldMembers_ofMembers_cons (add : β → String → Value → Read β) (start : β)
    (member : String × Value) (others : List (String × Value)) :
    foldMembers add start (.ofMembers (member :: others)) =
      add start member.1 member.2 >>= fun result =>
        foldMembers add result (.ofMembers others) := by
  simp only [Value.ofMembers, foldMembers, List.map_cons, List.foldlM_cons, bind_assoc]

/-- Members that are taken in one after another come to what the values they were
written for come to. -/
theorem foldMembers_ofMembers {name : α → String} {write : α → Value}
    {add : β → String → Value → Read β} {step : β → α → β}
    (adds : ∀ result value, add result (name value) (write value) = .ok (step result value))
    (start : β) (values : List α) :
    foldMembers add start (.ofMembers (values.map fun value => (name value, write value))) =
      .ok (values.foldl step start) := by
  induction values generalizing start with
  | nil => rfl
  | cons value others ih =>
      rw [List.map_cons, foldMembers_ofMembers_cons, adds]
      exact ih (step start value)

/-- A record of fields that are written faithfully is read back from the object of its
fields. -/
theorem faithful_record (record : Record α β γ) {first : α → Value} {second : β → Value}
    {third : γ → Value}
    (distinct : [record.first.name, record.second.name, record.third.name].Nodup)
    (firstFaithful : Faithful first record.first.read)
    (secondFaithful : Faithful second record.second.read)
    (thirdFaithful : Faithful third record.third.read) :
    Faithful (fun fields => .ofMembers [(record.first.name, first fields.1),
      (record.second.name, second fields.2.1), (record.third.name, third fields.2.2)])
      record.read where
  spelled fields := by
    refine .ofMembers ?_
    simp [firstFaithful.spelled, secondFaithful.spelled, thirdFaithful.spelled]
  read_write fields := by
    obtain ⟨firstOther, secondOther⟩ : (record.first.name ≠ record.second.name ∧
        record.first.name ≠ record.third.name) ∧ record.second.name ≠ record.third.name := by
      simpa using distinct
    have filled : foldMembers record.readMember (none, none, none)
        (.ofMembers [(record.first.name, first fields.1),
          (record.second.name, second fields.2.1), (record.third.name, third fields.2.2)]) =
        .ok (some fields.1, some fields.2.1, some fields.2.2) := by
      simp only [foldMembers_ofMembers_cons, Record.readMember, Field.fill, firstOther.1.symm,
        firstOther.2.symm, secondOther.symm, firstFaithful.read_write,
        secondFaithful.read_write,
        thirdFaithful.read_write, if_true, if_false]
      rfl
    rw [Value.ofMembers] at filled ⊢
    rw [Record.read, filled]
    rfl

end Drift.Json
