import Drift.Proofs.Json.Token

/-!
# Values read back

A value that is written is read back, at any depth and whatever is open around it. A
reading is followed over characters by `Reading.run`: `Reading.Reads` says of a value
that its text takes a reading that waits for a value to the one that has it, and
`Value.Spelled.reads` shows this of every value that has a text, by induction on the
value. Commas, colons and brackets are one step each, and the contents of a container
come one after another.
-/

namespace Drift.Json

/-- A value that has a text: it is complete, and so are its scalars and keys. -/
inductive Value.Spelled : Value → Prop where
  | scalar {value : Scalar} (spelled : value.Spelled) : Spelled (.scalar value)
  | ofItems {items : List Value} (each : ∀ item ∈ items, item.Spelled) :
      Spelled (.ofItems items)
  | ofMembers {members : List (String × Value)} (each : ∀ member ∈ members, member.2.Spelled) :
      Spelled (.ofMembers members)

namespace Reading

/-- What a reading comes to over some characters, and the rest, where no token
begins. -/
def run (reading : Reading) (chars : List Char) : Reading × List Char :=
  let (tokens, rest) := Text.many Token.scan? chars
  (tokens.foldl read reading, rest)

theorem parse_eq_run (text : String) :
    parse text =
      let (reading, rest) := start.run text.toList
      if rest.all isBlank then reading.document else reading.fail.document :=
  rfl

theorem run_of_scan? {chars rest : List Char} {token : Token}
    (scanned : Token.scan? chars = some (token, rest)) (reading : Reading) :
    reading.run chars = (reading.read token).run rest := by
  simp only [run, Text.many_of_some Token.advances_scan? scanned, List.foldl_cons]

/-- The reading takes every token as the start of a value, other than the end of an
array. -/
def AwaitsValue (reading : Reading) (stack : List Frame) : Prop :=
  ∀ token, token ≠ .closeArray → reading.read token = readValue stack token

/-- The reading takes every token as a key, other than the end of an object. -/
def AwaitsKey (reading : Reading) (stack : List Frame) : Prop :=
  ∀ token, token ≠ .closeObject → reading.read token = readKey stack token

theorem awaitsValue_value (stack : List Frame) : (within stack .value).AwaitsValue stack :=
  fun _ _ => rfl

theorem awaitsValue_firstItem (stack : List Frame) :
    (within stack .firstItem).AwaitsValue stack := by
  intro token other
  rw [read]
  rintro _ _ rfl rfl
  exact other rfl

theorem awaitsKey_nextKey (stack : List Frame) : (within stack .nextKey).AwaitsKey stack :=
  fun _ _ => rfl

theorem awaitsKey_firstKey (stack : List Frame) : (within stack .firstKey).AwaitsKey stack := by
  intro token other
  rw [read]
  rintro _ _ rfl rfl
  exact other rfl

/-- The text of a value takes a reading that waits for a value to the one that has
it. -/
def Reads (value : Value) : Prop :=
  ∀ {reading : Reading} {stack : List Frame} {rest : List Char}, reading.AwaitsValue stack →
    Numeral.EndsBefore rest → reading.run (value.render ++ rest) = (put stack value).run rest

theorem reads_scalar {value : Scalar} (spelled : value.Spelled) : Reads (.scalar value) := by
  intro reading stack rest awaits ends
  rw [Value.render, run_of_scan? (Token.scan?_render spelled ends),
    awaits (.scalar value) nofun, readValue]

/-- The items of an array are read one after another up to its end. -/
theorem run_renderItems {items : List Value} (each : ∀ item ∈ items, Reads item)
    (nonempty : items ≠ []) {reading : Reading} {seen : List Value} {outer : List Frame}
    (awaits : reading.AwaitsValue (.array seen :: outer)) (rest : List Char) :
    reading.run (renderItems items ++ ']' :: rest) =
      (put outer (.array (seen.reverse ++ items) .closed)).run rest := by
  induction items generalizing reading seen with
  | nil => exact absurd rfl nonempty
  | cons item others ih =>
      obtain ⟨readsItem, readsOthers⟩ := List.forall_mem_cons.mp each
      cases others with
      | nil =>
          rw [renderItems, readsItem awaits (Numeral.endsBefore_cons (by decide) _), put,
            Frame.add, run_of_scan? rfl, read, List.reverse_cons]
      | cons next others =>
          rw [renderItems, List.append_assoc, List.cons_append,
            readsItem awaits (Numeral.endsBefore_cons (by decide) _), put, Frame.add,
            run_of_scan? rfl, read,
            ih readsOthers (List.cons_ne_nil _ _) (awaitsValue_value _), List.reverse_cons,
            List.append_assoc, List.singleton_append]

theorem reads_ofItems {items : List Value} (each : ∀ item ∈ items, Reads item) :
    Reads (.ofItems items) := by
  intro reading stack rest awaits _
  rw [Value.ofItems, Value.render, List.cons_append, List.cons_append, List.append_assoc,
    List.singleton_append, run_of_scan? rfl, awaits .openArray nofun, readValue]
  cases items with
  | nil =>
      -- The array ends where its first item would begin.
      rw [renderItems, List.nil_append, run_of_scan? rfl]
      rfl
  | cons item others =>
      exact run_renderItems each (List.cons_ne_nil _ _) (awaitsValue_firstItem _) rest

/-- A member is read as its key, a colon and its value. -/
theorem run_member {value : Value} (reads : Reads value) (key : String) {reading : Reading}
    {seen : List (Option String × Value)} {outer : List Frame}
    (awaits : reading.AwaitsKey (.object seen :: outer)) {rest : List Char}
    (ends : Numeral.EndsBefore rest) :
    reading.run (renderText key ++ ':' :: value.render ++ rest) =
      (within (.object ((some key, value) :: seen) :: outer) .separator).run rest := by
  rw [List.append_assoc, List.cons_append, run_of_scan? (Token.scan?_text key _),
    awaits (.scalar (.text key)) nofun, readKey, key?]
  dsimp only
  rw [run_of_scan? rfl, read, reads (awaitsValue_value _) ends, put, Frame.add]

/-- The members of an object are read one after another up to its end. -/
theorem run_renderMembers {members : List (Option String × Value)}
    (each : ∀ member ∈ members, member.1.isSome ∧ Reads member.2) (nonempty : members ≠ [])
    {reading : Reading} {seen : List (Option String × Value)} {outer : List Frame}
    (awaits : reading.AwaitsKey (.object seen :: outer)) (rest : List Char) :
    reading.run (renderMembers members ++ '\x7d' :: rest) =
      (put outer (.object (seen.reverse ++ members) .closed)).run rest := by
  induction members generalizing reading seen with
  | nil => exact absurd rfl nonempty
  | cons member others ih =>
      obtain ⟨key?, value⟩ := member
      obtain ⟨⟨named, reads⟩, readsOthers⟩ := List.forall_mem_cons.mp each
      obtain ⟨key, rfl⟩ := Option.isSome_iff_exists.mp named
      cases others with
      | nil =>
          rw [renderMembers, Option.getD_some,
            run_member reads key awaits (Numeral.endsBefore_cons (by decide) _),
            run_of_scan? rfl, read, List.reverse_cons]
      | cons next others =>
          rw [renderMembers, Option.getD_some, List.append_assoc, List.cons_append,
            run_member reads key awaits (Numeral.endsBefore_cons (by decide) _),
            run_of_scan? rfl, read,
            ih readsOthers (List.cons_ne_nil _ _) (awaitsKey_nextKey _), List.reverse_cons,
            List.append_assoc, List.singleton_append]

theorem reads_ofMembers {members : List (String × Value)}
    (each : ∀ member ∈ members, Reads member.2) : Reads (.ofMembers members) := by
  intro reading stack rest awaits _
  rw [Value.ofMembers, Value.render, List.cons_append, List.cons_append, List.append_assoc,
    List.singleton_append, run_of_scan? rfl, awaits .openObject nofun, readValue]
  by_cases nonempty : members = []
  · subst nonempty
    rw [List.map_nil, renderMembers, List.nil_append, run_of_scan? rfl]
    rfl
  · refine run_renderMembers (List.forall_mem_map.mpr ?_) (mt List.map_eq_nil_iff.mp nonempty)
      (awaitsKey_firstKey _) rest
    exact fun member among => ⟨rfl, each member among⟩

end Reading

theorem Value.Spelled.reads {value : Value} (spelled : value.Spelled) :
    Reading.Reads value := by
  induction spelled with
  | scalar spelled => exact Reading.reads_scalar spelled
  | ofItems each ih => exact Reading.reads_ofItems ih
  | ofMembers each ih => exact Reading.reads_ofMembers ih

/-- A value is read back from its text, as a document that is well-formed up to its
end. -/
theorem parse_toText {value : Value} (spelled : value.Spelled) :
    parse value.toText = ⟨value, true⟩ := by
  have reads : Reading.start.run (value.render ++ []) = (Reading.put [] value).run [] :=
    spelled.reads (Reading.awaitsValue_value []) nofun
  rw [List.append_nil] at reads
  rw [Reading.parse_eq_run, Value.toText, String.toList_ofList, reads]
  rfl

end Drift.Json
