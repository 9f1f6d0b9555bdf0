import Drift.Proofs.Toml.Number
import Drift.Toml.Document

/-!
# Documents read back

A document whose lines each give a value to a key without quotes is read as those
members, in the order of the lines, as long as no key stands twice. How a value is
written matters only at the end of a line (`Written`); truth values, natural
numbers of 63 bits and texts without escapes are written in such a way.
-/

namespace Drift.Toml

/-! ## Values -/

/-- Characters that are read as a node where the end of a line follows. -/
structure Written (chars : List Char) (node : Node) : Prop where
  begins : ∃ first others, chars = first :: others ∧ isBlank first = false
  reads : ∀ rest, scanValue depthLimit (chars ++ '\n' :: rest) = some (node, '\n' :: rest)

theorem scanValue_eq_scanScalar {first : Char}
    (noArray : first ≠ '[') (noTable : first ≠ '\x7b') (depth : Nat) (rest : List Char) :
    scanValue depth (first :: rest) = scanScalar (first :: rest) := by
  rw [scanValue.eq_def]
  split <;> simp_all

theorem written_boolean (value : Bool) : Written (toString value).toList (.boolean value) := by
  cases value with
  | false => exact ⟨⟨'f', _, rfl, rfl⟩, fun _ => rfl⟩
  | true => exact ⟨⟨'t', _, rfl, rfl⟩, fun _ => rfl⟩

theorem scanScalar_toDigits {value : Nat} (fits : value < Nat.pow 2 63) (rest : List Char) :
    scanScalar (Nat.toDigits 10 value ++ '\n' :: rest) =
      some (.integer value, '\n' :: rest) := by
  have decimal := Text.decimal_toDigits value
  have moment := scanMoment_of_decimal decimal rest
  have double := scanDouble_toDigits value rest
  have integer := scanInteger_toDigits value rest fits
  obtain ⟨first, others, digits⟩ :=
    List.exists_cons_of_ne_nil (Nat.toDigits_ne_nil (n := value) (b := 10))
  rw [digits, List.cons_append] at moment double integer ⊢
  have no (other : Char) (noDigit : other.isDigit = false) : first ≠ other :=
    Text.ne_of_isDigit (decimal first (by simp [digits])) noDigit
  rw [scanScalar, moment, double, integer]
  · rfl
  · exact fun _ same => no 't' (by decide) (List.cons.inj same).1
  · exact fun _ same => no 'f' (by decide) (List.cons.inj same).1
  · exact fun _ same => no '"' (by decide) (List.cons.inj same).1
  · exact fun _ same => no '\'' (by decide) (List.cons.inj same).1

theorem written_natural {value : Nat} (fits : value < Nat.pow 2 63) :
    Written (Nat.toDigits 10 value) (.integer value) := by
  obtain ⟨first, others, digits⟩ :=
    List.exists_cons_of_ne_nil (Nat.toDigits_ne_nil (n := value) (b := 10))
  have no (other : Char) (noDigit : other.isDigit = false) : first ≠ other :=
    Text.ne_of_isDigit (Text.decimal_toDigits value first (by simp [digits])) noDigit
  refine ⟨⟨first, others, digits, ?_⟩, fun rest => ?_⟩
  · simp [isBlank, no ' ' (by decide), no '\t' (by decide)]
  · have scalar := scanScalar_toDigits fits rest
    rw [digits, List.cons_append] at scalar ⊢
    rw [scanValue_eq_scanScalar (no '[' (by decide)) (no '\x7b' (by decide)), scalar]

/-- A character that stands for itself between double quotes. -/
def IsQuotable (character : Char) : Prop :=
  isPlain character = true ∧ character ≠ '"' ∧ character ≠ '\\'

theorem scanBasicCharacter_cons {character : Char} (quotable : IsQuotable character)
    (rest : List Char) : scanBasicCharacter (character :: rest) = some (character, rest) := by
  obtain ⟨plain, noQuote, noEscape⟩ := quotable
  rw [scanBasicCharacter, if_pos ⟨plain, noQuote, noEscape⟩]
  · exact fun _ escape _ => noEscape escape
  · exact fun _ escape _ => noEscape escape
  · exact fun _ _ escape _ => noEscape escape

theorem scanSimpleText_quoted {characters : List Char}
    (quotable : ∀ character ∈ characters, IsQuotable character) (rest : List Char) :
    scanSimpleText ('"' :: (characters ++ '"' :: rest)) =
      some (String.ofList characters, rest) := by
  have stops : scanBasicCharacter ('"' :: rest) = none := rfl
  have run := Text.many_of_characters
    (fun character member => scanBasicCharacter_cons (quotable character member)) stops
  rw [scanSimpleText, scanLine, run]
  rfl

theorem scanText_quoted {characters : List Char}
    (quotable : ∀ character ∈ characters, IsQuotable character) (rest : List Char) :
    scanText ('"' :: (characters ++ '"' :: '\n' :: rest)) =
      some (String.ofList characters, '\n' :: rest) := by
  have simple := scanSimpleText_quoted quotable ('\n' :: rest)
  -- Three quotes in a row would need one among the characters or behind the text.
  cases characters with
  | nil => exact simple
  | cons first characters =>
      have noQuote : first ≠ '"' := (quotable first List.mem_cons_self).2.1
      rw [List.cons_append] at simple ⊢
      rw [scanText, simple]
      · exact fun _ same => noQuote (List.cons.inj (List.cons.inj same).2).1
      · exact fun _ same => nomatch same

theorem written_text {text : String}
    (quotable : ∀ character ∈ text.toList, IsQuotable character) :
    Written ('"' :: (text.toList ++ ['"'])) (.text text) := by
  refine ⟨⟨'"', _, rfl, rfl⟩, fun rest => ?_⟩
  rw [List.cons_append, List.append_assoc, scanValue_eq_scanScalar (by decide) (by decide),
    scanScalar]
  have scanned := scanText_quoted quotable rest
  rw [String.ofList_toList] at scanned
  simp [scanned]

/-! ## Keys -/

/-- A key that needs no quotes. -/
def IsBareKey (key : String) : Prop :=
  key.toList ≠ [] ∧ ∀ character ∈ key.toList, isBare character = true

theorem isBlank_of_isBare {character : Char} (bare : isBare character = true) :
    isBlank character = false := by
  apply Bool.eq_false_iff.mpr
  intro blank
  rw [isBlank, Bool.or_eq_true, decide_eq_true_eq, decide_eq_true_eq] at blank
  cases blank with
  | inl space => exact absurd (space ▸ bare) (by decide)
  | inr tab => exact absurd (tab ▸ bare) (by decide)

theorem skipBlanks_cons {first : Char} (other : isBlank first = false) (rest : List Char) :
    skipBlanks (first :: rest) = first :: rest :=
  List.dropWhile_cons_of_neg (by simp [other])

/-- A key without quotes ends where a character comes that it cannot hold. -/
theorem scanKeyPart_bare {key : String} (bare : IsBareKey key) (rest : List Char) :
    scanKeyPart (key.toList ++ ' ' :: rest) = some (key, skipBlanks rest) := by
  obtain ⟨nonempty, characters⟩ := bare
  obtain ⟨first, others, parts⟩ := List.exists_cons_of_ne_nil nonempty
  have start : skipBlanks (key.toList ++ ' ' :: rest) = key.toList ++ ' ' :: rest := by
    rw [parts]
    exact skipBlanks_cons (isBlank_of_isBare (characters first (by simp [parts]))) _
  have run : (key.toList ++ ' ' :: rest).takeWhile isBare = key.toList := by
    rw [List.takeWhile_append_of_pos characters]
    exact List.append_nil _
  have some : key.toList.isEmpty = false := by rw [parts]; rfl
  simp only [scanKeyPart, start, run, some, Bool.false_eq_true, if_false, List.drop_left,
    String.ofList_toList, Option.bind_eq_bind, Option.bind_some, Option.pure_def]
  rfl

theorem scanKey_bare {key : String} (bare : IsBareKey key) (rest : List Char) :
    scanKey (key.toList ++ ' ' :: '=' :: rest) = some ([key], '=' :: rest) := by
  have single : Text.many (fun chars => expect '.' chars >>= scanKeyPart) ('=' :: rest) =
      ([], '=' :: rest) := Text.many_of_none rfl
  rw [scanKey, scanKeyPart_bare bare, Option.bind_eq_bind, Option.bind_some]
  dsimp only
  rw [skipBlanks_cons rfl, single]
  rfl

/-! ## Lines -/

/-- A line that gives a value to a key. -/
structure Line where
  key : String
  value : List Char
  node : Node

namespace Line

/-- The characters of a line, with its end. -/
def chars (line : Line) : List Char :=
  line.key.toList ++ ' ' :: '=' :: ' ' :: (line.value ++ ['\n'])

/-- What a line says. -/
def statement (line : Line) : Statement :=
  .assignment [line.key] line.node

/-- A line whose key needs no quotes and whose value is read as its node. -/
structure Spelled (line : Line) : Prop where
  bare : IsBareKey line.key
  written : Written line.value line.node

variable {line : Line}

theorem chars_append (rest : List Char) :
    line.chars ++ rest =
      line.key.toList ++ ' ' :: '=' :: ' ' :: (line.value ++ '\n' :: rest) := by
  simp [chars]

/-- A line begins with its key. -/
theorem exists_chars_eq_cons (spelled : line.Spelled) :
    ∃ first others, line.chars = first :: others ∧ isBare first = true := by
  obtain ⟨nonempty, characters⟩ := spelled.bare
  obtain ⟨first, others, parts⟩ := List.exists_cons_of_ne_nil nonempty
  have bare : isBare first = true := characters first (by simp [parts])
  exact ⟨first, _, by rw [chars, parts, List.cons_append], bare⟩

theorem scanPair_chars (spelled : line.Spelled) (rest : List Char) :
    scanPair (scanValue depthLimit) (line.chars ++ rest) =
      some (([line.key], line.node), '\n' :: rest) := by
  obtain ⟨first, others, parts, visible⟩ := spelled.written.begins
  have start : skipBlanks (' ' :: (line.value ++ '\n' :: rest)) =
      line.value ++ '\n' :: rest := by
    rw [parts]
    exact skipBlanks_cons visible _
  have present : expect '=' ('=' :: ' ' :: (line.value ++ '\n' :: rest)) =
      some (' ' :: (line.value ++ '\n' :: rest)) := rfl
  simp only [chars_append, scanPair, scanKey_bare spelled.bare, Option.bind_eq_bind,
    Option.bind_some, present, start, spelled.written.reads]
  rfl

theorem scanStatement_chars (spelled : line.Spelled) (rest : List Char) :
    scanStatement (skipBlanks (line.chars ++ rest)) = some (some line.statement, rest) := by
  obtain ⟨first, others, parts, bare⟩ := exists_chars_eq_cons spelled
  have no (other : Char) (noKey : isBare other = false) : first ≠ other := by
    intro same
    rw [same, noKey] at bare
    cases bare
  have pair := scanPair_chars spelled rest
  rw [parts, List.cons_append] at pair ⊢
  rw [skipBlanks_cons (isBlank_of_isBare bare), scanStatement, pair]
  · rfl
  · exact fun _ same => no '\n' (by decide) (List.cons.inj same).1
  · exact fun _ same => no '\r' (by decide) (List.cons.inj same).1
  · exact fun _ same => no '#' (by decide) (List.cons.inj same).1
  · exact fun _ same => no '[' (by decide) (List.cons.inj same).1
  · exact fun _ same => no '[' (by decide) (List.cons.inj same).1

end Line

/-! ## Documents -/

theorem scanStatements_lines {lines : List Line} (spelled : ∀ line ∈ lines, line.Spelled) :
    scanStatements (lines.flatMap Line.chars) = some (lines.map Line.statement) := by
  have nonempty (line : Line) (member : line ∈ lines) : line.chars ≠ [] := by
    obtain ⟨first, others, parts, -⟩ := Line.exists_chars_eq_cons (spelled line member)
    rw [parts]
    exact List.cons_ne_nil _ _
  have run : Text.many (fun chars => scanStatement (skipBlanks chars))
      (lines.flatMap Line.chars ++ []) = (lines.map fun line => some line.statement, []) :=
    Text.many_of_written nonempty
      (fun line member => Line.scanStatement_chars (spelled line member)) rfl
  rw [List.append_nil] at run
  have kept : (lines.map fun line => some line.statement).filterMap id =
      lines.map Line.statement := by
    rw [List.filterMap_map]
    exact congrFun List.filterMap_eq_map' lines
  rw [scanStatements, run]
  exact congrArg some kept

section Fresh

variable {key : String} {members : Members} (fresh : key ∉ members.map Prod.fst)

include fresh

theorem get?_of_fresh (origin : Origin) : (⟨origin, members⟩ : Table).get? key = none := by
  apply List.lookup_eq_none_iff.mpr
  intro member inside
  apply bne_iff_ne.mpr
  intro same
  exact fresh (same ▸ List.mem_map_of_mem inside)

theorem set_of_fresh (origin : Origin) (node : Node) :
    (⟨origin, members⟩ : Table).set key node = ⟨origin, members ++ [(key, node)]⟩ := by
  have absent : ¬ members.any (fun member => member.1 = key) = true := by
    intro present
    obtain ⟨member, inside, same⟩ := List.any_eq_true.mp present
    exact fresh (of_decide_eq_true same ▸ List.mem_map_of_mem inside)
  rw [Table.set, if_neg absent]

theorem assignLast_of_fresh (node : Node) :
    Table.assignLast node true key ⟨.header, members⟩ =
      some ((), ⟨.header, members ++ [(key, node)]⟩) := by
  rw [Table.assignLast, get?_of_fresh fresh, set_of_fresh fresh]
  rfl

/-- A fresh key is added behind the others. -/
theorem apply_assignment_of_fresh (root : Table) (node : Node) :
    Draft.apply ⟨root, .top, ⟨.header, members⟩⟩ (.assignment [key] node) =
      some ⟨root, .top, ⟨.header, members ++ [(key, node)]⟩⟩ := by
  have assigned : (⟨.header, members⟩ : Table).assign [key] node =
      some ⟨.header, members ++ [(key, node)]⟩ :=
    congrArg (Option.map Prod.snd) (assignLast_of_fresh fresh node)
  rw [Draft.apply, assigned]
  rfl

end Fresh

/-- Keys of the top section are added in the order of their lines, as long as none
of them is there already. -/
theorem foldlM_apply_lines {lines : List Line} (root : Table) (members : Members)
    (distinct : (members.map Prod.fst ++ lines.map Line.key).Nodup) :
    (lines.map Line.statement).foldlM Draft.apply ⟨root, .top, ⟨.header, members⟩⟩ =
      some ⟨root, .top, ⟨.header, members ++ lines.map fun line => (line.key, line.node)⟩⟩ := by
  induction lines generalizing members with
  | nil => simp
  | cons line others ih =>
      have fresh : line.key ∉ members.map Prod.fst := by
        intro known
        exact (List.nodup_append.mp distinct).2.2 _ known _ List.mem_cons_self rfl
      have still : ((members ++ [(line.key, line.node)]).map Prod.fst ++
          others.map Line.key).Nodup := by
        simpa using distinct
      rw [List.map_cons, List.foldlM_cons, Line.statement, apply_assignment_of_fresh fresh,
        Option.bind_eq_bind, Option.bind_some, ih _ still]
      simp

/-- A document of lines is read as its members, in the order of the lines. -/
theorem parse?_lines {lines : List Line} (spelled : ∀ line ∈ lines, line.Spelled)
    (distinct : (lines.map Line.key).Nodup) :
    parse? (String.ofList (lines.flatMap Line.chars)) =
      some (lines.map fun line => (line.key, line.node)) := by
  have noMark : expect '\ufeff' (lines.flatMap Line.chars) = none := by
    cases lines with
    | nil => rfl
    | cons line others =>
        obtain ⟨first, letters, parts, bare⟩ :=
          Line.exists_chars_eq_cons (spelled line List.mem_cons_self)
        rw [List.flatMap_cons, parts, List.cons_append]
        refine if_neg ?_
        intro mark
        rw [mark] at bare
        exact absurd bare (by decide)
  rw [parse?, String.toList_ofList, noMark, Option.getD_none, scanStatements_lines spelled]
  simp only [Option.bind_eq_bind, Option.bind_some, Draft.start, Table.empty,
    foldlM_apply_lines _ [] distinct, Draft.finish, List.nil_append]
  rfl

end Drift.Toml
