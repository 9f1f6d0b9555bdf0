import Drift.Proofs.Toml.Document
import Drift.Toml.Forms
import Mathlib.Algebra.Group.Nat.Defs

/-!
# Settings read back

Each field of settings has a line of its own, so a document of any of these lines,
in any order, gives the settings with those fields and the standard ones for the
rest. All lines together give the settings themselves. A cap that no integer of a
document can hold is refused before anything is written.
-/

namespace Drift.Settings

/-- What a document has lines for. -/
inductive Field where
  | policy
  | includeAdded
  | cap
  deriving DecidableEq

namespace Field

/-- The fields in the order in which they are written. -/
def all : List Field := [policy, includeAdded, cap]

/-- The key of a field. -/
def key : Field → String
  | policy => "strategy"
  | includeAdded => "include_added"
  | cap => "max_reported_changes"

theorem key_inj {field other : Field} (same : field.key = other.key) : field = other := by
  cases field <;> cases other <;> first | rfl | exact absurd same (by decide)

end Field

/-- The line that gives the value of a field. -/
def line (settings : Settings) : Field → Toml.Line
  | .policy =>
      ⟨Field.policy.key, '"' :: (settings.policy.identifier.toList ++ ['"']),
        .text settings.policy.identifier⟩
  | .includeAdded =>
      ⟨Field.includeAdded.key, (toString settings.includeAdded).toList,
        .boolean settings.includeAdded⟩
  | .cap => ⟨Field.cap.key, Nat.toDigits 10 settings.cap.toNat, .integer settings.cap.toNat⟩

/-- The text of the line of a field. -/
def lineText (settings : Settings) (field : Field) : String :=
  String.ofList (settings.line field).chars

/-- Settings with some fields as others have them. -/
def withFields (settings : Settings) (fields : List Field) (others : Settings) : Settings where
  policy := if .policy ∈ fields then others.policy else settings.policy
  includeAdded := if .includeAdded ∈ fields then others.includeAdded else settings.includeAdded
  cap := if .cap ∈ fields then others.cap else settings.cap

variable (settings : Settings)

theorem toList_lineText (field : Field) :
    (settings.lineText field).toList = (settings.line field).chars :=
  String.toList_ofList

theorem lineText_policy :
    settings.lineText .policy = "strategy = \"" ++ settings.policy.identifier ++ "\"\n" := by
  apply String.toList_inj.mp
  simp [toList_lineText, line, Field.key, Toml.Line.chars]

theorem lineText_includeAdded :
    settings.lineText .includeAdded =
      "include_added = " ++ toString settings.includeAdded ++ "\n" := by
  apply String.toList_inj.mp
  simp [toList_lineText, line, Field.key, Toml.Line.chars]

theorem lineText_cap :
    settings.lineText .cap =
      "max_reported_changes = " ++ toString settings.cap.toNat ++ "\n" := by
  apply String.toList_inj.mp
  simp [toList_lineText, line, Field.key, Toml.Line.chars]

/-- The lines are written in the order of the fields. -/
theorem tomlLines_eq : settings.tomlLines = Field.all.map settings.lineText := by
  rw [Field.all, List.map_cons, List.map_cons, List.map_cons, lineText_policy,
    lineText_includeAdded, lineText_cap]
  rfl

theorem key_line (field : Field) : (settings.line field).key = field.key := by
  cases field <;> rfl

theorem bare_key (field : Field) : Toml.IsBareKey field.key := by
  cases field <;> exact ⟨List.cons_ne_nil _ _, List.all_eq_true.mp rfl⟩

theorem quotable_identifier (policy : Policy) :
    ∀ character ∈ policy.identifier.toList, Toml.IsQuotable character := by
  cases policy <;> simp [Policy.identifier, Toml.IsQuotable, Toml.isPlain]

theorem spelled_line (fits : settings.cap.toNat < Nat.pow 2 63) (field : Field) :
    (settings.line field).Spelled where
  bare := by
    rw [key_line]
    exact bare_key field
  written := by
    cases field with
    | policy => exact Toml.written_text (quotable_identifier settings.policy)
    | includeAdded => exact Toml.written_boolean settings.includeAdded
    | cap => exact Toml.written_natural fits

/-- The settings with one field as others have it. -/
def adopt (settings others : Settings) : Field → Settings
  | .policy => { settings with policy := others.policy }
  | .includeAdded => { settings with includeAdded := others.includeAdded }
  | .cap => { settings with cap := others.cap }

/-- The member of a field is read into that field. -/
theorem setFromToml_line (others : Settings) (field : Field) :
    settings.setFromToml (others.line field).key (others.line field).node =
      .ok (settings.adopt others field) := by
  cases field with
  | policy =>
      have named : Toml.asPolicy (.text others.policy.identifier) = .ok others.policy := by
        rw [Toml.asPolicy, Toml.asPolicyName, Policy.ofIdentifier?_identifier]
      simp only [line, Field.key, setFromToml, named]
      rfl
  | includeAdded => rfl
  | cap =>
      have counted : Toml.asCount (.integer others.cap.toNat) = .ok others.cap := by
        rw [Toml.asCount, if_pos (Int.natCast_nonneg _), Int.toNat_natCast, UInt64.ofNat_toNat]
      simp only [line, Field.key, setFromToml, counted]
      rfl

theorem foldlM_setFromToml (others : Settings) (fields : List Field) :
    ((fields.map others.line).map fun line => (line.key, line.node)).foldlM
        (fun settings member => settings.setFromToml member.1 member.2) settings =
      .ok (fields.foldl (fun settings field => settings.adopt others field) settings) := by
  induction fields generalizing settings with
  | nil => rfl
  | cons field rest ih =>
      rw [List.map_cons, List.map_cons, List.foldlM_cons, setFromToml_line, List.foldl_cons]
      exact ih (settings.adopt others field)

theorem foldl_adopt (others : Settings) (fields : List Field) :
    fields.foldl (fun settings field => settings.adopt others field) settings =
      settings.withFields fields others := by
  induction fields generalizing settings with
  | nil => rfl
  | cons field rest ih =>
      rw [List.foldl_cons, ih]
      cases field with
      | policy => simp [withFields, adopt]
      | includeAdded => simp [withFields, adopt]
      | cap => simp [withFields, adopt]

/-- Any lines of some settings, in any order, make a document that gives their
fields and leaves the others at their standard values. -/
theorem ofToml_lines (fits : settings.cap.toNat < Nat.pow 2 63) {fields : List Field}
    (distinct : fields.Nodup) :
    ofToml (String.join (fields.map settings.lineText)) =
      .ok (standard.withFields fields settings) := by
  have keys : ((fields.map settings.line).map Toml.Line.key).Nodup := by
    rw [List.map_map, Function.comp_def, funext settings.key_line]
    exact List.Pairwise.map _ (fun _ _ apart same => apart (Field.key_inj same)) distinct
  have spelled : ∀ line ∈ fields.map settings.line, line.Spelled := by
    intro line member
    obtain ⟨field, -, same⟩ := List.mem_map.mp member
    exact same ▸ settings.spelled_line fits field
  have text : String.join (fields.map settings.lineText) =
      String.ofList ((fields.map settings.line).flatMap Toml.Line.chars) := by
    apply String.toList_inj.mp
    simp only [String.toList_join, String.toList_ofList, List.flatMap_map, toList_lineText]
  rw [ofToml, text, Toml.parse?_lines spelled keys]
  exact (foldlM_setFromToml standard settings fields).trans
    (congrArg Except.ok (foldl_adopt standard settings fields))

theorem withFields_all (others : Settings) : settings.withFields Field.all others = others := by
  simp [withFields, Field.all]

theorem toToml_of_fits (fits : settings.cap.toNat < Nat.pow 2 63) :
    settings.toToml = .ok (String.join settings.tomlLines) :=
  if_pos fits

/-- Settings whose cap an integer with a sign can hold are written as three lines
and read back from them; and a document of any of these lines, in any order, gives
their fields and the standard values of the others. Settings with a larger cap are
not written at all. -/
theorem ofToml_toToml :
    (settings.cap.toNat ≤ 2 ^ 63 - 1 →
      (∃ text, settings.toToml = .ok text ∧ ofToml text = .ok settings) ∧
      settings.toToml = .ok (String.join (Field.all.map settings.lineText)) ∧
      ∀ fields : List Field, fields.Nodup →
        ofToml (String.join (fields.map settings.lineText)) =
          .ok (standard.withFields fields settings)) ∧
    (2 ^ 63 - 1 < settings.cap.toNat → settings.toToml = .error ⟨settings.cap⟩) ∧
    standard = ⟨.normalized, true, 3⟩ := by
  refine ⟨?_, ?_, rfl⟩
  · intro held
    have fits : settings.cap.toNat < Nat.pow 2 63 := Nat.lt_of_le_of_lt held (by decide)
    have written := settings.toToml_of_fits fits
    rw [tomlLines_eq] at written
    refine ⟨⟨_, written, ?_⟩, written,
      fun fields distinct => settings.ofToml_lines fits distinct⟩
    rw [settings.ofToml_lines fits (by decide), withFields_all]
  · intro large
    have beyond : ¬ settings.cap.toNat < Nat.pow 2 63 :=
      Nat.not_lt.mpr (Nat.le_trans (by decide) (Nat.succ_le_of_lt large))
    exact if_neg beyond

/-- The largest cap, first of two lines, with the truth value left out. -/
theorem ofToml_toToml_largest :
    let settings : Settings := ⟨.ignoredPath, false, 9223372036854775807⟩
    let larger : Settings := ⟨.absolute, true, 9223372036854775808⟩
    settings.cap.toNat ≤ 2 ^ 63 - 1 ∧ [Field.cap, .policy].Nodup ∧
      ofToml "max_reported_changes = 9223372036854775807\nstrategy = \"ignored_path\"\n" =
        .ok ⟨.ignoredPath, true, 9223372036854775807⟩ ∧
      2 ^ 63 - 1 < larger.cap.toNat ∧ larger.toToml = .error ⟨9223372036854775808⟩ := by
  intro settings larger
  have held : settings.cap.toNat ≤ 2 ^ 63 - 1 := by decide
  have distinct : [Field.cap, .policy].Nodup := by decide
  have beyond : 2 ^ 63 - 1 < larger.cap.toNat := by decide
  refine ⟨held, distinct, ?_, beyond, (ofToml_toToml larger).2.1 beyond⟩
  have text : String.join ([Field.cap, .policy].map settings.lineText) =
      "max_reported_changes = 9223372036854775807\nstrategy = \"ignored_path\"\n" := by
    have digits : Nat.toDigits 10 9223372036854775807 = "9223372036854775807".toList := rfl
    apply String.toList_inj.mp
    simp [toList_lineText, line, Field.key, Toml.Line.chars, settings, Policy.identifier,
      digits]
  rw [← text, ((ofToml_toToml settings).1 held).2.2 _ distinct]
  rfl

end Drift.Settings
