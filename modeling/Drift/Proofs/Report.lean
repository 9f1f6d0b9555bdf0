import Drift.Proofs.Observer.Budget
import Drift.Proofs.Reconcile.PathOrder
import Drift.Proofs.Reconcile.PrefixCut
import Drift.Report

/-!
# Capped reports

A report takes down the changes of a comparison under the budget of its settings.
Since taking down never stops of itself, the budget alone decides where the report
ends, and its flag is up exactly if the budget was used up by changes that there
were.
-/

namespace Drift

namespace Observer

variable {σ : Type u}

theorem passOver_cons (observer : Observer σ) (state : σ) (change : Change)
    (rest : List Change) :
    observer.passOver state (change :: rest) =
      if (observer.observe state change).1 then
        observer.passOver (observer.observe state change).2 rest
      else
        (false, (observer.observe state change).2) := by
  rw [passOver]
  rcases observer.observe state change with ⟨_ | _, next⟩ <;> rfl

/-- An observer that wants more after every change. -/
def Tireless (observer : Observer σ) : Prop :=
  ∀ state change, (observer.observe state change).1 = true

theorem tireless_recording : recording.Tireless := fun _ _ => rfl

theorem after_recording (messages : Array String) (changes : List Change) :
    recording.after messages changes = messages ++ (changes.map Change.message).toArray := by
  induction changes generalizing messages with
  | nil => simp
  | cons change rest ih =>
      rw [after_cons, ih]
      simp [recording]

/-- What a pass over some changes comes to under a budget, if the inner observer
never wants to stop. -/
theorem passOver_limiting {inner : Observer σ} (tireless : inner.Tireless) (held : Limited σ)
    (changes : List Change) :
    (inner.limiting.passOver held changes).1 =
        decide (changes = [] ∨ changes.length < held.remaining.toNat) ∧
      (inner.limiting.passOver held changes).2.inner =
        inner.after held.inner (changes.take held.remaining.toNat) ∧
      (inner.limiting.passOver held changes).2.saturated =
        (held.saturated || !(inner.limiting.passOver held changes).1) := by
  induction changes generalizing held with
  | nil => simp [passOver]
  | cons change rest ih =>
      have wanted : (inner.limiting.observe held change).1 =
          decide (1 < held.remaining.toNat) := by
        rw [fst_observe_limiting, tireless, Bool.and_true]
      rw [passOver_cons, wanted]
      by_cases more : 1 < held.remaining.toNat
      · obtain ⟨completed, reached, raised⟩ := ih (inner.limiting.observe held change).2
        rw [if_pos (decide_eq_true more)]
        refine ⟨?_, ?_, ?_⟩
        · rw [completed, remaining_observe_limiting, decide_eq_decide, List.length_cons]
          have budget : rest = [] → rest.length + 1 < held.remaining.toNat := by
            rintro rfl
            exact more
          grind
        · rw [reached, remaining_observe_limiting, inner_observe_limiting]
          cases budget : held.remaining.toNat with
          | zero => simp [budget] at more
          | succ left => simp
        · rw [raised, saturated_observe_limiting]
          grind
      · -- The budget was used up before, or it is now.
        have budget : held.remaining.toNat = 0 ∨ held.remaining.toNat = 1 := by omega
        rw [if_neg (by simpa using more)]
        rcases budget with spent | last
        · simp [spent]
        · simp [last, tireless held.inner change]

end Observer

namespace Settings

/-- Every change that settings ask for, whether a report has room for it or not. -/
def changes (settings : Settings) (current previous : Collection) (title : String) :
    List Change :=
  settings.policy.changes current previous title settings.includeAdded

/-- A comparison is one pass over its changes. -/
theorem compare_eq_passOver_changes {σ : Type u} (settings : Settings) (observer : Observer σ)
    (state : σ) (current previous : Collection) (title : String) :
    settings.policy.compare observer state current previous title settings.includeAdded =
      observer.passOver state (settings.changes current previous title) := by
  rw [changes, Policy.compare, Policy.delivery_eq_relay, Observer.run_relay,
    Policy.changes_eq_sequence]

end Settings

namespace Report

variable (settings : Settings) (title : String) (current previous : Collection)

/-- A report tells the first changes, as many as the cap allows, and its flag is up
if there were changes and they use the cap up. -/
theorem collect_eq :
    collect settings title current previous =
      let changes := settings.changes current previous title
      ⟨(changes.take settings.cap.toNat).map Change.message,
        decide (changes ≠ [] ∧ settings.cap.toNat ≤ changes.length)⟩ := by
  have pass := Observer.passOver_limiting Observer.tireless_recording (.start settings.cap #[])
    (settings.changes current previous title)
  rw [collect, Settings.compare_eq_passOver_changes]
  generalize Observer.recording.limiting.passOver (.start settings.cap #[])
    (settings.changes current previous title) = result at pass ⊢
  obtain ⟨completed, final⟩ := result
  obtain ⟨ended, reached, raised⟩ := pass
  dsimp only at ended reached raised ⊢
  congr 1
  · rw [reached, Observer.after_recording]
    simp [Limited.start]
  · rw [raised, ended, Limited.start, Bool.false_or, Bool.or_self, ← decide_not,
      decide_eq_decide, not_or, Nat.not_lt]

theorem saturated_eq_false_iff :
    (collect settings title current previous).saturated = false ↔
      settings.changes current previous title = [] ∨
        (settings.changes current previous title).length < settings.cap.toNat := by
  rw [congrArg saturated (collect_eq settings title current previous), decide_eq_false_iff_not,
    not_and_or, not_not, Nat.not_le]

/-- A report tells the first changes up to its cap, in order, and its flag is up
exactly if there were changes and they use the cap up. So it is complete without the
flag, a higher cap only adds messages at the end and never raises the flag, and a
report without messages and flag means that nothing changed. -/
theorem collect_capped :
    let changes := settings.changes current previous title
    let report := collect settings title current previous
    report.messages =
        (changes.take (min settings.cap.toNat changes.length)).map Change.message ∧
      (report.saturated = true ↔ changes ≠ [] ∧ settings.cap.toNat ≤ changes.length) ∧
      (report.saturated = false → report.messages = changes.map Change.message) ∧
      (∀ cap, settings.cap ≤ cap →
        let raised := collect { settings with cap } title current previous
        report.messages <+: raised.messages ∧
          (report.saturated = false → raised.saturated = false)) ∧
      (report.isEmpty = true ∧ report.saturated = false ↔ changes = []) := by
  intro changes report
  have told : report.messages = (changes.take settings.cap.toNat).map Change.message :=
    congrArg messages (collect_eq settings title current previous)
  have low : report.saturated = false ↔ changes = [] ∨ changes.length < settings.cap.toNat :=
    saturated_eq_false_iff settings title current previous
  refine ⟨?_, ?_, ?_, ?_, ?_⟩
  · rw [told, List.take_eq_take_iff.mpr]
    omega
  · rw [← Bool.not_eq_false, low, not_or, Nat.not_lt]
  · intro complete
    rw [told]
    rcases low.mp complete with none | room
    · rw [none, List.take_nil]
    · rw [List.take_of_length_le (Nat.le_of_lt room)]
  · intro cap higher raised
    have toldMore : raised.messages = (changes.take cap.toNat).map Change.message :=
      congrArg messages (collect_eq { settings with cap } title current previous)
    have still : raised.saturated = false ↔ changes = [] ∨ changes.length < cap.toNat :=
      saturated_eq_false_iff { settings with cap } title current previous
    have more := UInt64.le_iff_toNat_le.mp higher
    rw [told, toldMore, low, still]
    refine ⟨(List.take_prefix_take_left more).map Change.message, ?_⟩
    exact Or.imp_right fun room => Nat.lt_of_lt_of_le room more
  · rw [isEmpty, List.isEmpty_iff, low, told, List.map_eq_nil_iff, List.take_eq_nil_iff]
    constructor
    · rintro ⟨silent, none | room⟩
      · exact none
      · -- A cap with room for all changes is not zero.
        exact silent.resolve_left (Nat.ne_zero_of_lt room)
    · exact fun none => ⟨.inr none, .inl none⟩

/-- One file was replaced and one is new, under a cap of three that is raised to
five. -/
theorem collect_capped_raised :
    let file (path : String) (byte : UInt8) : Entry :=
      ⟨path, path, .regularFile, ⟨.replicate 32 byte, List.length_replicate⟩⟩
    let current : Collection := ⟨[file "/src/b" 3, file "/src/a" 4], by decide⟩
    let previous : Collection := ⟨[file "/src/a" 1], by decide⟩
    let settings : Settings := ⟨.absolute, true, 3⟩
    let report := collect settings "Sources" current previous
    let raised := collect { settings with cap := 5 } "Sources" current previous
    settings.cap ≤ 5 ∧ report.saturated = false ∧
      report.messages = ["Sources file /src/a has changed.",
        "Sources file /src/b has been added."] ∧
      report.messages <+: raised.messages ∧ raised.saturated = false := by
  intro file current previous settings report raised
  have changes : settings.changes current previous "Sources" =
      [⟨"Sources", "/src/a", "/src/a", .modified .regularFile .regularFile⟩,
        ⟨"Sources", "/src/b", "/src/b", .added .regularFile⟩] := by
    have arranged : ["/src/a", "/src/b"] = sorted Text.order current.paths := by
      apply Ascending.eq_sorted _ (.swap _ _ _)
      apply List.pairwise_pair.mpr
      rw [Text.order_eq]
      decide
    have nothing : (previous.paths.filter fun path => path ∉ current.paths) = [] := by decide
    rw [Settings.changes, Policy.changes_eq_sequence, Policy.sequence,
      Reconcile.ByPath.sequence_eq_outcome, Reconcile.ByPath.outcome, Reconcile.ByPath.walk,
      nothing, ← arranged, sorted_eq_nil_iff.mpr rfl]
    rfl
  have room : settings.cap ≤ 5 := by decide
  have low : report.saturated = false := by
    rw [saturated_eq_false_iff, changes]
    decide
  obtain ⟨-, -, complete, higher, -⟩ := collect_capped settings "Sources" current previous
  obtain ⟨begins, still⟩ := higher 5 room
  refine ⟨room, low, ?_, begins, still low⟩
  rw [complete low, changes]
  decide

end Report

end Drift
