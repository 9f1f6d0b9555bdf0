import Drift.Observer.Delivery

/-!
# Early stop

An observer may want no more after any change. Where a delivery comes to the
same as relaying a fixed list of changes, the observer's answers decide only
where that list is cut: `Cut` says what it is offered and what is left of it
afterwards, and `cut_relay` that every relayed list is cut in this way.
-/

namespace Drift.Observer

variable {σ : Type u}

/-- Offers changes one after another. -/
def relay (observer : Observer σ) (changes : List Change) : Delivery σ Unit :=
  observer.offerEach some changes

@[simp] theorem relay_nil (observer : Observer σ) : observer.relay [] = pure () := rfl

@[simp] theorem relay_cons (observer : Observer σ) (change : Change) (rest : List Change) :
    observer.relay (change :: rest) = (do observer.offer change; observer.relay rest) := rfl

theorem relay_append (observer : Observer σ) (first second : List Change) :
    observer.relay (first ++ second) = (do observer.relay first; observer.relay second) := by
  induction first with
  | nil => rfl
  | cons change rest ih =>
      rw [List.cons_append, relay_cons, relay_cons, ih]
      exact (Delivery.bind_assoc _ _ _).symm

theorem offerEach_eq_relay (observer : Observer σ) (change? : α → Option Change)
    (items : List α) :
    observer.offerEach change? items = observer.relay (items.filterMap change?) := by
  induction items with
  | nil => rfl
  | cons item rest ih =>
      rw [offerEach, List.filterMap_cons]
      cases change? item with
      | none => exact ih
      | some change => simp only [relay_cons, ih]

theorem offerEach_some_eq_relay (observer : Observer σ) (change : α → Change) (items : List α) :
    observer.offerEach (fun item => some (change item)) items =
      observer.relay (items.map change) := by
  rw [offerEach_eq_relay]
  exact congrArg observer.relay (congrFun List.filterMap_eq_map items)

/-- One pass over some changes, which ends with the first one after which the
observer wants no more: whether it took all of them, and its state. -/
def passOver (observer : Observer σ) : σ → List Change → Bool × σ
  | state, [] => (true, state)
  | state, change :: rest =>
      match observer.observe state change with
      | (true, next) => observer.passOver next rest
      | (false, next) => (false, next)

theorem run_relay (observer : Observer σ) (state : σ) (changes : List Change) :
    (observer.relay changes).run state = observer.passOver state changes := by
  induction changes generalizing state with
  | nil => rfl
  | cons change rest ih =>
      simp only [passOver, relay_cons, Delivery.run, Delivery.bind_apply, offer]
      cases observer.observe state change with
      | mk wanted next =>
          cases wanted with
          | false => rfl
          | true => exact ih next

/-- The state of an observer that was offered some changes, whatever it
answered. -/
def after (observer : Observer σ) (state : σ) (changes : List Change) : σ :=
  changes.foldl (fun state change => (observer.observe state change).2) state

/-- An observer that wants more after every one of some changes. -/
def Takes (observer : Observer σ) (state : σ) : List Change → Prop
  | [] => True
  | change :: rest =>
      (observer.observe state change).1 = true ∧
        observer.Takes (observer.observe state change).2 rest

/-- An observer's state and the changes it was offered so far. -/
def logging (observer : Observer σ) : Observer (σ × List Change) where
  observe state change :=
    let (wanted, next) := observer.observe state.1 change
    (wanted, next, state.2 ++ [change])

theorem after_logging (observer : Observer σ) (state : σ) (log changes : List Change) :
    observer.logging.after (state, log) changes =
      (observer.after state changes, log ++ changes) := by
  induction changes generalizing state log with
  | nil => simp [after]
  | cons change rest ih =>
      have next := ih (observer.observe state change).2 (log ++ [change])
      simpa [after, logging] using next

theorem takes_logging (observer : Observer σ) (state : σ) (log changes : List Change) :
    observer.logging.Takes (state, log) changes ↔ observer.Takes state changes := by
  induction changes generalizing state log with
  | nil => exact Iff.rfl
  | cons change rest ih =>
      have next := ih (observer.observe state change).2 (log ++ [change])
      simpa [Takes, logging] using fun _ => next

/-- Either an observer takes all of some changes, or there is a first one after
which it wants no more. -/
theorem takes_or_refuses (observer : Observer σ) (state : σ) (changes : List Change) :
    observer.Takes state changes ∨
      ∃ before last rest, changes = before ++ last :: rest ∧ observer.Takes state before ∧
        (observer.observe (observer.after state before) last).1 = false := by
  induction changes generalizing state with
  | nil => exact .inl True.intro
  | cons change rest ih =>
      cases wanted : (observer.observe state change).1 with
      | false => exact .inr ⟨[], change, rest, rfl, True.intro, wanted⟩
      | true =>
          rcases ih (observer.observe state change).2 with
            all | ⟨before, last, later, rfl, taken, stops⟩
          · exact .inl ⟨wanted, all⟩
          · exact .inr ⟨change :: before, last, later, rfl, ⟨wanted, taken⟩, stops⟩

/-- A refused change ends the matter: not all of what holds it is taken. -/
theorem not_takes_of_refused {observer : Observer σ} {state : σ} {before rest : List Change}
    {last : Change}
    (stops : (observer.observe (observer.after state before) last).1 = false) :
    ¬ observer.Takes state (before ++ last :: rest) := by
  induction before generalizing state with
  | nil =>
      rintro ⟨wanted, -⟩
      exact absurd (wanted.symm.trans stops) Bool.noConfusion
  | cons change before ih =>
      rintro ⟨-, later⟩
      exact ih stops later

theorem offer_of_wanted {observer : Observer σ} {state : σ} {change : Change}
    (wanted : (observer.observe state change).1 = true) :
    observer.offer change state = (some (), (observer.observe state change).2) := by
  rw [offer]
  rcases answer : observer.observe state change with ⟨_ | _, next⟩
  · simp [answer] at wanted
  · rfl

theorem offer_of_refused {observer : Observer σ} {state : σ} {change : Change}
    (stops : (observer.observe state change).1 = false) :
    observer.offer change state = (none, (observer.observe state change).2) := by
  rw [offer]
  rcases answer : observer.observe state change with ⟨_ | _, next⟩
  · rfl
  · simp [answer] at stops

/-- Changes that are taken are behind the observer. -/
theorem relay_append_apply {observer : Observer σ} {state : σ} {before : List Change}
    (taken : observer.Takes state before) (rest : List Change) :
    observer.relay (before ++ rest) state =
      observer.relay rest (observer.after state before) := by
  induction before generalizing state with
  | nil => rfl
  | cons change before ih =>
      obtain ⟨wanted, later⟩ := taken
      rw [List.cons_append, relay_cons, Delivery.bind_apply, offer_of_wanted wanted]
      exact ih later

theorem run_relay_of_takes {observer : Observer σ} {state : σ} {changes : List Change}
    (taken : observer.Takes state changes) :
    (observer.relay changes).run state = (true, observer.after state changes) := by
  have reached := relay_append_apply taken []
  rw [List.append_nil] at reached
  simp [Delivery.run, reached]

theorem run_relay_of_refused {observer : Observer σ} {state : σ} {before : List Change}
    {last : Change} (taken : observer.Takes state before)
    (stops : (observer.observe (observer.after state before) last).1 = false)
    (rest : List Change) :
    (observer.relay (before ++ last :: rest)).run state =
      (false, observer.after state (before ++ [last])) := by
  have reached := relay_append_apply taken (last :: rest)
  rw [relay_cons, Delivery.bind_apply, offer_of_refused stops] at reached
  simp [Delivery.run, reached, after]

theorem takes_collecting (seen : Array Change) (changes : List Change) :
    collecting.Takes seen changes := by
  induction changes generalizing seen with
  | nil => exact True.intro
  | cons change rest ih => exact ⟨rfl, ih (seen.push change)⟩

theorem run_relay_collecting (seen : Array Change) (changes : List Change) :
    (collecting.relay changes).run seen = (true, seen ++ changes.toArray) := by
  rw [run_relay_of_takes (takes_collecting seen changes)]
  simp [after, collecting]

theorem run_relay_detecting (changes : List Change) :
    (detecting.relay changes).run false = (changes.isEmpty, !changes.isEmpty) := by
  cases changes <;> rfl

/-- How an observer is served from a list of changes: it is offered an initial
part, in order, up to and including the first change after which it wants no
more, and nothing beyond. -/
structure Cut (observer : Observer σ) (state : σ) (changes offered : List Change)
    (completed : Bool) (final : σ) : Prop where
  initial : offered <+: changes
  final_eq : final = observer.after state offered
  completed_iff : completed = true ↔ observer.Takes state changes
  all_of_completed : completed = true → offered = changes
  refused_of_stopped : completed = false → ∃ before last, offered = before ++ [last] ∧
    observer.Takes state before ∧
    (observer.observe (observer.after state before) last).1 = false

/-- A relayed list of changes is cut where the observer first wants no more,
and exactly the part up to there is what the observer is called on. -/
theorem cut_relay (observer : Observer σ) (state : σ) (changes : List Change) :
    ∃ offered,
      observer.Cut state changes offered ((observer.relay changes).run state).1
        ((observer.relay changes).run state).2 ∧
      (observer.logging.relay changes).run (state, []) =
        (((observer.relay changes).run state).1, ((observer.relay changes).run state).2,
          offered) := by
  rcases observer.takes_or_refuses state changes with
    taken | ⟨before, last, rest, rfl, taken, stops⟩
  · refine ⟨changes, ?_, ?_⟩
    · rw [run_relay_of_takes taken]
      exact
        { initial := List.prefix_rfl
          final_eq := rfl
          completed_iff := ⟨fun _ => taken, fun _ => rfl⟩
          all_of_completed := fun _ => rfl
          refused_of_stopped := fun stopped => Bool.noConfusion stopped }
    · rw [run_relay_of_takes taken,
        run_relay_of_takes ((takes_logging observer state [] changes).mpr taken), after_logging]
      rfl
  · refine ⟨before ++ [last], ?_, ?_⟩
    · rw [run_relay_of_refused taken stops]
      exact
        { initial := ⟨rest, by simp⟩
          final_eq := rfl
          completed_iff :=
            ⟨fun completed => Bool.noConfusion completed,
              fun all => absurd all (not_takes_of_refused stops)⟩
          all_of_completed := fun completed => Bool.noConfusion completed
          refused_of_stopped := fun _ => ⟨before, last, rfl, taken, stops⟩ }
    · have logged :
          (observer.logging.observe (observer.logging.after (state, []) before) last).1 =
          false := by
        rw [after_logging]
        exact stops
      rw [run_relay_of_refused taken stops,
        run_relay_of_refused ((takes_logging observer state [] before).mpr taken) logged,
        after_logging]
      rfl

end Drift.Observer
