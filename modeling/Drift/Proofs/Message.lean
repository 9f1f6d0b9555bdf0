import Drift.Change

/-!
# Messages

The message about a change ends with what happened, and no ending of one kind of
change is also that of another kind. Under one title a message is therefore read
back from its end: first the kind, then the path, whatever characters the title
and the path are made of.
-/

namespace Drift

namespace Alteration.Kind

/-- The characters of a message behind the path. -/
def ending (kind : Kind) : List Char :=
  " ".toList ++ kind.predicate.toList ++ ".".toList

/-- The letter by which the endings differ, the fourth one from the end. -/
def letter : Kind → Char
  | added => 'd'
  | removed => 'v'
  | modified => 'g'

theorem letter_inj {kind other : Kind} (same : kind.letter = other.letter) : kind = other := by
  cases kind <;> cases other <;> first | rfl | cases same

theorem getElem?_reverse_append_ending (before : List Char) (kind : Kind) :
    (before ++ kind.ending).reverse[3]? = some kind.letter := by
  rw [List.reverse_append]
  cases kind <;> rfl

/-- Whatever comes before, the ending tells the kind. -/
theorem append_ending_inj {left right : List Char} {kind other : Kind} :
    left ++ kind.ending = right ++ other.ending ↔ left = right ∧ kind = other := by
  constructor
  · intro same
    have letters := getElem?_reverse_append_ending left kind
    rw [same, getElem?_reverse_append_ending, Option.some.injEq] at letters
    obtain rfl := letter_inj letters
    exact ⟨List.append_cancel_right same, rfl⟩
  · rintro ⟨rfl, rfl⟩
    rfl

end Alteration.Kind

namespace Change

theorem toList_message (change : Change) :
    change.message.toList =
      change.title.toList ++ " file ".toList ++ change.path.toList ++
        change.alteration.kind.ending := by
  have joined : change.message = change.title ++ " file " ++ change.path ++ " " ++
      change.alteration.describe ++ "." := rfl
  rw [joined, Alteration.describe, Alteration.Kind.ending]
  simp only [String.toList_append, List.append_assoc]

/-- Under one title, a message tells the kind and the path of its change. -/
theorem message_inj {change other : Change} (sameTitle : change.title = other.title) :
    change.message = other.message ↔
      change.alteration.kind = other.alteration.kind ∧ change.path = other.path := by
  rw [← String.toList_inj, toList_message, toList_message, Alteration.Kind.append_ending_inj,
    sameTitle, List.append_right_inj, String.toList_inj]
  exact and_comm

end Change

end Drift
