import Drift.Sorting

/-!
# UTF-8 view of texts

Texts are ordered, measured and digested by their UTF-8 bytes. The view `utf8`
loses nothing, so the byte order is a linear order whose equality is equality
of texts.
-/

namespace Drift.Text

/-- The UTF-8 bytes of a text. -/
def utf8 (text : String) : List UInt8 :=
  text.toByteArray.data.toList

theorem utf8_inj {left right : String} : utf8 left = utf8 right ↔ left = right := by
  constructor
  · intro equal
    exact String.toByteArray_inj.mp (ByteArray.ext (Array.toList_inj.mp equal))
  · exact congrArg utf8

@[simp] theorem length_utf8 (text : String) : (utf8 text).length = text.utf8ByteSize :=
  rfl

/-- Compares two byte arrays from an index on; where one ends first, it is the
smaller. -/
def compareFrom (left right : ByteArray) (index : Nat) : Ordering :=
  if insideLeft : index < left.size then
    if insideRight : index < right.size then
      match compare left[index] right[index] with
      | .eq => compareFrom left right (index + 1)
      | different => different
    else .gt
  else if index < right.size then .lt
  else .eq
termination_by left.size - index

theorem drop_eq_cons (bytes : ByteArray) (index : Nat) (inside : index < bytes.size) :
    bytes.data.toList.drop index = bytes[index] :: bytes.data.toList.drop (index + 1) :=
  List.drop_eq_getElem_cons inside

theorem drop_eq_nil (bytes : ByteArray) (index : Nat) (outside : ¬ index < bytes.size) :
    bytes.data.toList.drop index = [] :=
  List.drop_eq_nil_of_le (Nat.le_of_not_lt outside)

theorem compareFrom_eq (left right : ByteArray) (index : Nat) :
    compareFrom left right index =
      compare (left.data.toList.drop index) (right.data.toList.drop index) := by
  fun_induction compareFrom left right index with
  | case1 index insideLeft insideRight equal ih =>
      rw [drop_eq_cons left index insideLeft, drop_eq_cons right index insideRight, ih]
      simp [List.compare_eq_compareLex, equal]
  | case2 index insideLeft insideRight unequal =>
      rw [drop_eq_cons left index insideLeft, drop_eq_cons right index insideRight]
      cases compared : compare left[index] right[index] <;>
        simp_all [List.compare_eq_compareLex]
  | case3 index insideLeft outsideRight =>
      rw [drop_eq_cons left index insideLeft, drop_eq_nil right index outsideRight]
      rfl
  | case4 index outsideLeft insideRight =>
      rw [drop_eq_nil left index outsideLeft, drop_eq_cons right index insideRight]
      rfl
  | case5 index outsideLeft outsideRight =>
      rw [drop_eq_nil left index outsideLeft, drop_eq_nil right index outsideRight]
      rfl

/-- Texts compare by their UTF-8 bytes, the first differing byte deciding. -/
def order (left right : String) : Ordering :=
  compareFrom left.toByteArray right.toByteArray 0

theorem order_eq : order = orderBy utf8 compare := by
  funext left right
  simp [order, compareFrom_eq, orderBy, utf8]

instance : Std.TransCmp order :=
  order_eq ▸ inferInstanceAs (Std.TransCmp (orderBy utf8 compare))

instance : Std.LawfulEqCmp order :=
  order_eq ▸ lawfulEqCmp_orderBy utf8_inj.mp

end Drift.Text
