/-
**Python's operations on a JSON value.**

Each of them is defined on every value, with the exception it raises on the shapes it does not take:
`item` is `value[key]`, `getOr` is `value.get(key, default)`, `itemsOf` is `value.items()`, `iterate` is
what a loop goes through, `intOf` and `floatOf` are `int()` and `float()`, `eq` is `==` and `isTruthy` is
what a condition tests. What the conversions raise is a `KeyError`, a `TypeError` or a `ValueError`, and
an `OverflowError` where a number is too large for the other kind (`classifies_intOf`,
`classifies_floatOf`).
-/

import Opendps.Lib.Double
import Opendps.Lib.Outcome
import Opendps.Lib.Repr

namespace Opendps.Lib.Json

/-! ### Subscripts and loops -/

/-- `value[key]`. -/
def item (value : Json) (key : String) : Except PyError Json :=
  match value with
  | obj items =>
    match items.lookup key with
    | some found => .ok found
    | none => .error (.keyError key)
  | str _ => .error (.typeError "string indices must be integers, not 'str'")
  | arr _ => .error (.typeError "list indices must be integers or slices, not str")
  | _ => .error (.typeError ("'" ++ value.typeName ++ "' object is not subscriptable"))

/-- `value.get(key, default)`. -/
def getOr (value : Json) (key : String) (default : Json) : Except PyError Json :=
  match value with
  | obj items => .ok ((items.lookup key).getD default)
  | _ => .error (.attributeError ("'" ++ value.typeName ++ "' object has no attribute 'get'"))

/-- What has an item has `get`. -/
theorem getOr_of_item (other : String) (default : Json) {value found : Json} {key : String}
    (present : value.item key = .ok found) :
    value.getOr other default = .ok ((value.get? other).getD default) := by
  cases value with
  | obj items => rfl
  | _ => cases present

theorem getOr_object {items : List (String × Json)} (nodup : (items.map Prod.fst).Nodup) {key : String}
    {value : Json} (member : (key, value) ∈ items) (default : Json) :
    (object items).getOr key default = .ok value := by
  have found : (object items).get? key = some value := get?_object nodup member
  rw [object, get?] at found
  rw [object, getOr, found, Option.getD_some]

theorem getOr_object_of_not_mem {items : List (String × Json)} {key : String}
    (absent : key ∉ items.map Prod.fst) (default : Json) :
    (object items).getOr key default = .ok default := by
  have missing : (object items).get? key = none := get?_object_of_not_mem absent
  rw [object, get?] at missing
  rw [object, getOr, missing, Option.getD_none]

theorem getOr_ofFields {fields : List (String × Option Json)} (nodup : (fields.map Prod.fst).Nodup)
    {key : String} {value : Option Json} (member : (key, value) ∈ fields) (default : Json) :
    (ofFields fields).getOr key default = .ok (value.getD default) := by
  have found : (ofFields fields).get? key = value := get?_ofFields nodup member
  rw [ofFields, object, get?] at found
  rw [ofFields, object, getOr, found]

/-- `value.items()`. -/
def itemsOf : Json → Except PyError (List (String × Json))
  | obj items => .ok items
  | value => .error (.attributeError ("'" ++ value.typeName ++ "' object has no attribute 'items'"))

/-- The values of `for element in value`. -/
def iterate : Json → Except PyError (List Json)
  | arr elements => .ok elements
  | str text => .ok (text.toList.map fun c => str (String.singleton c))
  | obj items => .ok (items.map fun entry => str entry.1)
  | value => .error (.typeError ("'" ++ value.typeName ++ "' object is not iterable"))

/-- What a lookup under a list or a dictionary raises. -/
def unhashable (value : Json) : PyError := .typeError ("unhashable type: '" ++ value.typeName ++ "'")

/-! ### Conversions -/

/-- `int(value)`. -/
def intOf : Json → Except PyError ℤ
  | int value => .ok value
  | bool value => .ok (if value then 1 else 0)
  | float (.finite value) => .ok (truncate value)
  | float .nan => .error (.valueError "cannot convert float NaN to integer")
  | float _ => .error (.overflowError "cannot convert float infinity to integer")
  | str text => intOfStr text
  | value => .error (.typeError ("int() argument must be a string, a bytes-like object " ++
      "or a real number, not '" ++ value.typeName ++ "'"))

/-- `float(value)`. -/
def floatOf : Json → Except PyError PyFloat
  | int value => PyFloat.ofInt value
  | bool value => .ok (.finite (if value then 1 else 0))
  | float value => .ok value
  | str text => floatOfStr text
  | value => .error (.typeError ("float() argument must be a string or a real number, not '" ++
      value.typeName ++ "'"))

/-! ### Equality -/

/-- The number a value stands for in a comparison. -/
def number? : Json → Option PyFloat
  | bool value => some (.finite (if value then 1 else 0))
  | int value => some (.finite value)
  | float value => some value
  | _ => none

mutual

/-- Equality inside a list or a dictionary, where a NaN equals itself: a document has one NaN object. -/
def same : Json → Json → Bool
  | null, null => true
  | str text, str other => text == other
  | arr elements, arr others => sameAll elements others
  | obj items, obj others => items.length == others.length && sameItems items others
  | value, other =>
    match value.number?, other.number? with
    | some first, some second => first == second
    | _, _ => false

def sameAll : List Json → List Json → Bool
  | [], [] => true
  | value :: rest, other :: others => same value other && sameAll rest others
  | _, _ => false

def sameItems : List (String × Json) → List (String × Json) → Bool
  | [], _ => true
  | (key, value) :: rest, others =>
    (match others.lookup key with
      | some other => same value other
      | none => false) && sameItems rest others

end

def isNan : Json → Bool
  | float .nan => true
  | _ => false

/-- `value == other`. -/
def eq (value other : Json) : Bool := !value.isNan && !other.isNan && same value other

theorem eq_str_iff {text : String} {other : Json} : (str text).eq other = true ↔ other = str text := by
  cases other with
  | str second =>
    have compares : (str text).eq (str second) = (text == second) := by simp [eq, isNan, same]
    rw [compares, beq_iff_eq, str.injEq]
    exact eq_comm
  | _ => simp [eq, isNan, same, number?]

/-! ### Truth -/

/-- Whether a value counts as true in a condition. -/
def isTruthy : Json → Bool
  | null => false
  | bool value => value
  | int value => value != 0
  | float value => value != .finite 0
  | str text => text != ""
  | arr elements => !elements.isEmpty
  | obj items => !items.isEmpty

/-! ### What they raise -/

/-- What `except (KeyError, TypeError, ValueError)` catches. -/
def isRefusal : PyError → Bool
  | .keyError _ | .typeError _ | .valueError _ => true
  | _ => false

theorem item_eq_ok_iff {value found : Json} {key : String} :
    value.item key = .ok found ↔ value.get? key = some found := by
  cases value with
  | obj items =>
    rw [item, get?]
    cases items.lookup key <;> simp
  | _ => simp [item, get?]

theorem item_object {items : List (String × Json)} (nodup : (items.map Prod.fst).Nodup) {key : String}
    {value : Json} (member : (key, value) ∈ items) : (object items).item key = .ok value :=
  item_eq_ok_iff.mpr (get?_object nodup member)

theorem classifies_item (value : Json) (key : String) :
    Classifies isRefusal (∃ found, value.get? key = some found) False (value.item key) := by
  refine ⟨fun ⟨found, present⟩ => ⟨found, item_eq_ok_iff.mpr present⟩, False.elim, fun absent _ => ?_⟩
  cases value with
  | obj items =>
    have missing : items.lookup key = none :=
      Option.eq_none_iff_forall_ne_some.mpr fun found present => absent ⟨found, present⟩
    exact ⟨.keyError key, by rw [item, missing], rfl⟩
  | _ => exact ⟨.typeError _, rfl, rfl⟩

theorem classifies_iterate (value : Json) :
    Classifies isRefusal (∃ elements, value.iterate = .ok elements) False value.iterate := by
  refine ⟨id, False.elim, fun fails _ => ?_⟩
  cases value with
  | arr elements => exact absurd ⟨_, rfl⟩ fails
  | str text => exact absurd ⟨_, rfl⟩ fails
  | obj items => exact absurd ⟨_, rfl⟩ fails
  | _ => exact ⟨.typeError _, rfl, rfl⟩

/-- An infinity. -/
def IsInfinite (value : Json) : Prop := value = float .posInf ∨ value = float .negInf

/-- An integer that no double is near. -/
def IsHuge (value : Json) : Prop := ∃ number, value = int number ∧ ¬ PyFloat.InRange number

theorem classifies_intOf (value : Json) :
    Classifies isRefusal (∃ number, value.intOf = .ok number) value.IsInfinite value.intOf := by
  refine ⟨id, ?_, fun fails harmless => ?_⟩
  · rintro (rfl | rfl) <;> exact ⟨_, rfl, rfl⟩
  · cases value with
    | int number => exact absurd ⟨_, rfl⟩ fails
    | bool flag => exact absurd ⟨_, rfl⟩ fails
    | float number =>
      cases number with
      | finite number => exact absurd ⟨_, rfl⟩ fails
      | posInf => exact absurd (.inl rfl) harmless
      | negInf => exact absurd (.inr rfl) harmless
      | nan => exact ⟨_, rfl, rfl⟩
    | str text =>
      cases read : intOfStr text with
      | ok number => exact absurd ⟨number, read⟩ fails
      | error exc =>
        obtain ⟨message, rfl⟩ := intOfStr_refuses read
        exact ⟨_, read, rfl⟩
    | _ => exact ⟨_, rfl, rfl⟩

theorem classifies_floatOf (value : Json) :
    Classifies isRefusal (∃ number, value.floatOf = .ok number) value.IsHuge value.floatOf := by
  refine ⟨id, ?_, fun fails harmless => ?_⟩
  · rintro ⟨number, rfl, outOfRange⟩
    exact ⟨_, (PyFloat.ofInt_eq number).trans (if_neg outOfRange), rfl⟩
  · cases value with
    | int number =>
      have inRange : PyFloat.InRange number := by
        by_contra outOfRange
        exact harmless ⟨number, rfl, outOfRange⟩
      exact absurd ⟨_, (PyFloat.ofInt_eq number).trans (if_pos inRange)⟩ fails
    | bool flag => exact absurd ⟨_, rfl⟩ fails
    | float number => exact absurd ⟨_, rfl⟩ fails
    | str text =>
      cases read : floatOfStr text with
      | ok number => exact absurd ⟨number, read⟩ fails
      | error exc =>
        obtain ⟨message, rfl⟩ := floatOfStr_refuses read
        exact ⟨_, read, rfl⟩
    | _ => exact ⟨_, rfl, rfl⟩

end Opendps.Lib.Json
