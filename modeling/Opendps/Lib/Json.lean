/-
**JSON values, and the codec a program reads and writes them with.**

`Json` is the value a Python program holds after `json.loads` or before `json.dumps`. Objects are
built with `Json.object`, which orders the keys, so objects with the same items are equal values,
as dictionaries are. What the values look like as text is left to a `Codec`; `RoundTrips` is the one
fact about it that results use.
-/

import Opendps.Lib.Dict
import Opendps.Lib.Python
import Mathlib.Data.List.Sort
import Mathlib.Data.String.Basic

namespace Opendps.Lib

/-- A float: a finite one is kept as the rational it stands for. -/
inductive PyFloat where
  | finite (value : ℚ)
  | posInf
  | negInf
  | nan
  deriving DecidableEq, Repr

namespace PyFloat

/-- `first > second`: nothing is above or below a NaN. -/
def gt : PyFloat → PyFloat → Bool
  | .finite first, .finite second => decide (second < first)
  | .posInf, .finite _ => true
  | .posInf, .negInf => true
  | .finite _, .negInf => true
  | _, _ => false

/-- `float(value)` of an integer: the nearest double, ties to even; `OverflowError` beyond them. -/
def ofInt (value : ℤ) : Except PyError PyFloat :=
  let spacing : ℚ := 2 ^ (Nat.log2 value.natAbs - 52)
  let nearest := roundHalfEven (value / spacing) * spacing
  if 2 ^ 1024 ≤ |nearest| then .error (.overflowError "int too large to convert to float")
  else .ok (.finite nearest)

end PyFloat

inductive Json where
  | null
  | bool (value : Bool)
  | int (value : ℤ)
  | float (value : PyFloat)
  | str (text : String)
  | arr (elements : List Json)
  | obj (items : List (String × Json))

namespace Json

/-- An object with the given items, whose keys are distinct. -/
def object (items : List (String × Json)) : Json :=
  obj (items.insertionSort fun first second => first.1 ≤ second.1)

/-- `value.get(key)` of a dictionary; `none` when the key is missing or `value` is none. -/
def get? (value : Json) (key : String) : Option Json :=
  match value with
  | obj items => items.lookup key
  | _ => none

def isObject : Json → Bool
  | obj _ => true
  | _ => false

/-- The name Python gives the type of a value. -/
def typeName : Json → String
  | null => "NoneType"
  | bool _ => "bool"
  | int _ => "int"
  | float _ => "float"
  | str _ => "str"
  | arr _ => "list"
  | obj _ => "dict"

/-- A key of an object. -/
theorem get?_object {items : List (String × Json)} (nodup : (items.map Prod.fst).Nodup)
    {key : String} {value : Json} (member : (key, value) ∈ items) :
    (object items).get? key = some value := by
  have perm : (items.insertionSort fun first second => first.1 ≤ second.1).Perm items :=
    List.perm_insertionSort _ _
  have sorted : ((items.insertionSort fun first second => first.1 ≤ second.1).map
      Prod.fst).Nodup := (perm.map Prod.fst).nodup_iff.mpr nodup
  exact (Dict.lookup_eq_some_iff sorted).mpr (perm.mem_iff.mpr member)

/-- A key an object does not have. -/
theorem get?_object_of_not_mem {items : List (String × Json)} {key : String}
    (absent : key ∉ items.map Prod.fst) : (object items).get? key = none := by
  have perm : (items.insertionSort fun first second => first.1 ≤ second.1).Perm items :=
    List.perm_insertionSort _ _
  refine List.lookup_eq_none_iff.mpr fun item member => bne_iff_ne.mpr ?_
  rintro rfl
  exact absent (List.mem_map_of_mem (perm.mem_iff.mp member))

/-- The fields that have a value. -/
def present (fields : List (String × Option Json)) : List (String × Json) :=
  fields.filterMap fun field => field.2.map (Prod.mk field.1)

/-- An object of the fields that have a value. -/
def ofFields (fields : List (String × Option Json)) : Json := object (present fields)

theorem mem_present {fields : List (String × Option Json)} {item : String × Json} :
    item ∈ present fields ↔ (item.1, some item.2) ∈ fields := by
  simp only [present, List.mem_filterMap, Option.map_eq_some_iff]
  constructor
  · rintro ⟨⟨_, _⟩, inside, _, rfl, rfl⟩
    exact inside
  · exact fun inside => ⟨_, inside, _, rfl, rfl⟩

theorem map_fst_present (fields : List (String × Option Json)) :
    ((present fields).map Prod.fst).Sublist (fields.map Prod.fst) := by
  induction fields with
  | nil => exact .slnil
  | cons field rest ih =>
    obtain ⟨key, value⟩ := field
    cases value with
    | none => exact ih.cons key
    | some value => exact ih.cons_cons key

theorem get?_ofFields {fields : List (String × Option Json)} (nodup : (fields.map Prod.fst).Nodup)
    {key : String} {value : Option Json} (member : (key, value) ∈ fields) :
    (ofFields fields).get? key = value := by
  have keys : ((present fields).map Prod.fst).Nodup := nodup.sublist (map_fst_present fields)
  cases value with
  | some found => exact get?_object keys (mem_present.mpr member)
  | none =>
    refine get?_object_of_not_mem fun inside => ?_
    obtain ⟨item, listed, rfl⟩ := List.mem_map.mp inside
    cases List.inj_on_of_nodup_map nodup member (mem_present.mp listed) rfl

end Json

/-- How values are written and read: the encoder, the parser, and `repr`, which `str()` falls back
to for what is not a string. -/
structure Codec where
  dumps : Json → String
  loads : String → Except PyError Json
  repr : Json → String

namespace Codec

/-- `str(value)`. -/
def str (codec : Codec) : Json → String
  | .str text => text
  | value => codec.repr value

/-- Reading back what was written gives the value. -/
def RoundTrips (codec : Codec) (value : Json) : Prop := codec.loads (codec.dumps value) = .ok value

end Codec

end Opendps.Lib
