/-
**How `repr` writes a number and a JSON value.**

Error messages show the values they complain about.

* `PyFloat.repr` — `repr(value)` of a float: the fewest digits that read back as the double nearest to
  the value, with an exponent for very large and very small ones.
* `Json.repr` — `repr(value)` of a JSON value.
* `Json.formatted` — what an f-string shows of a value: a string is itself.
-/

import Opendps.Lib.Numerals
import Mathlib.Data.List.DropRight

namespace Opendps.Lib

/-! ### Floats -/

namespace PyFloat

/-- The digits of a positive double, no more than it takes to read it back, and the place of the point
behind the first of them. Of the numbers with so many digits the nearest is tried first, then the two
around the double; seventeen digits are always enough. -/
def shortest (double : ℚ) : List Char × ℤ :=
  let place := Int.log 10 double
  let tries : List (ℤ × ℤ) := (List.range 17).flatMap fun count =>
    let scaled := double / 10 ^ (place - count)
    [roundHalfEven scaled, ⌊scaled⌋, ⌈scaled⌉].map fun digits => (digits, place - count)
  let (digits, power) := (tries.find? fun item =>
    decide (ofRat (item.1 * 10 ^ item.2) = finite double)).getD (0, 0)
  let text := (toString digits).toList
  (text.rdropWhile fun c => c == '0', power + text.length)

/-- Plain notation where the point is not far from the digits. -/
def reprPositive (double : ℚ) : List Char :=
  let (digits, point) := shortest double
  let zeros (count : ℤ) : List Char := List.replicate count.toNat '0'
  if point ≤ -4 ∨ 16 < point then
    let power := Nat.toDigits 10 (point - 1).natAbs
    digits.take 1 ++ (if digits.length = 1 then [] else '.' :: digits.drop 1) ++ ['e'] ++
      [if point - 1 < 0 then '-' else '+'] ++ (if power.length = 1 then '0' :: power else power)
  else if point ≤ 0 then '0' :: '.' :: zeros (-point) ++ digits
  else digits.take point.toNat ++ zeros (point - digits.length) ++ ['.'] ++
    (if digits.length ≤ point then ['0'] else digits.drop point.toNat)

/-- The double a number stands for. -/
def toDouble : PyFloat → PyFloat
  | .finite value => ofRat value
  | value => value

/-- `repr(value)`. -/
def repr (value : PyFloat) : String :=
  match value.toDouble with
  | .finite double =>
    if double = 0 then "0.0"
    else (if double < 0 then "-" else "") ++ String.ofList (reprPositive |double|)
  | .posInf => "inf"
  | .negInf => "-inf"
  | .nan => "nan"

example : [1 / 10, 1000, 12345678901234567890, -1 / 100000].map (repr ∘ finite) =
    ["0.1", "1000.0", "1.2345678901234567e+19", "-1e-05"] := by decide +kernel

end PyFloat

/-! ### JSON values -/

namespace Json

mutual

/-- `repr(value)`; the items of a dictionary in the order they are kept in. -/
def repr : Json → String
  | .null => "None"
  | .bool value => if value then "True" else "False"
  | .int value => toString value
  | .float value => value.repr
  | .str text => reprText text
  | .arr elements => reprList (reprElements elements)
  | .obj items => "\x7b" ++ String.intercalate ", " (reprItems items) ++ "\x7d"

def reprElements : List Json → List String
  | [] => []
  | element :: rest => repr element :: reprElements rest

def reprItems : List (String × Json) → List String
  | [] => []
  | (key, value) :: rest => (reprText key ++ ": " ++ repr value) :: reprItems rest

end

/-- The value in an f-string. -/
def formatted : Json → String
  | .str text => text
  | value => value.repr

example : (obj [("a", arr [null, bool true, int 3]), ("b", str "it's")]).formatted =
    "\x7b'a': [None, True, 3], 'b': \"it's\"\x7d" := by decide +kernel

end Json

end Opendps.Lib
