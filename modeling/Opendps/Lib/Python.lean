/-
**The part of Python the sources rely on.**

* `PyError` — the built-in exceptions a modelled function can raise, with the text it carries.
* `isSpace`, `strip`, `splitlines` — `str.isspace` on one character (the Unicode whitespace of CPython),
  `str.strip()` and `str.splitlines()`, on the list of characters of a string.
* `formatFixed0`, `formatFixed1` — `format(x, ".0f")` and `format(x, ".1f")` of an exact rational:
  rounding half to even.
* `sortedBy` — `sorted(items, key=...)`, which keeps the order of items with equal keys.
* `isAsciiDigit`, `pyInt` — the ASCII decimal digits, and `int()` of a text of them.
* `toString_nat_injective` — different numbers are written differently.
* `truncate` — `int()` of a number: towards zero.
* `reprText`, `reprList`, `reprSet` — `repr()` of a string, and of a list or a set whose elements are
  written.
-/

import Mathlib.Data.List.Sort
import Mathlib.Data.List.TakeWhile
import Mathlib.Data.Rat.Floor
import Mathlib.Algebra.Order.Floor.Ring

namespace Opendps.Lib

/-- Built-in exceptions. -/
inductive PyError where
  | keyError (key : String)
  | indexError (message : String)
  | valueError (message : String)
  | typeError (message : String)
  | attributeError (message : String)
  | jsonDecodeError (message : String)
  | overflowError (message : String)
  | recursionError (message : String)
  | zeroDivisionError
  deriving DecidableEq, Repr

/-- An outcome that has a value is that value. -/
theorem ok_of_toOption {ε α : Type} {outcome : Except ε α} {value : α}
    (same : outcome.toOption = some value) : outcome = .ok value := by
  cases outcome with
  | error exc => cases same
  | ok other => exact congrArg Except.ok (Option.some.inj same)

/-- The characters `str.isspace` accepts. -/
def isSpace (c : Char) : Bool :=
  let code := c.toNat
  (9 ≤ code && code ≤ 13) || (28 ≤ code && code ≤ 32) || code == 0x85 || code == 0xA0 ||
    code == 0x1680 || (0x2000 ≤ code && code ≤ 0x200A) || code == 0x2028 || code == 0x2029 ||
    code == 0x202F || code == 0x205F || code == 0x3000

/-- Remove the whitespace at both ends. -/
def strip (text : List Char) : List Char :=
  ((text.dropWhile isSpace).reverse.dropWhile isSpace).reverse

/-- The characters `str.splitlines` breaks a text at. -/
def isLineBreak (c : Char) : Bool :=
  let code := c.toNat
  (10 ≤ code && code ≤ 13) || (28 ≤ code && code ≤ 30) || code == 0x85 || code == 0x2028 ||
    code == 0x2029

/-- `text.splitlines()`. -/
def splitlines : List Char → List (List Char)
  | [] => []
  | '\r' :: '\n' :: rest => [] :: splitlines rest
  | c :: rest =>
    if isLineBreak c then [] :: splitlines rest
    else match splitlines rest with
      | [] => [[c]]
      | line :: lines => (c :: line) :: lines

/-- The integer nearest to a rational; a tie goes to the even one. -/
def roundHalfEven (q : ℚ) : ℤ :=
  let low := ⌊q⌋
  let rest := q - low
  if rest < 1 / 2 then low
  else if 1 / 2 < rest then low + 1
  else if low % 2 = 0 then low else low + 1

/-- Fixed-point text without decimals; a negative number that rounds to zero keeps its sign. -/
def formatFixed0 (q : ℚ) : String :=
  if q < 0 ∧ roundHalfEven q = 0 then "-0" else toString (roundHalfEven q)

/-- Fixed-point text with one decimal. -/
def formatFixed1 (q : ℚ) : String :=
  let tenths := roundHalfEven (|q| * 10)
  (if q < 0 then "-" else "") ++ toString (tenths / 10) ++ "." ++ toString (tenths % 10)

/-! ### Sorting by a key -/

section Sorting

variable {α κ : Type*} [LinearOrder κ]

/-- Sort by a key; the sort is stable. -/
def sortedBy (key : α → κ) (items : List α) : List α :=
  items.insertionSort fun first second => key first ≤ key second

theorem sortedBy_perm (key : α → κ) (items : List α) : (sortedBy key items).Perm items :=
  List.perm_insertionSort _ _

theorem mem_sortedBy {key : α → κ} {items : List α} {item : α} :
    item ∈ sortedBy key items ↔ item ∈ items :=
  (sortedBy_perm key items).mem_iff

theorem pairwise_sortedBy (key : α → κ) (items : List α) :
    (sortedBy key items).Pairwise fun first second => key first ≤ key second := by
  have : Std.Total fun (first second : α) => key first ≤ key second :=
    ⟨fun first second => le_total (key first) (key second)⟩
  have : IsTrans α fun first second => key first ≤ key second := ⟨fun _ _ _ => le_trans⟩
  exact List.pairwise_insertionSort _ _

/-- When keys tell the items apart, the order they come in does not matter. -/
theorem sortedBy_congr {key : α → κ} {first second : List α} (perm : first.Perm second)
    (apart : ∀ a ∈ first, ∀ b ∈ first, key a = key b → a = b) :
    sortedBy key first = sortedBy key second := by
  have sorted : (sortedBy key first).Perm (sortedBy key second) :=
    (sortedBy_perm key first).trans (perm.trans (sortedBy_perm key second).symm)
  refine List.Perm.eq_of_pairwise (fun a b inFirst inSecond less more => ?_)
    (pairwise_sortedBy key first) (pairwise_sortedBy key second) sorted
  exact apart a (mem_sortedBy.mp inFirst) b (perm.mem_iff.mpr (mem_sortedBy.mp inSecond))
    (le_antisymm less more)

end Sorting

/-! ### Decimal texts -/

def isAsciiDigit (c : Char) : Bool := 48 ≤ c.toNat && c.toNat ≤ 57

/-- `int(token)` of ASCII digits. Longer texts than the interpreter's limit are refused. -/
def pyInt (token : List Char) : Except PyError ℕ :=
  if 4300 < token.length then
    .error (.valueError ("Exceeds the limit (4300 digits) for integer string conversion: value has "
      ++ toString token.length ++
      " digits; use sys.set_int_max_str_digits() to increase the limit"))
  else .ok (token.foldl (fun value c => 10 * value + (c.toNat - 48)) 0)

/-- Different numbers have different decimal texts. -/
theorem toString_nat_injective : Function.Injective (toString : ℕ → String) := by
  intro first second same
  have digits : Nat.toDigits 10 first = Nat.toDigits 10 second := by
    rw [Nat.toString_eq_repr, Nat.toString_eq_repr] at same
    rw [← Nat.toList_repr, ← Nat.toList_repr, same]
  rw [← @Nat.ofDigitChars_ten_toDigits first, digits, Nat.ofDigitChars_ten_toDigits]

theorem isAsciiDigit_of_mem_toDigits {n : ℕ} {c : Char} (member : c ∈ Nat.toDigits 10 n) :
    isAsciiDigit c = true := by
  have digit := Nat.isDigit_of_mem_toDigits (by decide) (by decide) member
  rw [Char.isDigit, Bool.and_eq_true, decide_eq_true_iff, decide_eq_true_iff] at digit
  rw [isAsciiDigit, Bool.and_eq_true, decide_eq_true_iff, decide_eq_true_iff]
  exact ⟨UInt32.le_iff_toNat_le.mp digit.1, UInt32.le_iff_toNat_le.mp digit.2⟩

theorem toDigits_ne_nil (n : ℕ) : Nat.toDigits 10 n ≠ [] := by
  intro none
  have length := @Nat.length_repr_pos n
  rw [← String.length_toList, Nat.toList_repr, none] at length
  exact absurd length (by decide)

/-- No sign and no blank is a digit. -/
theorem not_isSpace_of_isAsciiDigit {c : Char} (digit : isAsciiDigit c = true) :
    isSpace c = false := by
  rw [isAsciiDigit, Bool.and_eq_true, decide_eq_true_iff, decide_eq_true_iff] at digit
  simp only [isSpace]
  generalize c.toNat = code at digit
  simp only [Bool.or_eq_false_iff, Bool.and_eq_false_iff, decide_eq_false_iff_not, beq_eq_false_iff_ne]
  omega

theorem dropWhile_isSpace_of_solid {text : List Char} (solid : ∀ c ∈ text, isSpace c = false) :
    text.dropWhile isSpace = text := by
  cases text with
  | nil => rfl
  | cons first rest => rw [List.dropWhile_cons_of_neg (by simp [solid first])]

/-- Stripping takes away the blanks around a text without blanks. -/
theorem strip_around {front solidText back : List Char} (blankFront : ∀ c ∈ front, isSpace c = true)
    (solid : ∀ c ∈ solidText, isSpace c = false) (blankBack : ∀ c ∈ back, isSpace c = true) :
    strip (front ++ solidText ++ back) = solidText := by
  rw [strip, List.append_assoc, List.dropWhile_append_of_pos blankFront]
  cases solidText with
  | nil => rw [List.nil_append, List.dropWhile_eq_nil_iff.mpr blankBack]; rfl
  | cons first rest =>
    have ends : ((first :: rest) ++ back).dropWhile isSpace = (first :: rest) ++ back := by
      rw [List.cons_append, List.dropWhile_cons_of_neg (by simp [solid first])]
    have solidReverse : ∀ c ∈ (first :: rest).reverse, isSpace c = false := fun c member =>
      solid c (List.mem_reverse.mp member)
    rw [ends, List.reverse_append,
      List.dropWhile_append_of_pos fun c member => blankBack c (List.mem_reverse.mp member),
      dropWhile_isSpace_of_solid solidReverse, List.reverse_reverse]

/-- A text without blanks is its own stripped text. -/
theorem strip_eq_self {text : List Char} (solid : ∀ c ∈ text, isSpace c = false) :
    strip text = text := by
  have around := @strip_around [] text [] (by simp) solid (by simp)
  rwa [List.nil_append, List.append_nil] at around

/-- What stripping takes away are blanks around the rest. -/
theorem exists_strip (text : List Char) :
    ∃ front back, text = front ++ strip text ++ back ∧ (∀ c ∈ front, isSpace c = true) ∧
      ∀ c ∈ back, isSpace c = true := by
  refine ⟨text.takeWhile isSpace, ((text.dropWhile isSpace).reverse.takeWhile isSpace).reverse, ?_,
    fun c => List.mem_takeWhile_imp, fun c member => List.mem_takeWhile_imp (List.mem_reverse.mp member)⟩
  rw [strip, List.append_assoc, ← List.reverse_append, List.takeWhile_append_dropWhile,
    List.reverse_reverse, List.takeWhile_append_dropWhile]

/-- A text with nothing left is all blanks. -/
theorem isSpace_of_strip_eq_nil {text : List Char} (blank : strip text = []) :
    ∀ c ∈ text, isSpace c = true := by
  obtain ⟨front, back, split, blankFront, blankBack⟩ := exists_strip text
  intro c member
  rw [split, blank, List.append_nil, List.mem_append] at member
  exact member.elim (blankFront c) (blankBack c)

/-- `int(x)` of a number drops its fraction. -/
def truncate (q : ℚ) : ℤ := if q < 0 then ⌈q⌉ else ⌊q⌋

/-! ### What `repr` writes -/

def singleQuote : Char := Char.ofNat 39

def doubleQuote : Char := Char.ofNat 34

/-- A character between quotes. Beyond Latin-1 the table of what is printable is left out: every
character there is written as it is. -/
def reprChar (quote c : Char) : List Char :=
  if c = quote ∨ c = '\\' then ['\\', c]
  else if c = '\t' then ['\\', 't']
  else if c = '\n' then ['\\', 'n']
  else if c = '\r' then ['\\', 'r']
  else if c.toNat < 32 ∨ (127 ≤ c.toNat ∧ c.toNat ≤ 160) ∨ c.toNat = 173 then
    '\\' :: 'x' :: (if c.toNat < 16 then ['0'] else []) ++ Nat.toDigits 16 c.toNat
  else [c]

/-- `repr(text)`: in single quotes, unless these occur in it and double quotes do not. -/
def reprText (text : String) : String :=
  let quote := if text.toList.contains singleQuote && !text.toList.contains doubleQuote then doubleQuote
    else singleQuote
  String.ofList (quote :: text.toList.flatMap (reprChar quote) ++ [quote])

/-- A list of what its elements look like. -/
def reprList (elements : List String) : String := "[" ++ String.intercalate ", " elements ++ "]"

/-- A set that is not empty. -/
def reprSet (elements : List String) : String := "\x7b" ++ String.intercalate ", " elements ++ "\x7d"

example : reprList (["it's", "a\ttab"].map reprText) = "[\"it's\", 'a\\ttab']" := by decide +kernel

end Opendps.Lib
