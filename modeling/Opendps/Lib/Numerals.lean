/-
**Texts as numbers.**

`intOfStr` and `floatOfStr` are `int()` and `float()` of any string: blanks around the number, a sign,
the decimal digits of every script, single underscores between digits, and for a float a fraction, an
exponent or one of the words. What is no number is refused with a `ValueError`, and so is an integer
above the interpreter's limit on digits (`intOfStr_refuses`, `floatOfStr_refuses`).

`intOfText` is `int()` without that limit. It reads back what `str()` writes (`intOfText_toString`).
-/

import Opendps.Lib.Json
import Mathlib.Data.Int.Log

namespace Opendps.Lib

/-! ### Digits -/

/-- The zeros of the scripts that have decimal digits; the other nine follow each of them. -/
def decimalZeros : List ℕ :=
  [0x30, 0x660, 0x6F0, 0x7C0, 0x966, 0x9E6, 0xA66, 0xAE6, 0xB66, 0xBE6, 0xC66, 0xCE6, 0xD66, 0xDE6,
    0xE50, 0xED0, 0xF20, 0x1040, 0x1090, 0x17E0, 0x1810, 0x1946, 0x19D0, 0x1A80, 0x1A90, 0x1B50,
    0x1BB0, 0x1C40, 0x1C50, 0xA620, 0xA8D0, 0xA900, 0xA9D0, 0xA9F0, 0xAA50, 0xABF0, 0xFF10, 0x104A0,
    0x10D30, 0x11066, 0x110F0, 0x11136, 0x111D0, 0x112F0, 0x11450, 0x114D0, 0x11650, 0x116C0, 0x11730,
    0x118E0, 0x11950, 0x11C50, 0x11D50, 0x11DA0, 0x16A60, 0x16AC0, 0x16B50, 0x1D7CE, 0x1D7D8, 0x1D7E2,
    0x1D7EC, 0x1D7F6, 0x1E140, 0x1E2F0, 0x1E950, 0x1FBF0]

/-- The value of a decimal digit. -/
def decimalDigit (c : Char) : Option ℕ :=
  (decimalZeros.find? fun first => decide (first ≤ c.toNat ∧ c.toNat < first + 10)).map (c.toNat - ·)

/-- The digits at the start of a text and what follows them. An underscore between two digits is part of
the run. -/
def digitRun : List Char → List ℕ × List Char
  | [] => ([], [])
  | c :: '_' :: rest =>
    match decimalDigit c, digitRun rest with
    | none, _ => ([], c :: '_' :: rest)
    | some digit, ([], _) => ([digit], '_' :: rest)
    | some digit, (digits, after) => (digit :: digits, after)
  | c :: rest =>
    match decimalDigit c, digitRun rest with
    | none, _ => ([], c :: rest)
    | some digit, (digits, after) => (digit :: digits, after)

def digitsValue (digits : List ℕ) : ℕ := digits.foldl (fun value digit => 10 * value + digit) 0

/-! ### What stands around them -/

/-- The blanks a number may stand between: four of the characters of `str.isspace` are not. -/
def isBlank (c : Char) : Bool := isSpace c && !decide (28 ≤ c.toNat ∧ c.toNat ≤ 31)

def trimBlanks (text : List Char) : List Char :=
  ((text.dropWhile isBlank).reverse.dropWhile isBlank).reverse

def splitSign : List Char → ℤ × List Char
  | '-' :: rest => (-1, rest)
  | '+' :: rest => (1, rest)
  | text => (1, text)

/-! ### Integers -/

/-- The sign and the digits of an integer. The refusal shows the text, up to a length. -/
def signedDigits (text : String) : Except PyError (ℤ × List ℕ) :=
  let signed := splitSign (trimBlanks text.toList)
  let run := digitRun signed.2
  if run.1 = [] ∨ run.2 ≠ [] then
    .error (.valueError ("invalid literal for int() with base 10: " ++
      String.ofList ((reprText text).toList.take 200)))
  else .ok (signed.1, run.1)

/-- `int(text)`. Longer texts than the interpreter's limit are refused. -/
def intOfStr (text : String) : Except PyError ℤ := do
  let (sign, digits) ← signedDigits text
  if 4300 < digits.length then
    .error (.valueError ("Exceeds the limit (4300 digits) for integer string conversion: value has "
      ++ toString digits.length ++
      " digits; use sys.set_int_max_str_digits() to increase the limit"))
  else .ok (sign * digitsValue digits)

/-- `int(text)` without the interpreter's limit. -/
def intOfText (text : String) : Except PyError ℤ :=
  (signedDigits text).map fun numeral => numeral.1 * digitsValue numeral.2

theorem signedDigits_refuses {text : String} {exc : PyError}
    (refused : signedDigits text = .error exc) : ∃ message, exc = .valueError message := by
  unfold signedDigits at refused
  simp only at refused
  split at refused
  · cases refused
    exact ⟨_, rfl⟩
  · cases refused

theorem intOfStr_refuses {text : String} {exc : PyError} (refused : intOfStr text = .error exc) :
    ∃ message, exc = .valueError message := by
  unfold intOfStr at refused
  cases read : signedDigits text with
  | error refusal =>
    rw [read] at refused
    cases refused
    exact signedDigits_refuses read
  | ok numeral =>
    rw [read] at refused
    change (if 4300 < numeral.2.length then _ else _) = _ at refused
    split at refused
    · cases refused
      exact ⟨_, rfl⟩
    · cases refused

example : intOfStr " +1_000\n" = .ok 1000 := by decide +kernel
example : intOfStr "-٤٢" = .ok (-42) := by decide +kernel
example : intOfStr "1__0" = .error (.valueError "invalid literal for int() with base 10: '1__0'") := by
  decide +kernel

/-! ### Reading back what is written -/

theorem decimalDigit_of_isAsciiDigit {c : Char} (digit : isAsciiDigit c = true) :
    decimalDigit c = some (c.toNat - 48) := by
  rw [isAsciiDigit, Bool.and_eq_true, decide_eq_true_iff, decide_eq_true_iff] at digit
  have first : decimalZeros.find? (fun first => decide (first ≤ c.toNat ∧ c.toNat < first + 10)) =
      some 48 :=
    List.find?_cons_of_pos (decide_eq_true (by omega))
  rw [decimalDigit, first, Option.map_some]

/-- A text of ASCII digits is one run. -/
theorem digitRun_of_digits {text : List Char} (digits : ∀ c ∈ text, isAsciiDigit c = true) :
    digitRun text = (text.map fun c => c.toNat - 48, []) := by
  induction text with
  | nil => rfl
  | cons c rest ih =>
    have here := decimalDigit_of_isAsciiDigit (digits c List.mem_cons_self)
    have later := ih fun d among => digits d (List.mem_cons_of_mem c among)
    have noMark : ∀ tail, rest = '_' :: tail → False := by
      rintro tail rfl
      exact absurd (digits '_' (by simp)) (by decide)
    rw [digitRun, here, later, List.map_cons]
    exact noMark

/-- A text without blanks is all that is left of it. -/
theorem trimBlanks_of_solid {text : List Char} (solid : ∀ c ∈ text, isSpace c = false) :
    trimBlanks text = text := by
  have dropped : ∀ text : List Char, (∀ c ∈ text, isSpace c = false) → text.dropWhile isBlank = text := by
    intro text solid
    cases text with
    | nil => rfl
    | cons c rest =>
      have notBlank : ¬ isBlank c = true := by
        rw [isBlank, solid c List.mem_cons_self, Bool.false_and]
        exact Bool.false_ne_true
      exact List.dropWhile_cons_of_neg notBlank
  rw [trimBlanks, dropped text solid, dropped _ fun c among => solid c (List.mem_reverse.mp among),
    List.reverse_reverse]

/-- **`int` reads back what `str` writes.** -/
theorem intOfText_toString (value : ℤ) : intOfText (toString value) = .ok value := by
  have all : ∀ n : ℕ, ∀ c ∈ Nat.toDigits 10 n, isAsciiDigit c = true := fun n c =>
    isAsciiDigit_of_mem_toDigits
  have solid : ∀ n : ℕ, ∀ c ∈ Nat.toDigits 10 n, isSpace c = false := fun n c among =>
    not_isSpace_of_isAsciiDigit (all n c among)
  have worth : ∀ n : ℕ, digitsValue ((Nat.toDigits 10 n).map fun c => c.toNat - 48) = n := by
    intro n
    rw [digitsValue, List.foldl_map]
    exact Nat.ofDigitChars_ten_toDigits
  have filled : ∀ n : ℕ, (Nat.toDigits 10 n).map (fun c => c.toNat - 48) ≠ [] := fun n =>
    mt List.map_eq_nil_iff.mp (toDigits_ne_nil n)
  cases value with
  | ofNat n =>
    have text : (toString (Int.ofNat n)).toList = Nat.toDigits 10 n := Nat.toList_repr
    have unsigned : splitSign (Nat.toDigits 10 n) = (1, Nat.toDigits 10 n) := by
      obtain ⟨first, rest, shape⟩ := List.exists_cons_of_ne_nil (toDigits_ne_nil n)
      have digit := all n first (shape ▸ List.mem_cons_self)
      rw [shape]
      unfold splitSign
      split
      · next same => exact absurd ((List.cons.inj same).1 ▸ digit) (by decide)
      · next same => exact absurd ((List.cons.inj same).1 ▸ digit) (by decide)
      · rfl
    simp only [intOfText, signedDigits, text, trimBlanks_of_solid (solid n), unsigned,
      digitRun_of_digits (all n), filled n, ne_eq, not_true_eq_false, or_self, if_false]
    exact congrArg Except.ok ((one_mul _).trans (congrArg Int.ofNat (worth n)))
  | negSucc n =>
    have text : (toString (Int.negSucc n)).toList = '-' :: Nat.toDigits 10 (n + 1) := by
      have written : toString (Int.negSucc n) = "-" ++ Nat.repr (n + 1) := rfl
      rw [written, String.toList_append, Nat.toList_repr]
      rfl
    have trimmed : trimBlanks ('-' :: Nat.toDigits 10 (n + 1)) = '-' :: Nat.toDigits 10 (n + 1) := by
      refine trimBlanks_of_solid fun c among => ?_
      rcases List.mem_cons.mp among with rfl | inside
      · decide
      · exact solid (n + 1) c inside
    simp only [intOfText, signedDigits, text, trimmed, splitSign, digitRun_of_digits (all (n + 1)),
      filled (n + 1), ne_eq, not_true_eq_false, or_self, if_false]
    exact congrArg Except.ok ((neg_one_mul _).trans (congrArg (fun m : ℕ => -(m : ℤ)) (worth (n + 1))))

theorem toString_int_injective : Function.Injective (toString : ℤ → String) := by
  intro first second same
  exact Except.ok.inj
    ((intOfText_toString first).symm.trans (same ▸ intOfText_toString second))

/-! ### Floats -/

/-- The double nearest to a number, ties to even; an infinity beyond the largest of them. -/
def PyFloat.ofRat (value : ℚ) : PyFloat :=
  let spacing : ℚ := 2 ^ (max (Int.log 2 |value|) (-1022) - 52)
  let nearest := roundHalfEven (value / spacing) * spacing
  if |nearest| < 2 ^ 1024 then .finite nearest else if 0 < value then .posInf else .negInf

/-- The number of a decimal text without a sign. -/
def decimalOf (text : List Char) : Option ℚ :=
  let whole := digitRun text
  let part := match whole.2 with
    | '.' :: rest => digitRun rest
    | rest => ([], rest)
  let mantissa : ℚ := digitsValue (whole.1 ++ part.1) / 10 ^ part.1.length
  if whole.1 = [] ∧ part.1 = [] then none
  else match part.2 with
    | [] => some mantissa
    | mark :: rest =>
      let signed := splitSign rest
      let power := digitRun signed.2
      if (mark = 'e' ∨ mark = 'E') ∧ power.1 ≠ [] ∧ power.2 = [] then
        some (mantissa * 10 ^ (signed.1 * digitsValue power.1))
      else none

/-- `float(text)`. -/
def floatOfStr (text : String) : Except PyError PyFloat :=
  let signed := splitSign (trimBlanks text.toList)
  let word := String.ofList (signed.2.map Char.toLower)
  if word = "inf" ∨ word = "infinity" then .ok (if signed.1 < 0 then .negInf else .posInf)
  else if word = "nan" then .ok .nan
  else match decimalOf signed.2 with
    | none => .error (.valueError ("could not convert string to float: " ++ reprText text))
    | some value => .ok (.ofRat (signed.1 * value))

theorem floatOfStr_refuses {text : String} {exc : PyError} (refused : floatOfStr text = .error exc) :
    ∃ message, exc = .valueError message := by
  unfold floatOfStr at refused
  simp only at refused
  split at refused
  · cases refused
  split at refused
  · cases refused
  split at refused
  · cases refused
    exact ⟨_, rfl⟩
  · cases refused

example : floatOfStr " 0.1" = .ok (.finite (3602879701896397 / 36028797018963968)) := by
  decide +kernel
example : floatOfStr "-1_0._5" = .error (.valueError "could not convert string to float: '-1_0._5'") := by
  decide +kernel

end Opendps.Lib
