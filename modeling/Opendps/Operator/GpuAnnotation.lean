/-
**The grammar of the GPU annotation.**

A text denotes some indices when it is their decimal numerals, with blanks around them, between commas
(`Denotes`). The grammar says nothing about `split`, `strip` or `int()`: a numeral may have leading
zeros, and the blanks are those of Unicode.

`podGpuIndices` reads the texts of the grammar whose indices are distinct and refuses all others, exactly
where `int()` takes every numeral it comes to (`podGpuIndices_reads_iff`): a numeral of more than 4300
digits raises, unless a token that is no numeral comes before it.
-/

import Opendps.Operator.Assignments
import Opendps.Lib.Outcome
import Mathlib.Data.Finset.Sort

namespace Opendps.Operator

open Opendps.Lib

/-! ### The grammar -/

/-- One or more ASCII digits. -/
def IsNumeral (digits : List Char) : Prop := digits ≠ [] ∧ digits.all isAsciiDigit = true

instance (digits : List Char) : Decidable (IsNumeral digits) :=
  inferInstanceAs (Decidable (_ ∧ _))

/-- A numeral of a number, with blanks around it. -/
def DenotesIndex (token : List Char) (index : ℕ) : Prop :=
  ∃ front digits back, token = front ++ digits ++ back ∧ (∀ c ∈ front, isSpace c = true) ∧
    (∀ c ∈ back, isSpace c = true) ∧ IsNumeral digits ∧ Nat.ofDigitChars 10 digits 0 = index

/-- Numerals of one or more numbers, between commas. -/
def Denotes (raw : List Char) (indices : List ℕ) : Prop :=
  indices ≠ [] ∧ ∃ tokens, raw = [','].intercalate tokens ∧ List.Forall₂ DenotesIndex tokens indices

/-! ### Tokens -/

theorem IsNumeral.solid {digits : List Char} (numeral : IsNumeral digits) :
    ∀ c ∈ digits, isSpace c = false := fun c member =>
  not_isSpace_of_isAsciiDigit (List.all_eq_true.mp numeral.2 c member)

/-- A token denotes the number of what is left of it without blanks. -/
theorem denotesIndex_iff {token : List Char} {index : ℕ} :
    DenotesIndex token index ↔
      IsNumeral (strip token) ∧ Nat.ofDigitChars 10 (strip token) 0 = index := by
  constructor
  · rintro ⟨front, digits, back, rfl, blankFront, blankBack, numeral, value⟩
    rw [strip_around blankFront numeral.solid blankBack]
    exact ⟨numeral, value⟩
  · rintro ⟨numeral, value⟩
    obtain ⟨front, back, split, blankFront, blankBack⟩ := exists_strip token
    exact ⟨front, strip token, back, split, blankFront, blankBack, numeral, value⟩

/-- No comma stands in a token of the grammar. -/
theorem DenotesIndex.comma_not_mem {token : List Char} {index : ℕ} (denotes : DenotesIndex token index) :
    ',' ∉ token := by
  obtain ⟨front, digits, back, rfl, blankFront, blankBack, numeral, _⟩ := denotes
  simp only [List.mem_append, not_or]
  refine ⟨⟨fun inFront => ?_, fun inDigits => ?_⟩, fun inBack => ?_⟩
  · exact absurd (blankFront _ inFront) (by decide)
  · exact absurd (List.all_eq_true.mp numeral.2 _ inDigits) (by decide)
  · exact absurd (blankBack _ inBack) (by decide)

/-- The tokens of a text of the grammar are what stands between its commas. -/
theorem denotes_iff {raw : List Char} {indices : List ℕ} :
    Denotes raw indices ↔ List.Forall₂ DenotesIndex (raw.splitOn ',') indices := by
  constructor
  · rintro ⟨some, tokens, rfl, each⟩
    have noComma : ∀ token ∈ tokens, ',' ∉ token :=
      ((List.forall₂_and_left tokens indices).mp
        (each.imp fun _ _ denotes => ⟨denotes.comma_not_mem, denotes⟩)).1
    have nonempty : tokens ≠ [] := by
      rintro rfl
      exact some (List.forall₂_nil_left_iff.mp each)
    rwa [List.splitOn_intercalate ',' noComma nonempty]
  · intro each
    refine ⟨fun none => ?_, raw.splitOn ',', (List.intercalate_splitOn ',').symm, each⟩
    rw [none] at each
    exact List.splitOn_ne_nil ',' raw (List.forall₂_nil_right_iff.mp each)

/-! ### The loop over the tokens -/

/-- Every numeral up to the first token that is none is short enough for `int()`. -/
def NumeralsFit : List (List Char) → Prop
  | [] => True
  | item :: rest => IsNumeral (strip item) → (strip item).length ≤ 4300 ∧ NumeralsFit rest

/-- `int()` of a numeral that fits. -/
theorem pyInt_of_fits {digits : List Char} (fits : digits.length ≤ 4300) :
    pyInt digits = .ok (Nat.ofDigitChars 10 digits 0) := by
  rw [pyInt, if_neg (not_lt.mpr fits)]
  rfl

/-- What the loop does with one token. -/
theorem gpuTokens_cons (item : List Char) (rest : List (List Char)) :
    gpuTokens (item :: rest) =
      if IsNumeral (strip item) then do
        let index ← pyInt (strip item)
        let indices ← gpuTokens rest
        pure (indices.map (index :: ·))
      else .ok none := by
  have test : ((strip item).isEmpty || !(strip item).all isAsciiDigit) =
      !decide (IsNumeral (strip item)) := by
    by_cases numeral : IsNumeral (strip item)
    · rw [decide_eq_true numeral, numeral.2]
      simpa using numeral.1
    · rw [decide_eq_false numeral]
      cases digits : strip item with
      | nil => rfl
      | cons first rest =>
        have notAll : (first :: rest).all isAsciiDigit = false :=
          Bool.eq_false_iff.mpr fun all => numeral (digits ▸ ⟨List.cons_ne_nil _ _, all⟩)
        rw [notAll]
        rfl
  rw [gpuTokens, test]
  by_cases numeral : IsNumeral (strip item) <;> simp [numeral]

/-- **The loop.** Where the numerals fit it returns the denoted indices, or nothing when a token is no
numeral; where one does not, it raises. -/
theorem gpuTokens_cases (tokens : List (List Char)) :
    (NumeralsFit tokens ∧ ∃ indices, List.Forall₂ DenotesIndex tokens indices ∧
        gpuTokens tokens = .ok (some indices)) ∨
      (NumeralsFit tokens ∧ (∀ indices, ¬ List.Forall₂ DenotesIndex tokens indices) ∧
        gpuTokens tokens = .ok none) ∨
      (¬ NumeralsFit tokens ∧ ∃ exc, gpuTokens tokens = .error exc) := by
  induction tokens with
  | nil => exact .inl ⟨trivial, [], .nil, rfl⟩
  | cons item rest ih =>
    rw [gpuTokens_cons]
    by_cases numeral : IsNumeral (strip item)
    · rw [if_pos numeral]
      by_cases fits : (strip item).length ≤ 4300
      · rw [pyInt_of_fits fits]
        have own : DenotesIndex item (Nat.ofDigitChars 10 (strip item) 0) :=
          denotesIndex_iff.mpr ⟨numeral, rfl⟩
        rcases ih with ⟨later, indices, each, read⟩ | ⟨later, nothing, read⟩ | ⟨later, exc, raised⟩
        · refine .inl ⟨fun _ => ⟨fits, later⟩, _, .cons own each, ?_⟩
          rw [read]
          rfl
        · refine .inr (.inl ⟨fun _ => ⟨fits, later⟩, fun indices each => ?_, ?_⟩)
          · obtain ⟨index, others, _, further, _⟩ := List.forall₂_cons_left_iff.mp each
            exact nothing others further
          · rw [read]
            rfl
        · refine .inr (.inr ⟨fun all => later (all numeral).2, exc, ?_⟩)
          rw [raised]
          rfl
      · refine .inr (.inr ⟨fun all => fits (all numeral).1, ?_⟩)
        rw [pyInt, if_pos (not_le.mp fits)]
        exact ⟨_, rfl⟩
    · rw [if_neg numeral]
      refine .inr (.inl ⟨fun isNumeral => absurd isNumeral numeral, fun indices each => ?_, rfl⟩)
      obtain ⟨index, others, denotes, _, _⟩ := List.forall₂_cons_left_iff.mp each
      exact numeral (denotesIndex_iff.mp denotes).1

/-! ### The annotation of a Pod -/

/-- **A text is read as the grammar says**: as its indices in increasing order when they are distinct,
and as nothing for every other text. -/
structure ReadAsGrammar (pod : Pod) (raw : String) : Prop where
  accepted : ∀ indices, Denotes raw.toList indices → indices.Nodup →
    podGpuIndices pod = .ok (some (indices.toFinset.sort (· ≤ ·)))
  refused : (∀ indices, Denotes raw.toList indices → ¬ indices.Nodup) → podGpuIndices pod = .ok none

/-- A text denotes one list of indices. -/
theorem Denotes.unique {raw : List Char} {first second : List ℕ} (one : Denotes raw first)
    (two : Denotes raw second) : first = second := by
  have functional : Relator.RightUnique DenotesIndex := fun _ _ _ left right =>
    (denotesIndex_iff.mp left).2.symm.trans (denotesIndex_iff.mp right).2
  exact functional.forall₂ (denotes_iff.mp one) (denotes_iff.mp two)

theorem sortedBy_eq_sort {indices : List ℕ} (nodup : indices.Nodup) :
    sortedBy id indices = indices.toFinset.sort (· ≤ ·) := by
  have perm := sortedBy_perm id indices
  rw [← List.toFinset_eq_of_perm _ _ perm]
  exact ((List.toFinset_sort (· ≤ ·) (perm.nodup_iff.mpr nodup)).mpr (pairwise_sortedBy id indices)).symm

/-- A blank text denotes nothing, and its one token is no numeral. -/
theorem splitOn_of_blank {raw : List Char} (blank : (strip raw).isEmpty = true) :
    NumeralsFit (raw.splitOn ',') ∧ ∀ indices, ¬ List.Forall₂ DenotesIndex (raw.splitOn ',') indices := by
  have stripped : strip raw = [] := List.isEmpty_iff.mp blank
  have noComma : ',' ∉ raw := fun member =>
    absurd (isSpace_of_strip_eq_nil stripped _ member) (by decide)
  have one : raw.splitOn ',' = [raw] := List.splitOn_eq_singleton noComma
  have noNumeral : ¬ IsNumeral (strip raw) := fun numeral => numeral.1 stripped
  rw [one]
  refine ⟨fun numeral => absurd numeral noNumeral, fun indices each => ?_⟩
  obtain ⟨index, others, denotes, _, _⟩ := List.forall₂_cons_left_iff.mp each
  exact noNumeral (denotesIndex_iff.mp denotes).1

/-- What a Pod's annotation is read as. -/
theorem podGpuIndices_cases {pod : Pod} {raw : String}
    (annotated : pod.annotations.get? gpuIndicesAnnotation = some raw) :
    (NumeralsFit (raw.toList.splitOn ',') ∧ ∃ indices, Denotes raw.toList indices ∧
        podGpuIndices pod =
          .ok (if indices.Nodup then some (indices.toFinset.sort (· ≤ ·)) else none)) ∨
      (NumeralsFit (raw.toList.splitOn ',') ∧ (∀ indices, ¬ Denotes raw.toList indices) ∧
        podGpuIndices pod = .ok none) ∨
      (¬ NumeralsFit (raw.toList.splitOn ',') ∧ ∃ exc, podGpuIndices pod = .error exc) := by
  unfold podGpuIndices
  rw [annotated]
  by_cases blank : (strip raw.toList).isEmpty = true
  · simp only [if_pos blank]
    obtain ⟨fit, nothing⟩ := splitOn_of_blank blank
    exact .inr (.inl ⟨fit, fun indices denotes => nothing indices (denotes_iff.mp denotes), trivial⟩)
  · simp only [if_neg blank]
    rcases gpuTokens_cases (raw.toList.splitOn ',') with
      ⟨fit, indices, each, read⟩ | ⟨fit, nothing, read⟩ | ⟨long, exc, raised⟩
    · refine .inl ⟨fit, indices, denotes_iff.mpr each, bind_of_ok read ?_⟩
      by_cases nodup : indices.Nodup
      · simp only [if_pos nodup, sortedBy_eq_sort nodup]
        rfl
      · simp only [if_neg nodup]
        rfl
    · exact .inr (.inl ⟨fit, fun indices denotes => nothing indices (denotes_iff.mp denotes),
        bind_of_ok read rfl⟩)
    · refine .inr (.inr ⟨long, exc, ?_⟩)
      rw [raised]
      rfl

/-- The call raises exactly where a numeral it comes to does not fit. -/
theorem podGpuIndices_raises_iff {pod : Pod} {raw : String}
    (annotated : pod.annotations.get? gpuIndicesAnnotation = some raw) :
    (∃ exc, podGpuIndices pod = .error exc) ↔ ¬ NumeralsFit (raw.toList.splitOn ',') := by
  rcases podGpuIndices_cases annotated with
    ⟨fit, indices, _, read⟩ | ⟨fit, _, read⟩ | ⟨long, exc, raised⟩
  · exact iff_of_false (fun ⟨exc, raised⟩ => nomatch raised.symm.trans read) (not_not.mpr fit)
  · exact iff_of_false (fun ⟨exc, raised⟩ => nomatch raised.symm.trans read) (not_not.mpr fit)
  · exact iff_of_true ⟨exc, raised⟩ long

/-- What is read as the grammar says does not raise. -/
theorem ReadAsGrammar.not_raises {pod : Pod} {raw : String} (reads : ReadAsGrammar pod raw) :
    ¬ ∃ exc, podGpuIndices pod = .error exc := by
  rintro ⟨exc, raised⟩
  by_cases distinct : ∃ indices, Denotes raw.toList indices ∧ indices.Nodup
  · obtain ⟨indices, denotes, nodup⟩ := distinct
    exact nomatch raised.symm.trans (reads.accepted indices denotes nodup)
  · exact nomatch raised.symm.trans
      (reads.refused fun indices denotes nodup => distinct ⟨indices, denotes, nodup⟩)

/-- **The annotation is read as its grammar says, exactly where its numerals fit.** For every Pod and
every text of the annotation. -/
theorem podGpuIndices_reads_iff {pod : Pod} {raw : String}
    (annotated : pod.annotations.get? gpuIndicesAnnotation = some raw) :
    ReadAsGrammar pod raw ↔ NumeralsFit (raw.toList.splitOn ',') := by
  constructor
  · intro reads
    by_contra long
    exact reads.not_raises ((podGpuIndices_raises_iff annotated).mpr long)
  · intro fit
    rcases podGpuIndices_cases annotated with
      ⟨_, indices, denotes, read⟩ | ⟨_, nothing, read⟩ | ⟨long, _⟩
    · refine ⟨fun others same nodup => ?_, fun repeats => ?_⟩
      · obtain rfl := denotes.unique same
        rw [read, if_pos nodup]
      · rw [read, if_neg (repeats indices denotes)]
    · exact ⟨fun others denotes => absurd denotes (nothing others), fun _ => read⟩
    · exact absurd fit long

/-- Every order and spacing of the numerals of some numbers denotes them. -/
theorem denotes_written {indices : List ℕ} (some : indices ≠ []) (front back : ℕ → List Char)
    (blankFront : ∀ index, ∀ c ∈ front index, isSpace c = true)
    (blankBack : ∀ index, ∀ c ∈ back index, isSpace c = true) :
    Denotes ([','].intercalate (indices.map fun index =>
      front index ++ Nat.toDigits 10 index ++ back index)) indices := by
  refine ⟨some, _, rfl, List.forall₂_map_left_iff.mpr (List.forall₂_same.mpr fun index _ => ?_)⟩
  refine ⟨_, _, _, rfl, blankFront index, blankBack index, ⟨?_, ?_⟩, Nat.ofDigitChars_ten_toDigits⟩
  · exact toDigits_ne_nil index
  · exact List.all_eq_true.mpr fun c => isAsciiDigit_of_mem_toDigits

/-! ### A numeral of 4301 digits -/

def annotatedPod (raw : String) : Pod where
  uid := some "pod-0"
  nodeName := some "node-0"
  labels := .empty
  annotations := .ofKeys [ gpuIndicesAnnotation] fun _ => raw

@[irreducible] def longDigits : List Char := List.replicate 4301 '1'

theorem annotated_annotatedPod (raw : String) :
    (annotatedPod raw).annotations.get? gpuIndicesAnnotation = some raw :=
  Dict.get?_ofKeys_of_mem _ (List.mem_singleton_self _)

theorem eq_one_of_mem_longDigits {c : Char} (member : c ∈ longDigits) : c = '1' := by
  rw [longDigits] at member
  exact List.eq_of_mem_replicate member

theorem isNumeral_longDigits : IsNumeral longDigits := by
  refine ⟨List.ne_nil_of_length_pos ?_, List.all_eq_true.mpr fun c member => ?_⟩
  · rw [longDigits, List.length_replicate]
    decide
  · rw [eq_one_of_mem_longDigits member]
    decide

theorem denotes_longDigits : Denotes longDigits [Nat.ofDigitChars 10 longDigits 0] := by
  refine ⟨List.cons_ne_nil _ _, [longDigits], (List.intercalate_singleton).symm, ?_⟩
  refine .cons ⟨[], longDigits, [], ?_, ?_, ?_, isNumeral_longDigits, rfl⟩ .nil
  · rw [List.nil_append, List.append_nil]
  · exact fun c member => absurd member List.not_mem_nil
  · exact fun c member => absurd member List.not_mem_nil

theorem not_numeralsFit_longDigits : ¬ NumeralsFit (longDigits.splitOn ',') := by
  have noComma : ',' ∉ longDigits := fun member =>
    absurd (eq_one_of_mem_longDigits member) (by decide)
  have one : longDigits.splitOn ',' = [longDigits] := List.splitOn_eq_singleton noComma
  have solid := strip_eq_self isNumeral_longDigits.solid
  rw [one]
  intro fits
  have short := (fits (solid.symm ▸ isNumeral_longDigits)).1
  rw [solid, longDigits, List.length_replicate] at short
  exact absurd short (by decide)

/-- One numeral of 4301 digits is a text of the grammar, and the call raises. -/
theorem long_numeral_raises :
    (annotatedPod (String.ofList longDigits)).annotations.get? gpuIndicesAnnotation =
        some (String.ofList longDigits) ∧
      Denotes (String.ofList longDigits).toList [Nat.ofDigitChars 10 longDigits 0] ∧
      (∃ exc, podGpuIndices (annotatedPod (String.ofList longDigits)) = .error exc) ∧
      ¬ ReadAsGrammar (annotatedPod (String.ofList longDigits)) (String.ofList longDigits) := by
  have annotated := annotated_annotatedPod (String.ofList longDigits)
  have long : ¬ NumeralsFit ((String.ofList longDigits).toList.splitOn ',') := by
    rw [String.toList_ofList]
    exact not_numeralsFit_longDigits
  have denotes : Denotes (String.ofList longDigits).toList [Nat.ofDigitChars 10 longDigits 0] := by
    rw [String.toList_ofList]
    exact denotes_longDigits
  have raises := (podGpuIndices_raises_iff annotated).mpr long
  exact ⟨annotated, denotes, raises, fun reads => reads.not_raises raises⟩

theorem podGpuIndices_reads_iff_spaced :
    ReadAsGrammar (annotatedPod " 2,01 ,\u20090") " 2,01 ,\u20090" ↔
      NumeralsFit (" 2,01 ,\u20090".toList.splitOn ',') :=
  podGpuIndices_reads_iff (annotated_annotatedPod " 2,01 ,\u20090")

end Opendps.Operator
