/-
**Label selectors.**

The server takes a selector as a text, the operator compares labels item by item. For keys and values
written as labels the two agree (`selectsAlike_of_written`): the server documents what a list
`key=value,...` of such selects (`SelectsByEquality`). Nothing keeps a policy from other texts; what
the server then selects, such as by a comma in a value (`serverSelects`), the operator never takes for
relevant by its labels (`not_isRelevant_of_unwritten`).
-/

import Opendps.Operator.PodViews

namespace Opendps.Operator

open Opendps.Lib

/-! ### The syntax of labels -/

def isLabelChar (c : Char) : Bool :=
  c.isAlphanum || c == '-' || c == '_' || c == '.'

/-- Whether the first and the last character are letters or digits. -/
def endsAlphanum (text : List Char) : Bool :=
  text.head?.any Char.isAlphanum && text.getLast?.any Char.isAlphanum

/-- At most 63 letters, digits, dashes, underscores and dots, letters or digits at the ends. -/
def isLabelName (text : List Char) : Bool :=
  decide (text.length ≤ 63) && text.all isLabelChar && endsAlphanum text

/-- A name, or nothing. -/
def isLabelValue (text : List Char) : Bool :=
  text.isEmpty || isLabelName text

/-- Parts of small letters, digits and dashes, with dots between them. -/
def isSubdomain (text : List Char) : Bool :=
  decide (text.length ≤ 253) && (text.splitOn '.').all fun part =>
    part.all (fun c => c.isLower || c.isDigit || c == '-') && endsAlphanum part

/-- A name, after a subdomain and a slash or not. -/
def isLabelKey (text : List Char) : Bool :=
  match text.splitOn '/' with
  | [name] => isLabelName name
  | [domain, name] => isSubdomain domain && isLabelName name
  | _ => false

/-- The keys and values are written as labels. -/
def WrittenAsLabels (requirements : List (String × String)) : Prop :=
  ∀ item ∈ requirements, isLabelKey item.1.toList = true ∧ isLabelValue item.2.toList = true

instance (requirements : List (String × String)) : Decidable (WrittenAsLabels requirements) :=
  inferInstanceAs (Decidable (∀ item ∈ requirements, _))

/-! ### What splits a selector is in no label -/

/-- What is in a text is in one of its parts, or splits it. -/
theorem mem_splitOn_of_mem {text : List Char} {c : Char} (separator : Char) (listed : c ∈ text) :
    c = separator ∨ ∃ part ∈ text.splitOn separator, c ∈ part := by
  rw [← show [separator].intercalate (text.splitOn separator) = text from
    List.intercalate_splitOn separator] at listed
  generalize text.splitOn separator = parts at listed ⊢
  induction parts with
  | nil => cases listed
  | cons part rest ih =>
    cases rest with
    | nil =>
      rw [List.intercalate_singleton] at listed
      exact .inr ⟨part, List.mem_cons_self, listed⟩
    | cons second rest =>
      rw [List.intercalate_cons_cons, List.append_assoc, List.mem_append, List.mem_append,
        List.mem_singleton] at listed
      rcases listed with first | same | later
      · exact .inr ⟨part, List.mem_cons_self, first⟩
      · exact .inl same
      · exact (ih later).imp_right fun ⟨other, among, within⟩ =>
          ⟨other, List.mem_cons_of_mem _ among, within⟩

theorem isLabelChar_of_isLabelName {text : List Char} (name : isLabelName text = true) :
    ∀ c ∈ text, isLabelChar c = true := by
  rw [isLabelName, Bool.and_eq_true, Bool.and_eq_true, List.all_eq_true] at name
  exact name.1.2

theorem isLabelChar_of_isLabelValue {text : List Char} (value : isLabelValue text = true) :
    ∀ c ∈ text, isLabelChar c = true := by
  rw [isLabelValue, Bool.or_eq_true, List.isEmpty_iff] at value
  rcases value with rfl | name
  · intro c listed
    cases listed
  · exact isLabelChar_of_isLabelName name

theorem isLabelChar_of_isSubdomain {text : List Char} (domain : isSubdomain text = true) :
    ∀ c ∈ text, isLabelChar c = true := by
  rw [isSubdomain, Bool.and_eq_true, List.all_eq_true] at domain
  intro c listed
  rcases mem_splitOn_of_mem '.' listed with rfl | ⟨part, among, within⟩
  · rfl
  · have small := domain.2 part among
    rw [Bool.and_eq_true, List.all_eq_true] at small
    have kind := small.1 c within
    show (c.isUpper || c.isLower || c.isDigit || c == '-' || c == '_' || c == '.') = true
    simp only [Bool.or_eq_true] at kind ⊢
    tauto

theorem isLabelChar_of_isLabelKey {text : List Char} (key : isLabelKey text = true) :
    ∀ c ∈ text, c = '/' ∨ isLabelChar c = true := by
  intro c listed
  rcases mem_splitOn_of_mem '/' listed with same | ⟨part, among, within⟩
  · exact .inl same
  · refine .inr ?_
    unfold isLabelKey at key
    split at key
    · next name split =>
      rw [split, List.mem_singleton] at among
      exact isLabelChar_of_isLabelName key c (among ▸ within)
    · next domain name split =>
      rw [Bool.and_eq_true] at key
      rw [split, List.mem_cons, List.mem_singleton] at among
      rcases among with rfl | rfl
      · exact isLabelChar_of_isSubdomain key.1 c within
      · exact isLabelChar_of_isLabelName key.2 c within
    · cases key

/-- Neither a comma nor an equals sign is in a requirement's label. -/
theorem WrittenAsLabels.not_mem {requirements : List (String × String)}
    (written : WrittenAsLabels requirements) {item : String × String} (listed : item ∈ requirements)
    {c : Char} (splits : c = ',' ∨ c = '=') : c ∉ item.1.toList ∧ c ∉ item.2.toList := by
  have other : c ≠ '/' ∧ isLabelChar c = false := by
    rcases splits with rfl | rfl <;> decide
  refine ⟨fun within => ?_, fun within => ?_⟩
  · rcases isLabelChar_of_isLabelKey (written item listed).1 c within with same | label
    · exact other.1 same
    · rw [other.2] at label
      cases label
  · have label := isLabelChar_of_isLabelValue (written item listed).2 c within
    rw [other.2] at label
    cases label

/-! ### What the server selects -/

/-- The text of a list of requirements. -/
def requirementsText (requirements : List (String × String)) : String :=
  ",".intercalate (requirements.map fun item => item.1 ++ "=" ++ item.2)

/-- What the server documents of a list of requirements written as labels: it selects what has each
value under its key. -/
def SelectsByEquality (selects : String → Dict String String → Bool) : Prop :=
  ∀ requirements, WrittenAsLabels requirements → ∀ labels : Dict String String,
    selects (requirementsText requirements) labels =
      requirements.all fun item => decide (labels.get? item.1 = some item.2)

/-- The server matches the selector of a policy that is written as labels the way the operator
compares them. -/
theorem selectsAlike_of_written {selects : String → Dict String String → Bool}
    (server : SelectsByEquality selects) {policy : JobPowerPolicy}
    (written : WrittenAsLabels policy.spec.matchLabels.sortedItems) : SelectsAlike selects policy := by
  intro labels
  have compared : satisfies labels.sortedItems policy.spec.matchLabels.sortedItems =
      policy.spec.matchLabels.sortedItems.all fun item =>
        decide (labels.get? item.1 = some item.2) := by
    unfold satisfies
    simp only [Dict.lookup_sortedItems]
  rw [compared]
  exact server _ written labels

/-- No Pod with labels satisfies a selector that is not written as labels. -/
theorem satisfies_eq_false {labels selector : List (String × String)} (own : WrittenAsLabels labels)
    (unwritten : ¬ WrittenAsLabels selector) : satisfies labels selector = false := by
  rw [Bool.eq_false_iff]
  intro satisfied
  refine unwritten fun item listed => own item ?_
  have held := of_decide_eq_true (List.all_eq_true.mp satisfied item listed)
  obtain ⟨before, after, split, _⟩ := List.lookup_eq_some_iff.mp held
  rw [split]
  exact List.mem_append_right _ List.mem_cons_self

/-- **A Pod without an annotation does not matter** to policies that are not written as labels, whatever
the server selects for them. -/
theorem not_isRelevant_of_unwritten {policies : List JobPowerPolicy} {pod : Pod}
    (own : WrittenAsLabels pod.labels.sortedItems)
    (plain : pod.annotations.get? gpuIndicesAnnotation = none)
    (unwritten : ∀ policy ∈ policies, ¬ WrittenAsLabels policy.spec.matchLabels.sortedItems) :
    isRelevant policies (podAssignmentDigest pod) = false := by
  have selectors : (selectorsOf policies).any (satisfies pod.labels.sortedItems) = false := by
    rw [List.any_eq_false]
    intro selector among
    obtain ⟨policy, listed, rfl⟩ := List.mem_map.mp among
    exact Bool.eq_false_iff.mp (satisfies_eq_false own
      (unwritten policy (List.mem_filter.mp listed).1))
  simp only [isRelevant, podAssignmentDigest, plain, selectors, Option.isSome_none, Bool.and_false,
    Bool.or_false]

/-- A server that reads a selector as requirements with commas between them. -/
def serverSelects (selector : String) (labels : Dict String String) : Bool :=
  selector.isEmpty || (selector.toList.splitOn ',').all fun requirement =>
    match requirement.splitOn '=' with
    | [key, value] => decide (labels.get? (String.ofList key) = some (String.ofList value))
    | _ => false

-- a comma in a value starts a requirement of its own
example : serverSelects (requirementsText [("app", "train,tier=gold")])
    ⟨[("app", "train"), ("tier", "gold")], by decide⟩ = true := by
  decide +kernel

theorem splitOn_requirement {key value : List Char} (plainKey : '=' ∉ key) (plainValue : '=' ∉ value) :
    (key ++ '=' :: value).splitOn '=' = [key, value] := by
  have joined : key ++ '=' :: value = ['='].intercalate [key, value] := by
    simp [List.intercalate_cons_cons]
  rw [joined]
  refine List.splitOn_intercalate '=' ?_ (List.cons_ne_nil _ _)
  intro part among
  rcases List.mem_pair.mp among with rfl | rfl
  · exact plainKey
  · exact plainValue

theorem splitOn_requirementsText {requirements : List (String × String)}
    (written : WrittenAsLabels requirements) (some : requirements ≠ []) :
    (requirementsText requirements).toList.splitOn ',' =
      requirements.map fun item => item.1.toList ++ '=' :: item.2.toList := by
  have texts : (requirementsText requirements).toList =
      [','].intercalate (requirements.map fun item => item.1.toList ++ '=' :: item.2.toList) := by
    rw [requirementsText, String.toList_intercalate, List.map_map]
    congr 1
    refine List.map_congr_left fun item _ => ?_
    simp
  rw [texts]
  refine List.splitOn_intercalate ',' ?_ (List.map_eq_nil_iff.not.mpr some)
  intro part among
  obtain ⟨item, listed, rfl⟩ := List.mem_map.mp among
  have plain := written.not_mem listed (.inl rfl)
  simp [plain.1, plain.2]

theorem serverSelects_selectsByEquality : SelectsByEquality serverSelects := by
  intro requirements written labels
  by_cases none : requirements = []
  · subst none
    rfl
  · have parts := splitOn_requirementsText written none
    have occupied : (requirementsText requirements).isEmpty = false := by
      rw [Bool.eq_false_iff]
      intro empty
      obtain ⟨item, rest, split⟩ := List.exists_cons_of_ne_nil none
      rw [String.isEmpty_iff.mp empty, split] at parts
      simp at parts
    rw [serverSelects, occupied, Bool.false_or, parts, List.all_map, Bool.eq_iff_iff,
      List.all_eq_true, List.all_eq_true]
    refine forall₂_congr fun item listed => ?_
    have plain := written.not_mem listed (.inr rfl)
    rw [Function.comp_apply, splitOn_requirement plain.1 plain.2]
    simp

end Opendps.Operator
