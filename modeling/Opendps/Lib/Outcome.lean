/-
**Fallible steps, and callers that catch some exceptions.**

A sequence of steps succeeds when each of them does (`ok_of_bind`, `bind_of_ok`, `mapM_eq_ok`,
`forM_eq_ok_iff`).

`Classifies caught valid fatal outcome` says on which inputs a step succeeds (`valid`), on which it
raises an exception its caller does not catch (`fatal`), and that on all others it raises one that is
caught. The rules follow the way a parser is put together: `guard` for a test that raises, `bind` for
one step after another, `bind_of` where the rest depends on the value, `mapM` for a step on every element
of a list.
-/

import Mathlib.Data.List.Forall2

namespace Opendps.Lib

variable {ε α β : Type} {caught : ε → Bool} {valid fatal restValid restFatal : Prop}
  {outcome : Except ε α}

/-- Where two steps one after the other succeed, the first one does and the second one on its value. -/
theorem ok_of_bind {next : α → Except ε β} {value : β} (succeeds : outcome >>= next = .ok value) :
    ∃ first, outcome = .ok first ∧ next first = .ok value := by
  cases outcome with
  | error exc => cases succeeds
  | ok first => exact ⟨first, rfl, succeeds⟩

/-- After a step that succeeds comes the next one. -/
theorem bind_of_ok {next : α → Except ε β} {value : α} {result : Except ε β}
    (succeeds : outcome = .ok value) (rest : next value = result) : outcome >>= next = result := by
  rw [succeeds]
  exact rest

/-- A step that succeeds on every element succeeds on the list. -/
theorem mapM_eq_ok {step : α → Except ε β} {value : α → β} {elements : List α}
    (succeeds : ∀ element ∈ elements, step element = .ok (value element)) :
    elements.mapM step = .ok (elements.map value) := by
  induction elements with
  | nil => rfl
  | cons element rest ih =>
    rw [List.mapM_cons, succeeds element List.mem_cons_self,
      ih fun other member => succeeds other (List.mem_cons_of_mem element member)]
    rfl

/-- A list of values comes from a step on every element that has that value. -/
theorem mapM_eq_ok_iff {step : α → Except ε β} {elements : List α} {values : List β} :
    elements.mapM step = .ok values ↔
      List.Forall₂ (fun element value => step element = .ok value) elements values := by
  induction elements generalizing values with
  | nil =>
    have none : ([] : List α).mapM step = .ok [] := rfl
    rw [none, List.forall₂_nil_left_iff, Except.ok.injEq]
    exact eq_comm
  | cons element rest ih =>
    rw [List.mapM_cons]
    constructor
    · intro succeeds
      obtain ⟨first, own, succeeds⟩ := ok_of_bind succeeds
      obtain ⟨others, later, same⟩ := ok_of_bind succeeds
      cases same
      exact .cons own (ih.mp later)
    · rintro (_ | ⟨own, later⟩)
      exact bind_of_ok own (bind_of_ok (ih.mpr later) rfl)

/-- Steps without a value succeed on a list when they do on every element. -/
theorem forM_eq_ok_iff {step : α → Except ε PUnit} {elements : List α} :
    elements.forM step = .ok ⟨⟩ ↔ ∀ element ∈ elements, step element = .ok ⟨⟩ := by
  induction elements with
  | nil => exact ⟨fun _ element member => absurd member List.not_mem_nil, fun _ => rfl⟩
  | cons element rest ih =>
    have first : (element :: rest).forM step = step element >>= fun _ => rest.forM step := rfl
    rw [first, List.forall_mem_cons, ← ih]
    cases step element with
    | error exc => exact ⟨nofun, fun both => nomatch both.1⟩
    | ok done => exact ⟨fun later => ⟨rfl, later⟩, And.right⟩

/-- A step succeeds on the valid inputs, raises what its caller does not catch on the fatal ones, and
raises what its caller catches on all others. -/
structure Classifies (caught : ε → Bool) (valid fatal : Prop) (outcome : Except ε α) : Prop where
  accepted : valid → ∃ value, outcome = .ok value
  raised : fatal → ∃ exc, outcome = .error exc ∧ caught exc = false
  refused : ¬ valid → ¬ fatal → ∃ exc, outcome = .error exc ∧ caught exc = true

namespace Classifies

theorem ok (value : α) : Classifies caught True False (.ok value) :=
  ⟨fun _ => ⟨value, rfl⟩, False.elim, fun invalid _ => absurd trivial invalid⟩

theorem error {exc : ε} (isCaught : caught exc = true) :
    Classifies caught False False (.error exc : Except ε α) :=
  ⟨False.elim, False.elim, fun _ _ => ⟨exc, rfl, isCaught⟩⟩

theorem congr {otherValid otherFatal : Prop} (step : Classifies caught valid fatal outcome)
    (sameValid : valid ↔ otherValid) (sameFatal : fatal ↔ otherFatal) :
    Classifies caught otherValid otherFatal outcome :=
  ⟨fun holds => step.accepted (sameValid.mpr holds), fun holds => step.raised (sameFatal.mpr holds),
    fun invalid harmless => step.refused (fun holds => invalid (sameValid.mp holds))
      fun holds => harmless (sameFatal.mp holds)⟩

/-- A test that raises a caught exception stands before a step. -/
theorem guard {exc : ε} (isCaught : caught exc = true) {test : Prop} [Decidable test]
    (step : ¬ test → Classifies caught valid fatal outcome) :
    Classifies caught (¬ test ∧ valid) (¬ test ∧ fatal) (if test then .error exc else outcome) := by
  by_cases stops : test
  · rw [if_pos stops]
    exact (error isCaught).congr ⟨False.elim, fun both => both.1 stops⟩
      ⟨False.elim, fun both => both.1 stops⟩
  · rw [if_neg stops]
    exact (step stops).congr ⟨fun holds => ⟨stops, holds⟩, And.right⟩
      ⟨fun holds => ⟨stops, holds⟩, And.right⟩

/-- One step after another, where what the rest does depends on the value of the first. -/
theorem bind_of {next : α → Except ε β} {restValid restFatal : α → Prop}
    (rest : ∀ value, outcome = .ok value →
      Classifies caught (restValid value) (restFatal value) (next value)) :
    Classifies caught (∃ value, outcome = .ok value ∧ restValid value)
      ((∃ exc, outcome = .error exc ∧ caught exc = false) ∨
        ∃ value, outcome = .ok value ∧ restFatal value) (outcome >>= next) := by
  cases outcome with
  | error exc =>
    refine ⟨?_, ?_, fun _ harmless => ⟨exc, rfl, ?_⟩⟩
    · rintro ⟨value, stopped, _⟩
      cases stopped
    · rintro (⟨_, ⟨⟩, uncaught⟩ | ⟨value, stopped, _⟩)
      · exact ⟨exc, rfl, uncaught⟩
      · cases stopped
    · by_contra uncaught
      exact harmless (.inl ⟨exc, rfl, Bool.not_eq_true _ ▸ uncaught⟩)
  | ok value =>
    refine (rest value rfl).congr ⟨fun holds => ⟨value, rfl, holds⟩, ?_⟩
      ⟨fun holds => .inr ⟨value, rfl, holds⟩, ?_⟩
    · rintro ⟨_, ⟨⟩, holds⟩
      exact holds
    · rintro (⟨exc, stopped, _⟩ | ⟨_, ⟨⟩, holds⟩)
      · cases stopped
      · exact holds

/-- The inputs of a step on which it succeeds. -/
theorem isOk_iff (step : Classifies caught valid fatal outcome) :
    (∃ value, outcome = .ok value) ↔ valid := by
  refine ⟨fun ⟨value, succeeded⟩ => ?_, step.accepted⟩
  by_contra invalid
  by_cases stops : fatal
  · obtain ⟨exc, failed, _⟩ := step.raised stops
    exact nomatch succeeded.symm.trans failed
  · obtain ⟨exc, failed, _⟩ := step.refused invalid stops
    exact nomatch succeeded.symm.trans failed

/-- The inputs of a step on which its caller is not left with an exception. -/
theorem uncaught_iff (step : Classifies caught valid fatal outcome) :
    (∃ exc, outcome = .error exc ∧ caught exc = false) ↔ fatal := by
  refine ⟨fun ⟨exc, failed, uncaught⟩ => ?_, step.raised⟩
  by_contra harmless
  by_cases holds : valid
  · obtain ⟨value, succeeded⟩ := step.accepted holds
    exact nomatch succeeded.symm.trans failed
  · obtain ⟨other, refused, isCaught⟩ := step.refused holds harmless
    cases failed.symm.trans refused
    rw [uncaught] at isCaught
    cases isCaught

/-- One step after another, where what the rest does depends on the value and the first step is
classified. -/
theorem bind_value {next : α → Except ε β} {restValid restFatal : α → Prop}
    (first : Classifies caught valid fatal outcome)
    (rest : ∀ value, outcome = .ok value →
      Classifies caught (restValid value) (restFatal value) (next value)) :
    Classifies caught (∃ value, outcome = .ok value ∧ restValid value)
      (fatal ∨ ∃ value, outcome = .ok value ∧ restFatal value) (outcome >>= next) :=
  (bind_of rest).congr Iff.rfl (or_congr_left first.uncaught_iff)

/-- One step after another. -/
theorem bind {next : α → Except ε β} (first : Classifies caught valid fatal outcome)
    (rest : ∀ value, outcome = .ok value → Classifies caught restValid restFatal (next value)) :
    Classifies caught (valid ∧ restValid) (fatal ∨ valid ∧ restFatal) (outcome >>= next) := by
  refine (first.bind_value rest).congr ?_ (or_congr_right ?_)
  · rw [← first.isOk_iff]
    exact ⟨fun ⟨value, succeeded, holds⟩ => ⟨⟨value, succeeded⟩, holds⟩,
      fun ⟨⟨value, succeeded⟩, holds⟩ => ⟨value, succeeded, holds⟩⟩
  · rw [← first.isOk_iff]
    exact ⟨fun ⟨value, succeeded, holds⟩ => ⟨⟨value, succeeded⟩, holds⟩,
      fun ⟨⟨value, succeeded⟩, holds⟩ => ⟨value, succeeded, holds⟩⟩

end Classifies

/-- The first input that is not valid is a fatal one. -/
def FirstFatal (valid fatal : α → Prop) : List α → Prop
  | [] => False
  | element :: rest => fatal element ∨ valid element ∧ FirstFatal valid fatal rest

/-- The same step on every element, up to the first that raises. -/
theorem Classifies.mapM {valid fatal : α → Prop} {step : α → Except ε β}
    (each : ∀ element, Classifies caught (valid element) (fatal element) (step element))
    (elements : List α) :
    Classifies caught (∀ element ∈ elements, valid element) (FirstFatal valid fatal elements)
      (elements.mapM step) := by
  induction elements with
  | nil => exact (Classifies.ok []).congr ⟨fun _ => List.forall_mem_nil _, fun _ => trivial⟩ Iff.rfl
  | cons element rest ih =>
    rw [List.mapM_cons]
    have steps := (each element).bind fun first _ => ih.bind fun others _ =>
      Classifies.ok (first :: others)
    refine steps.congr ?_ ?_
    · rw [and_true, List.forall_mem_cons]
    · rw [and_false, or_false]
      rfl

/-- The same step on every element succeeds when it does on each of them. -/
theorem mapM_isOk_iff {step : α → Except ε β} {elements : List α} :
    (∃ values, elements.mapM step = .ok values) ↔
      ∀ element ∈ elements, ∃ value, step element = .ok value := by
  have each : ∀ element, Classifies (fun _ => true) (∃ value, step element = .ok value) False
      (step element) := by
    refine fun element => ⟨id, False.elim, fun fails _ => ?_⟩
    cases taken : step element with
    | error exc => exact ⟨exc, rfl, rfl⟩
    | ok value => exact absurd ⟨value, taken⟩ fails
  exact (Classifies.mapM each elements).isOk_iff

end Opendps.Lib
