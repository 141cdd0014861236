/-
**Active jobs by GPU.**

`JobTracker.poll` reads what `nvidia-smi` prints, one line for each process. The loop skips a line with
too few fields and one with an unknown uuid. A field that is no number raises, and the handler stands
around the loop, so the lines after it are not read.

* `reports_iff`: a GPU is reported when a line before the first bad number carries it.
* `job_discovery_iff`: no line is lost exactly when every GPU that a line after a bad number carries is
  carried by a line before it, and the order of the lines does not matter exactly when there is no bad
  number or no job.
-/

import Opendps.Lib.Numerals

namespace Opendps.Agent

open Opendps.Lib

/-! ### The tracker -/

structure GPUJob where
  pid : ℤ
  gpuUuid : String
  gpuIndex : ℤ
  usedMemoryMib : ℤ

structure JobTracker where
  jobs : Dict ℤ (List GPUJob) := .empty
  uuidToIndex : Dict String ℤ := .empty

namespace JobTracker

def getJobs (self : JobTracker) (gpuIndex : ℤ) : List GPUJob := self.jobs.getD gpuIndex []

def isGpuBusy (self : JobTracker) (gpuIndex : ℤ) : Bool := !(self.getJobs gpuIndex).isEmpty

/-- The fields of a line. -/
def fields (line : List Char) : List (List Char) := (line.splitOn ',').map strip

/-- The job of three fields, or none when the uuid is unknown. -/
def jobOf (self : JobTracker) (pidText uuid memText : List Char) :
    Except PyError (Option GPUJob) := do
  let pid ← intOfStr (.ofList pidText)
  let mem ← intOfStr (.ofList memText)
  let gpuIdx := self.uuidToIndex.getD (.ofList uuid) (-1)
  if gpuIdx < 0 then pure none
  else pure (some ⟨pid, .ofList uuid, gpuIdx, mem⟩)

/-- One line: the job it stands for, or none when it is skipped. -/
def readLine (self : JobTracker) (line : List Char) : Except PyError (Option GPUJob) :=
  if strip line = [] then .ok none
  else match fields line with
    | pidText :: uuid :: memText :: _ => self.jobOf pidText uuid memText
    | _ => .ok none

/-- The loop over the lines. What a line raises ends it. -/
def readLines (self : JobTracker) (result : Dict ℤ (List GPUJob)) :
    List (List Char) → Dict ℤ (List GPUJob)
  | [] => result
  | line :: rest =>
    match self.readLine line with
    | .error _ => result
    | .ok none => self.readLines result rest
    | .ok (some job) =>
      self.readLines (result.set job.gpuIndex (result.getD job.gpuIndex [] ++ [job])) rest

/-- The lines of an output. -/
def outputLines (stdout : String) : List (List Char) := splitlines (strip stdout.toList)

/-- Without an output, where the command could not be run, there are no jobs. -/
def poll (self : JobTracker) : Option String → Dict ℤ (List GPUJob)
  | none => .empty
  | some stdout => self.readLines .empty (outputLines stdout)

/-- One round of the polling thread. -/
def refresh (self : JobTracker) (stdout : Option String) : JobTracker :=
  { self with jobs := self.poll stdout }

/-! ### Lines -/

def isInt (text : List Char) : Bool := (intOfStr (.ofList text)).isOk

/-- The pid or the memory of a line is no number. -/
def hasBadNumber (line : List Char) : Bool :=
  match fields line with
  | pidText :: _ :: memText :: _ => !(isInt pidText && isInt memText)
  | _ => false

/-- A line with a numeric pid and memory and the uuid of a GPU. An index below zero is no GPU. -/
def Carries (self : JobTracker) (line : List Char) (gpu : ℤ) : Prop :=
  ∃ pidText uuid memText rest, fields line = pidText :: uuid :: memText :: rest ∧
    isInt pidText = true ∧ isInt memText = true ∧
    self.uuidToIndex.get? (.ofList uuid) = some gpu ∧ 0 ≤ gpu

/-- After these lines the GPU has a job. -/
def Reports (self : JobTracker) (lines : List (List Char)) (gpu : ℤ) : Prop :=
  ({ self with jobs := self.readLines .empty lines } : JobTracker).isGpuBusy gpu = true

/-- Every GPU that a line after a bad number carries is carried by a line before it. -/
def NothingLost (self : JobTracker) (lines : List (List Char)) : Prop :=
  ∀ before bad after, lines = before ++ bad :: after → hasBadNumber bad = true →
    ∀ line ∈ after, ∀ gpu, self.Carries line gpu → ∃ earlier ∈ before, self.Carries earlier gpu

/-- The jobs are discovered line by line: a GPU is busy when a line carries it, in whatever order the
lines are and with or without the lines that have a bad number. -/
structure PerLine (tracker : JobTracker) (lines : List (List Char)) : Prop where
  reports : ∀ gpu, tracker.Reports lines gpu ↔ ∃ line ∈ lines, tracker.Carries line gpu
  order : ∀ others : List (List Char), others.Perm lines →
    ∀ gpu, tracker.Reports others gpu ↔ tracker.Reports lines gpu
  malformed : ∀ gpu, tracker.Reports (lines.filter fun line => !hasBadNumber line) gpu ↔
    tracker.Reports lines gpu

/-- A blank line has one field. -/
theorem fields_of_blank {line : List Char} (blank : strip line = []) : fields line = [[]] := by
  have noComma : ',' ∉ line := fun member =>
    absurd (isSpace_of_strip_eq_nil blank _ member) (by decide)
  rw [fields, List.splitOn_eq_singleton noComma, List.map_singleton, blank]

/-- A line with enough fields. -/
theorem readLine_of_fields (self : JobTracker) {line pidText uuid memText : List Char}
    {rest : List (List Char)} (split : fields line = pidText :: uuid :: memText :: rest) :
    self.readLine line = self.jobOf pidText uuid memText := by
  have notBlank : strip line ≠ [] := by
    intro blank
    rw [fields_of_blank blank] at split
    cases split
  rw [readLine, if_neg notBlank, split]

theorem carries_iff_of_fields {self : JobTracker} {line pidText uuid memText : List Char}
    {rest : List (List Char)} (split : fields line = pidText :: uuid :: memText :: rest) {gpu : ℤ} :
    self.Carries line gpu ↔ isInt pidText = true ∧ isInt memText = true ∧
      self.uuidToIndex.get? (.ofList uuid) = some gpu ∧ 0 ≤ gpu := by
  constructor
  · rintro ⟨_, _, _, _, own, numbers⟩
    cases split.symm.trans own
    exact numbers
  · exact fun numbers => ⟨pidText, uuid, memText, rest, split, numbers⟩

/-- A line with enough fields has a bad number and raises, or is skipped and carries nothing, or is the
job of the GPU it carries. -/
theorem readLine_cases_of_fields (self : JobTracker) {line pidText uuid memText : List Char}
    {rest : List (List Char)} (split : fields line = pidText :: uuid :: memText :: rest) :
    (hasBadNumber line = true ∧ ∃ exc, self.readLine line = .error exc) ∨
      (hasBadNumber line = false ∧ self.readLine line = .ok none ∧ ∀ gpu, ¬ self.Carries line gpu) ∨
      (hasBadNumber line = false ∧ ∃ job, self.readLine line = .ok (some job) ∧
        ∀ gpu, self.Carries line gpu ↔ job.gpuIndex = gpu) := by
  rw [self.readLine_of_fields split, jobOf]
  simp only [carries_iff_of_fields split, hasBadNumber, split, isInt]
  cases intOfStr (.ofList pidText) with
  | error exc => exact .inl ⟨rfl, exc, rfl⟩
  | ok pid =>
    cases intOfStr (.ofList memText) with
    | error exc => exact .inl ⟨rfl, exc, rfl⟩
    | ok mem =>
      refine .inr ?_
      by_cases unknown : self.uuidToIndex.getD (.ofList uuid) (-1) < 0
      · refine .inl ⟨rfl, ?_, fun gpu carried => ?_⟩
        · exact if_pos unknown
        · rw [Dict.getD_of_some carried.2.2.1] at unknown
          exact absurd carried.2.2.2 (not_le.mpr unknown)
      · refine .inr ⟨rfl, ⟨pid, .ofList uuid, self.uuidToIndex.getD (.ofList uuid) (-1), mem⟩, ?_,
          fun gpu => ⟨fun carried => ?_, ?_⟩⟩
        · exact if_neg unknown
        · exact Dict.getD_of_some carried.2.2.1 (-1)
        · rintro rfl
          refine ⟨rfl, rfl, ?_, not_lt.mp unknown⟩
          cases mapped : self.uuidToIndex.get? (.ofList uuid) with
          | some gpu => rw [Dict.getD_of_some mapped]
          | none =>
            rw [Dict.getD_of_none mapped] at unknown
            exact absurd (by decide) unknown

/-- **One line.** -/
theorem readLine_cases (self : JobTracker) (line : List Char) :
    (hasBadNumber line = true ∧ ∃ exc, self.readLine line = .error exc) ∨
      (hasBadNumber line = false ∧ self.readLine line = .ok none ∧ ∀ gpu, ¬ self.Carries line gpu) ∨
      (hasBadNumber line = false ∧ ∃ job, self.readLine line = .ok (some job) ∧
        ∀ gpu, self.Carries line gpu ↔ job.gpuIndex = gpu) := by
  have short : (∀ pidText uuid memText rest, fields line ≠ pidText :: uuid :: memText :: rest) →
      hasBadNumber line = false ∧ self.readLine line = .ok none ∧ ∀ gpu, ¬ self.Carries line gpu := by
    intro short
    refine ⟨?_, ?_, fun gpu ⟨_, _, _, _, split, _⟩ => short _ _ _ _ split⟩
    · unfold hasBadNumber
      split
      · next split => exact absurd split (short _ _ _ _)
      · rfl
    · unfold readLine
      split
      · rfl
      split
      · next split => exact absurd split (short _ _ _ _)
      · rfl
  match split : fields line with
  | pidText :: uuid :: memText :: rest => exact self.readLine_cases_of_fields split
  | [] => exact .inr (.inl (short (by simp [split])))
  | [first] => exact .inr (.inl (short (by simp [split])))
  | [first, second] => exact .inr (.inl (short (by simp [split])))

/-! ### The loop -/

/-- **What the loop reports**: the GPUs that had a job, and those that a line before the first bad number
carries. -/
theorem readLines_busy_iff (self : JobTracker) (result : Dict ℤ (List GPUJob))
    (lines : List (List Char)) (gpu : ℤ) :
    (self.readLines result lines).getD gpu [] ≠ [] ↔ result.getD gpu [] ≠ [] ∨
      ∃ line ∈ lines.takeWhile (fun line => !hasBadNumber line), self.Carries line gpu := by
  induction lines generalizing result with
  | nil => simp [readLines]
  | cons line rest ih =>
    rw [readLines]
    rcases self.readLine_cases line with ⟨bad, exc, read⟩ | ⟨fine, read, nothing⟩ |
      ⟨fine, job, read, carries⟩
    · simp [read, bad]
    · simp [read, fine, nothing, ih]
    · simp only [read, List.takeWhile_cons, fine, Bool.not_false, if_true, List.exists_mem_cons_iff,
        carries, ih, ← or_assoc]
      refine or_congr_left ?_
      by_cases own : job.gpuIndex = gpu
      · rw [own, Dict.getD_set_self]
        simp
      · rw [Dict.getD_set_of_ne _ _ _ (Ne.symm own)]
        simp [own]

theorem reports_iff {self : JobTracker} {lines : List (List Char)} {gpu : ℤ} :
    self.Reports lines gpu ↔
      ∃ line ∈ lines.takeWhile (fun line => !hasBadNumber line), self.Carries line gpu := by
  have scanned := self.readLines_busy_iff .empty lines gpu
  rw [Dict.getD_of_none (Dict.get?_empty gpu)] at scanned
  rw [Reports, isGpuBusy, getJobs, Bool.not_eq_true', ← Bool.not_eq_true, List.isEmpty_iff]
  exact scanned.trans (or_iff_right (not_not.mpr rfl))

/-! ### Line by line -/

/-- A line that carries a GPU has no bad number. -/
theorem Carries.fine {self : JobTracker} {line : List Char} {gpu : ℤ} (carries : self.Carries line gpu) :
    hasBadNumber line = false := by
  obtain ⟨pidText, uuid, memText, rest, split, pid, mem, _⟩ := carries
  rw [hasBadNumber, split]
  simp [pid, mem]

/-- Lines end before their first bad number, or have none. -/
theorem split_at_bad (lines : List (List Char)) :
    lines.takeWhile (fun line => !hasBadNumber line) = lines ∨
      ∃ bad after, lines = lines.takeWhile (fun line => !hasBadNumber line) ++ bad :: after ∧
        hasBadNumber bad = true := by
  induction lines with
  | nil => exact .inl rfl
  | cons line rest ih =>
    cases own : hasBadNumber line with
    | true => exact .inr ⟨line, rest, by simp [own], own⟩
    | false =>
      have step : (line :: rest).takeWhile (fun line => !hasBadNumber line) =
          line :: rest.takeWhile fun line => !hasBadNumber line := by simp [own]
      rw [step]
      rcases ih with all | ⟨bad, after, split, isBad⟩
      · exact .inl (by rw [all])
      · exact .inr ⟨bad, after, by rw [List.cons_append, ← split], isBad⟩

/-- What a loop without bad numbers reports. -/
theorem reports_iff_of_fine {self : JobTracker} {lines : List (List Char)}
    (fine : ∀ line ∈ lines, hasBadNumber line = false) {gpu : ℤ} :
    self.Reports lines gpu ↔ ∃ line ∈ lines, self.Carries line gpu := by
  have all : lines.takeWhile (fun line => !hasBadNumber line) = lines :=
    List.takeWhile_eq_self_iff.mpr fun line member => by rw [fine line member]; rfl
  rw [reports_iff, all]

/-- No line is lost exactly when the loop reports every line. -/
theorem reports_each_iff {self : JobTracker} {lines : List (List Char)} :
    (∀ gpu, self.Reports lines gpu ↔ ∃ line ∈ lines, self.Carries line gpu) ↔
      self.NothingLost lines := by
  simp only [reports_iff]
  constructor
  · intro each before bad after split isBad line member gpu carries
    obtain ⟨earlier, early, carried⟩ := (each gpu).mpr ⟨line, by rw [split]; simp [member], carries⟩
    refine ⟨earlier, ?_, carried⟩
    -- nothing from the bad number on is read
    rw [split, List.takeWhile_append] at early
    split at early
    · rw [List.takeWhile_cons_of_neg (by simp [isBad]), List.append_nil] at early
      exact early
    · exact List.takeWhile_subset _ early
  · intro nothing gpu
    refine ⟨fun ⟨line, early, carries⟩ => ⟨line, List.takeWhile_subset _ early, carries⟩, ?_⟩
    rintro ⟨line, member, carries⟩
    rcases split_at_bad lines with all | ⟨bad, after, split, isBad⟩
    · exact ⟨line, by rw [all]; exact member, carries⟩
    · rw [split, List.mem_append, List.mem_cons] at member
      rcases member with early | rfl | late
      · exact ⟨line, early, carries⟩
      · rw [carries.fine] at isBad
        cases isBad
      · exact nothing _ bad after split isBad line late gpu carries

/-- A bad number in front hides every job. -/
theorem not_reports_of_bad {self : JobTracker} {bad : List Char} {rest : List (List Char)} {gpu : ℤ}
    (isBad : hasBadNumber bad = true) : ¬ self.Reports (bad :: rest) gpu := by
  rw [reports_iff, List.takeWhile_cons_of_neg (by simp [isBad])]
  rintro ⟨_, ⟨⟩, _⟩

theorem reports_of_carries {self : JobTracker} {line : List Char} {rest : List (List Char)} {gpu : ℤ}
    (carries : self.Carries line gpu) : self.Reports (line :: rest) gpu := by
  rw [reports_iff, List.takeWhile_cons_of_pos (by simp [carries.fine])]
  exact ⟨line, List.mem_cons_self, carries⟩

theorem perLine_iff {self : JobTracker} {lines : List (List Char)} :
    self.PerLine lines ↔ (∀ line ∈ lines, hasBadNumber line = false) ∨
      ∀ line ∈ lines, ∀ gpu, ¬ self.Carries line gpu := by
  constructor
  · intro perLine
    by_contra both
    simp only [not_or, not_forall, Bool.not_eq_false, not_not] at both
    obtain ⟨⟨bad, inside, isBad⟩, line, member, gpu, carries⟩ := both
    -- the bad number first, or the job first
    have hidden := perLine.order _ (List.perm_cons_erase inside).symm gpu
    have found := perLine.order _ (List.perm_cons_erase member).symm gpu
    exact not_reports_of_bad isBad (hidden.mpr (found.mp (reports_of_carries carries)))
  · rintro (fine | nothing)
    · refine ⟨fun gpu => reports_iff_of_fine fine, fun others perm gpu => ?_, fun gpu => ?_⟩
      · rw [reports_iff_of_fine fine,
          reports_iff_of_fine fun line member => fine line (perm.mem_iff.mp member)]
        simp only [perm.mem_iff]
      · rw [List.filter_eq_self.mpr fun line member => by rw [fine line member]; rfl]
    · have silent : ∀ others : List (List Char), (∀ line ∈ others, line ∈ lines) →
          ∀ gpu, ¬ self.Reports others gpu := by
        intro others inside gpu reported
        obtain ⟨line, early, carries⟩ := reports_iff.mp reported
        exact nothing line (inside line (List.takeWhile_subset _ early)) gpu carries
      refine ⟨fun gpu => iff_of_false (silent lines (fun _ => id) gpu)
          fun ⟨line, member, carries⟩ => nothing line member gpu carries,
        fun others perm gpu => iff_of_false (silent others (fun _ => perm.mem_iff.mp) gpu)
          (silent lines (fun _ => id) gpu),
        fun gpu => iff_of_false (silent _ (fun _ => List.mem_of_mem_filter) gpu)
          (silent lines (fun _ => id) gpu)⟩

/-- **When jobs are discovered line by line.** For every list of lines, the GPUs with a job are those
that some line carries exactly when every GPU that a line after a bad number carries is carried before
it. They are so in every order of the lines, and without the lines that have a bad number, exactly when
no line has a bad number or none carries a GPU. -/
theorem job_discovery_iff (self : JobTracker) (lines : List (List Char)) :
    ((∀ gpu, self.Reports lines gpu ↔ ∃ line ∈ lines, self.Carries line gpu) ↔
        self.NothingLost lines) ∧
      (self.PerLine lines ↔ (∀ line ∈ lines, hasBadNumber line = false) ∨
        ∀ line ∈ lines, ∀ gpu, ¬ self.Carries line gpu) :=
  ⟨reports_each_iff, perLine_iff⟩

/-! ### A process whose memory is not available -/

def twoGpus : JobTracker where
  uuidToIndex := .ofList [("GPU-aaaa-bbbb", 0), ("GPU-cccc-dddd", 1)]

/-- The second process is lost behind the first one, and found in front of it. -/
theorem unavailable_memory_hides_job :
    twoGpus.Carries "5678, GPU-cccc-dddd, 256".toList 1 ∧
      (twoGpus.refresh (some "1234, GPU-aaaa-bbbb, [N/A]\n5678, GPU-cccc-dddd, 256\n")).isGpuBusy 1 =
        false ∧
      (twoGpus.refresh (some "5678, GPU-cccc-dddd, 256\n1234, GPU-aaaa-bbbb, [N/A]\n")).isGpuBusy 1 =
        true := by
  refine ⟨⟨"5678".toList, "GPU-cccc-dddd".toList, "256".toList, [], ?_⟩, ?_, ?_⟩
  · decide +kernel
  · decide +kernel
  · decide +kernel

end JobTracker

end Opendps.Agent
