/-
**Samples of several hosts.**

The controller asks for the sample without a host, so the rows of all hosts are indexed by their `gpu`
label alone, and the last row of a label is the one that is read (`rowsRead`). The host the sample names
is that of the first power row.

`one_host_iff`: every field of every sample is read from a row of that host exactly when every row of
another host is followed, in its query, by one of that host with the same label.
-/

import Opendps.Lib.Encoding
import Opendps.Lib.Run
import Opendps.Telemetry.PromClient

namespace Opendps.Telemetry

open Opendps.Lib

/-! ### Which row is read -/

def PromRow.label (row : PromRow) : String := row.gpu.getD "0"

def PromRow.host (row : PromRow) : String := row.hostname.getD "unknown"

/-- The row under each label. -/
def rowsRead (rows : List PromRow) (hostname : Option String) : Dict String PromRow :=
  .ofList ((rows.filter fun row => row.ofHost hostname).map fun row => (row.label, row))

theorem filter_ofHost_none (rows : List PromRow) : rows.filter (fun row => row.ofHost none) = rows :=
  List.filter_eq_self.mpr fun _ _ => rfl

/-- The values are those of the rows. -/
theorem get?_indexRows (rows : List PromRow) (hostname : Option String) (label : String) :
    (indexRows rows hostname).get? label =
      ((rowsRead rows hostname).get? label).map PromRow.value := by
  unfold indexRows rowsRead
  induction rows.filter fun row => row.ofHost hostname using List.reverseRecOn with
  | nil => rfl
  | append_singleton rows last ih =>
    rw [List.map_append, List.map_append, List.map_singleton, List.map_singleton,
      Dict.ofList_append_singleton, Dict.ofList_append_singleton, Dict.get?_set, Dict.get?_set, ih]
    show (if label = last.label then _ else _) = Option.map _ (if label = last.label then _ else _)
    split <;> rfl

theorem get?_rowsRead_append_singleton (rows : List PromRow) (last : PromRow) (label : String) :
    (rowsRead (rows ++ [last]) none).get? label =
      if label = last.label then some last else (rowsRead rows none).get? label := by
  rw [rowsRead, rowsRead, filter_ofHost_none, filter_ofHost_none, List.map_append, List.map_singleton,
    Dict.ofList_append_singleton, Dict.get?_set]

/-- A label has a row when a row carries it. -/
theorem exists_rowsRead_iff {rows : List PromRow} {label : String} :
    (∃ row, (rowsRead rows none).get? label = some row) ↔ ∃ row ∈ rows, row.label = label := by
  induction rows using List.reverseRecOn with
  | nil => exact ⟨nofun, nofun⟩
  | append_singleton rows last ih =>
    rw [get?_rowsRead_append_singleton]
    simp only [List.mem_append, List.mem_singleton, or_and_right, exists_or, exists_eq_left, ← ih]
    split
    · next own => simp [own]
    · next other => simp [Ne.symm other]

/-- **A label is read from one host** exactly when every row of another host with this label is followed
by one of that host. -/
theorem read_of_host_iff {rows : List PromRow} {label host : String} :
    (∀ row, (rowsRead rows none).get? label = some row → row.host = host) ↔
      ∀ before row after, rows = before ++ row :: after → row.label = label → row.host ≠ host →
        ∃ later ∈ after, later.label = label ∧ later.host = host := by
  induction rows using List.reverseRecOn with
  | nil =>
    refine iff_of_true (fun row read => by cases read) fun before row after split => ?_
    exact absurd split.symm (List.append_ne_nil_of_right_ne_nil before (List.cons_ne_nil _ _))
  | append_singleton rows last ih =>
    simp only [get?_rowsRead_append_singleton, split_append_singleton]
    by_cases own : label = last.label
    · subst own
      simp only [if_true, Option.some.injEq, forall_eq']
      constructor
      · rintro same before row after (⟨rfl, _, _⟩ | ⟨shorter, rfl, _⟩) _ foreign
        · exact absurd same foreign
        · exact ⟨last, List.mem_append_right _ (List.mem_singleton_self _), rfl, same⟩
      · intro followed
        by_contra foreign
        obtain ⟨_, ⟨⟩, _⟩ := followed rows last [] (.inl ⟨rfl, rfl, rfl⟩) rfl foreign
    · simp only [if_neg own, ih]
      constructor
      · rintro followed before row after (⟨rfl, _, _⟩ | ⟨shorter, rfl, split⟩) carries foreign
        · exact absurd carries.symm own
        · obtain ⟨later, member, rest⟩ := followed before row shorter split carries foreign
          exact ⟨later, List.mem_append_left _ member, rest⟩
      · intro followed before row after split carries foreign
        obtain ⟨later, member, same, host⟩ :=
          followed before row (after ++ [last]) (.inr ⟨after, rfl, split⟩) carries foreign
        rcases List.mem_append.mp member with inAfter | isLast
        · exact ⟨later, inAfter, same, host⟩
        · rw [List.mem_singleton.mp isLast] at same
          exact absurd same.symm own

/-! ### The whole sample -/

namespace PromAnswers

def queries (answers : PromAnswers) : List (List PromRow) :=
  [answers.powerUsage, answers.powerCap, answers.smClock, answers.gpuUtil, answers.gpuTemp]

/-- The host of the first power row. -/
def reportedHost (answers : PromAnswers) : String :=
  match answers.powerUsage with
  | row :: _ => row.host
  | [] => "unknown"

/-- A label of a power, cap, clock or utilisation row. -/
def Sampled (answers : PromAnswers) (label : String) : Prop :=
  ∃ row ∈ answers.powerUsage ++ answers.powerCap ++ answers.smClock ++ answers.gpuUtil,
    row.label = label

/-- Every sampled label is a number. -/
def Numbered (answers : PromAnswers) : Prop :=
  ∀ label, answers.Sampled label → ∃ index, intOfText label = .ok index

/-- Every row of another host is followed, in its query, by one of the reported host for the same GPU. -/
def ForeignRowsOverwritten (answers : PromAnswers) : Prop :=
  ∀ rows ∈ answers.queries, ∀ before row after, rows = before ++ row :: after →
    answers.Sampled row.label → row.host ≠ answers.reportedHost →
    ∃ later ∈ after, later.label = row.label ∧ later.host = answers.reportedHost

/-- Every field of every sample is read from a row of the host the sample names. -/
def OneHost (answers : PromAnswers) (sample : NodeSample) : Prop :=
  ∀ label ∈ answers.labels none, ∀ rows ∈ answers.queries, ∀ row,
    (rowsRead rows none).get? label = some row → row.host = sample.hostname

theorem named_none (answers : PromAnswers) : (answers.named none).1 = answers.reportedHost := by
  rw [named, reportedHost]
  cases answers.powerUsage with
  | nil => rfl
  | cons row rest => rfl

theorem mem_labels_iff {answers : PromAnswers} {label : String} :
    label ∈ answers.labels none ↔ answers.Sampled label := by
  have key : ∀ rows : List PromRow,
      label ∈ (indexRows rows none).keys ↔ ∃ row ∈ rows, row.label = label := by
    intro rows
    rw [Dict.mem_keys_iff, ← exists_rowsRead_iff]
    simp only [get?_indexRows, Option.map_eq_some_iff]
    exact ⟨fun ⟨_, row, read, _⟩ => ⟨row, read⟩, fun ⟨row, read⟩ => ⟨_, row, read, rfl⟩⟩
  rw [labels, List.mem_dedup, Sampled]
  simp only [List.mem_append, key, or_and_right, exists_or]

theorem oneHost_iff {answers : PromAnswers} {sample : NodeSample}
    (named : sample.hostname = answers.reportedHost) :
    OneHost answers sample ↔ answers.ForeignRowsOverwritten := by
  simp only [OneHost, ForeignRowsOverwritten, mem_labels_iff, named]
  constructor
  · intro read rows query before row after split sampled foreign
    exact read_of_host_iff.mp (read row.label sampled rows query) before row after split rfl foreign
  · intro followed label sampled rows query
    refine read_of_host_iff.mpr fun before row after split carries foreign => ?_
    subst carries
    exact followed rows query before row after split sampled foreign

theorem hostname_of_nodeSample {answers : PromAnswers} {now : ℚ} {sample : NodeSample}
    (sampled : nodeSampleFromProm answers now = .ok sample) :
    sample.hostname = answers.reportedHost := by
  obtain ⟨numbered, _, made⟩ := ok_of_bind sampled
  cases made
  exact answers.named_none

/-- There is a sample when every label is a number. -/
theorem nodeSample_isOk_iff (answers : PromAnswers) (now : ℚ) :
    (∃ sample, nodeSampleFromProm answers now = .ok sample) ↔ answers.Numbered := by
  have made : (∃ sample, nodeSampleFromProm answers now = .ok sample) ↔
      ∃ numbered, ((answers.labels none).mapM fun label =>
        (intOfText label).map fun index => (index, label)) = .ok numbered := by
    constructor
    · rintro ⟨sample, sampled⟩
      obtain ⟨numbered, read, _⟩ := ok_of_bind sampled
      exact ⟨numbered, read⟩
    · rintro ⟨numbered, read⟩
      exact ⟨_, bind_of_ok read rfl⟩
  rw [made, mapM_isOk_iff]
  refine forall_congr' fun label => ?_
  rw [mem_labels_iff]
  refine imp_congr_right fun _ => ?_
  cases intOfText label with
  | error exc => exact ⟨nofun, nofun⟩
  | ok index => exact ⟨fun _ => ⟨index, rfl⟩, fun _ => ⟨_, rfl⟩⟩

/-- **The sample the controller gets is one host's exactly when every row of another host is followed by
one of the reported host for the same GPU**, in each of the queries. For any rows of any hosts in any
order; where a label is no number there is no sample. -/
theorem one_host_iff (answers : PromAnswers) (now : ℚ) :
    (∀ sample, nodeSampleFromProm answers now = .ok sample → answers.OneHost sample) ↔
      (answers.Numbered → answers.ForeignRowsOverwritten) := by
  rw [← answers.nodeSample_isOk_iff now]
  constructor
  · rintro oneHost ⟨sample, sampled⟩
    exact (oneHost_iff (hostname_of_nodeSample sampled)).mp (oneHost sample sampled)
  · intro followed sample sampled
    exact (oneHost_iff (hostname_of_nodeSample sampled)).mpr (followed ⟨sample, sampled⟩)

/-- Asked for a host, the rows that are read are that host's. -/
theorem hostname_of_rowsRead {rows : List PromRow} {hostname label : String} {row : PromRow}
    (read : (rowsRead rows (some hostname)).get? label = some row) : row.hostname = some hostname := by
  rcases Dict.mem_of_get?_setAll read with listed | absent
  swap
  · cases absent
  obtain ⟨own, member, same⟩ := List.mem_map.mp listed
  cases same
  have ofHost := (List.mem_filter.mp member).2
  rw [PromRow.ofHost, Option.isNone_some, Bool.false_or, beq_iff_eq] at ofHost
  exact ofHost

/-! ### Two hosts with a GPU 0 each -/

def powerRow (hostname : String) (watts : ℚ) : PromRow where
  gpu := some "0"
  hostname := some hostname
  modelName := some "NVIDIA-SIM-GPU"
  value := watts

/-- GPU 0 draws 300 W on one host and 100 W on the other. -/
def twoHosts : PromAnswers where
  powerUsage := [powerRow "node-a" 300, powerRow "node-b" 100]
  powerCap := []
  smClock := []
  gpuUtil := []
  gpuTemp := []

/-- The sample is named after the first host and has the draw of the second. -/
theorem sample_mixes_hosts :
    ∃ sample, nodeSampleFromProm twoHosts 0 = .ok sample ∧ sample.hostname = "node-a" ∧
      sample.gpus.map GpuSample.powerDrawW = [some 100] ∧ ¬ twoHosts.OneHost sample := by
  have made : (nodeSampleFromProm twoHosts 0).toOption.map (fun sample =>
      (sample.hostname, sample.gpus.map GpuSample.powerDrawW)) = some ("node-a", [some 100]) := by
    decide +kernel
  obtain ⟨sample, present, fields⟩ := Option.map_eq_some_iff.mp made
  obtain ⟨hostname, draws⟩ := Prod.mk.inj fields
  refine ⟨sample, ok_of_toOption present, hostname, draws, fun oneHost => ?_⟩
  have foreign := oneHost "0" (by decide +kernel) twoHosts.powerUsage List.mem_cons_self
    (powerRow "node-b" 100) rfl
  rw [hostname] at foreign
  exact absurd foreign (by decide)

end PromAnswers

end Opendps.Telemetry
