/-
**The sample of a node, built from Prometheus.**

`nodeSampleFromProm` asks five queries, indexes the rows of each by their `gpu` label and makes one
sample for every label that power, cap, clock or utilisation rows carry. A sample has a field for the
hardware maximum of the power limit; no query asks for it, and the field stays empty.

`nodeSample_fleet` is what it makes of the rows an exporter writes for the GPUs of one host: every GPU
is there once, with what was reported for it.
-/

import Opendps.Lib.Dict
import Opendps.Lib.Outcome
import Opendps.Lib.Numerals
import Mathlib.Data.List.Dedup

namespace Opendps.Telemetry

open Opendps.Lib

/-- A reading of one GPU. What the device does not expose is missing. -/
structure GpuSample where
  index : ℤ
  name : String
  powerDrawW : Option ℚ := none
  powerLimitW : Option ℚ := none
  powerMaxLimitW : Option ℚ := none
  smClockMhz : Option ℤ := none
  temperatureC : Option ℤ := none
  gpuUtilPct : Option ℤ := none

structure NodeSample where
  ts : ℚ
  hostname : String
  driverVersion : String
  gpus : List GpuSample

/-- A row of an instant query: the labels that are read, and the value. -/
structure PromRow where
  gpu : Option String
  hostname : Option String
  modelName : Option String
  value : ℚ

/-- What the five queries answer. -/
structure PromAnswers where
  powerUsage : List PromRow
  powerCap : List PromRow
  smClock : List PromRow
  gpuUtil : List PromRow
  gpuTemp : List PromRow

/-- Only the rows of the host that is asked for count. -/
def PromRow.ofHost (row : PromRow) (hostname : Option String) : Bool :=
  hostname.isNone || row.hostname == hostname

/-- The values of a query by their `gpu` label. -/
def indexRows (rows : List PromRow) (hostname : Option String) : Dict String ℚ :=
  .ofList ((rows.filter fun row => row.ofHost hostname).map fun row =>
    (row.gpu.getD "0", row.value))

namespace PromAnswers

/-- The labels that power, cap, clock or utilisation rows carry. -/
def labels (answers : PromAnswers) (hostname : Option String) : List String :=
  ((indexRows answers.powerUsage hostname).keys ++ (indexRows answers.powerCap hostname).keys ++
    (indexRows answers.smClock hostname).keys ++ (indexRows answers.gpuUtil hostname).keys).dedup

/-- The sample of one label. -/
def sampleOf (answers : PromAnswers) (hostname : Option String) (modelName : String) (index : ℤ)
    (label : String) : GpuSample where
  index := index
  name := modelName
  powerDrawW := (indexRows answers.powerUsage hostname).get? label
  powerLimitW := (indexRows answers.powerCap hostname).get? label
  smClockMhz := ((indexRows answers.smClock hostname).get? label).map truncate
  gpuUtilPct := ((indexRows answers.gpuUtil hostname).get? label).map truncate
  temperatureC := ((indexRows answers.gpuTemp hostname).get? label).map truncate

/-- The first power row of the host names it and its model. -/
def named (answers : PromAnswers) (hostname : Option String) : String × String :=
  match answers.powerUsage.find? fun row => row.ofHost hostname with
  | some row => (row.hostname.getD "unknown", row.modelName.getD "unknown")
  | none => (if hostname.getD "" = "" then "unknown" else hostname.getD "", "unknown")

end PromAnswers

/-- Query five metrics and build a sample; `now` is the clock reading it is stamped with. The samples
are sorted by the number each label spells. -/
def nodeSampleFromProm (answers : PromAnswers) (now : ℚ) (hostname : Option String := none) :
    Except PyError NodeSample := do
  let numbered ← (answers.labels hostname).mapM fun label =>
    (intOfText label).map fun index => (index, label)
  let allGpus := sortedBy Prod.fst numbered
  pure { ts := now, hostname := (answers.named hostname).1, driverVersion := "dcgm"
         gpus := allGpus.map fun item =>
           answers.sampleOf hostname (answers.named hostname).2 item.1 item.2 }

/-- The samples of a node by index. -/
def NodeSample.byIndex (sample : NodeSample) : Dict ℤ GpuSample :=
  .ofList (sample.gpus.map fun gpu => (gpu.index, gpu))

/-! ### The rows of one host -/

/-- What an exporter reports for the GPUs of its host. -/
structure HostReport where
  hostname : String
  modelName : String
  gpus : List ℤ
  nodup : gpus.Nodup
  powerDraw : ℤ → ℚ
  powerCap : ℤ → ℚ
  smClock : ℤ → Option ℚ
  gpuUtil : ℤ → Option ℚ
  gpuTemp : ℤ → Option ℚ

namespace HostReport

/-- The rows of one metric. -/
def rows (report : HostReport) (value : ℤ → Option ℚ) : List PromRow :=
  report.gpus.filterMap fun gpu => (value gpu).map fun value =>
    { gpu := some (toString gpu), hostname := some report.hostname
      modelName := some report.modelName, value := value }

/-- A power and a cap row for every GPU, and clock, utilisation and temperature rows for some. -/
def answers (report : HostReport) : PromAnswers where
  powerUsage := report.rows fun gpu => some (report.powerDraw gpu)
  powerCap := report.rows fun gpu => some (report.powerCap gpu)
  smClock := report.rows report.smClock
  gpuUtil := report.rows report.gpuUtil
  gpuTemp := report.rows report.gpuTemp

variable {report : HostReport} {value : ℤ → Option ℚ} {gpu : ℤ}

theorem items_indexRows (report : HostReport) (value : ℤ → Option ℚ) :
    indexRows (report.rows value) none = .ofList (report.gpus.filterMap fun gpu =>
      (value gpu).map fun value => (toString gpu, value)) := by
  have all : (report.rows value).filter (fun row => row.ofHost none) = report.rows value :=
    List.filter_eq_self.mpr fun row _ => rfl
  rw [indexRows, all, rows, List.map_filterMap]
  congr 1
  refine List.filterMap_congr fun gpu _ => ?_
  cases value gpu <;> rfl

theorem nodup_labels (report : HostReport) (value : ℤ → Option ℚ) :
    ((report.gpus.filterMap fun gpu => (value gpu).map fun value => (toString gpu, value)).map
      Prod.fst).Nodup := by
  have labels : (report.gpus.filterMap fun gpu =>
      (value gpu).map fun value => (toString gpu, value)).map Prod.fst =
        (report.gpus.filter fun gpu => (value gpu).isSome).map toString := by
    induction report.gpus with
    | nil => rfl
    | cons gpu rest ih =>
      cases reported : value gpu with
      | none => rw [List.filterMap_cons_none (by rw [reported]; rfl),
          List.filter_cons_of_neg (by simp [reported]), ih]
      | some number => rw [List.filterMap_cons_some (by rw [reported]; rfl), List.map_cons, ih,
          List.filter_cons_of_pos (by simp [reported]), List.map_cons]
  rw [labels]
  exact (report.nodup.filter _).map toString_int_injective

/-- A label is there when its GPU reports the metric. -/
theorem get?_indexRows (label : String) (number : ℚ) :
    (indexRows (report.rows value) none).get? label = some number ↔
      ∃ gpu ∈ report.gpus, toString gpu = label ∧ value gpu = some number := by
  rw [items_indexRows, Dict.get?_ofList (report.nodup_labels value),
    Dict.lookup_eq_some_iff (report.nodup_labels value), List.mem_filterMap]
  simp only [Option.map_eq_some_iff, Prod.mk.injEq]
  constructor
  · rintro ⟨gpu, listed, _, reported, rfl, rfl⟩
    exact ⟨gpu, listed, rfl, reported⟩
  · rintro ⟨gpu, listed, rfl, reported⟩
    exact ⟨gpu, listed, number, reported, rfl, rfl⟩

/-- The value under the label of a GPU of the host. -/
theorem get?_indexRows_toString (listed : gpu ∈ report.gpus) :
    (indexRows (report.rows value) none).get? (toString gpu) = value gpu := by
  refine Option.ext fun number => ?_
  rw [get?_indexRows]
  constructor
  · rintro ⟨other, _, same, reported⟩
    rw [← toString_int_injective same]
    exact reported
  · exact fun reported => ⟨gpu, listed, rfl, reported⟩

theorem mem_keys_indexRows {label : String}
    (member : label ∈ (indexRows (report.rows value) none).keys) :
    ∃ gpu ∈ report.gpus, label = toString gpu := by
  obtain ⟨number, found⟩ := Dict.mem_keys_iff.mp member
  obtain ⟨gpu, listed, same, _⟩ := (get?_indexRows label number).mp found
  exact ⟨gpu, listed, same.symm⟩

/-- The sample of one GPU of the host. -/
def sample (report : HostReport) (modelName : String) (gpu : ℤ) : GpuSample where
  index := gpu
  name := modelName
  powerDrawW := some (report.powerDraw gpu)
  powerLimitW := some (report.powerCap gpu)
  smClockMhz := (report.smClock gpu).map truncate
  gpuUtilPct := (report.gpuUtil gpu).map truncate
  temperatureC := (report.gpuTemp gpu).map truncate

/-- The labels of a host's rows are those of its GPUs. -/
theorem mem_labels {label : String} :
    label ∈ report.answers.labels none ↔ ∃ gpu ∈ report.gpus, label = toString gpu := by
  rw [PromAnswers.labels, List.mem_dedup]
  simp only [List.mem_append]
  constructor
  · rintro (((draw | cap) | clock) | util)
    · exact mem_keys_indexRows draw
    · exact mem_keys_indexRows cap
    · exact mem_keys_indexRows clock
    · exact mem_keys_indexRows util
  · rintro ⟨gpu, listed, rfl⟩
    exact .inl (.inl (.inl (Dict.mem_keys_iff.mpr ⟨_, get?_indexRows_toString listed⟩)))

theorem sampleOf_toString (modelName : String) (listed : gpu ∈ report.gpus) :
    report.answers.sampleOf none modelName gpu (toString gpu) = report.sample modelName gpu := by
  simp only [PromAnswers.sampleOf, answers, get?_indexRows_toString listed, sample]

/-- **The sample of a host**: every GPU with what is reported for it, and no other. -/
theorem nodeSample_fleet (report : HostReport) (now : ℚ) :
    ∃ node modelName, nodeSampleFromProm report.answers now = .ok node ∧ node.ts = now ∧
      ∀ gpu, node.byIndex.get? gpu =
        if gpu ∈ report.gpus then some (report.sample modelName gpu) else none := by
  -- the number a label spells
  obtain ⟨number, spells⟩ : ∃ number : String → ℤ, ∀ gpu : ℤ, number (toString gpu) = gpu :=
    ⟨fun label => (intOfText label).toOption.getD 0, fun gpu =>
      congrArg (fun outcome => outcome.toOption.getD 0) (intOfText_toString gpu)⟩
  have numbered : ((report.answers.labels none).mapM fun label =>
      (intOfText label).map fun index => (index, label)) =
        .ok ((report.answers.labels none).map fun label => (number label, label)) := by
    refine mapM_eq_ok fun label member => ?_
    obtain ⟨gpu, _, rfl⟩ := mem_labels.mp member
    rw [intOfText_toString, spells]
    rfl
  obtain ⟨modelName, named⟩ : ∃ modelName, modelName = (report.answers.named none).2 := ⟨_, rfl⟩
  have indices : ((report.answers.labels none).map number).Nodup := by
    refine List.Nodup.map_on (fun first inFirst second inSecond same => ?_) (List.nodup_dedup _)
    obtain ⟨gpu, _, rfl⟩ := mem_labels.mp inFirst
    obtain ⟨other, _, rfl⟩ := mem_labels.mp inSecond
    rw [spells, spells] at same
    rw [same]
  have sorted := sortedBy_perm Prod.fst
    ((report.answers.labels none).map fun label => (number label, label))
  refine ⟨_, modelName, by rw [nodeSampleFromProm, numbered]; rfl, rfl, fun gpu => ?_⟩
  have nodup : (((sortedBy Prod.fst ((report.answers.labels none).map fun label =>
      (number label, label))).map fun item =>
        report.answers.sampleOf none (report.answers.named none).2 item.1 item.2).map
          fun gpu => (gpu.index, gpu)).map Prod.fst |>.Nodup := by
    rw [List.map_map, List.map_map]
    refine ((sorted.map _).nodup_iff).mpr ?_
    rw [List.map_map]
    exact indices
  rw [NodeSample.byIndex, Dict.get?_ofList nodup]
  refine Option.ext fun sample => ?_
  rw [Dict.lookup_eq_some_iff nodup]
  simp only [List.mem_map, sorted.mem_iff, Prod.mk.injEq, ← named]
  constructor
  · rintro ⟨_, ⟨_, ⟨label, member, rfl⟩, rfl⟩, rfl, rfl⟩
    obtain ⟨other, listed, rfl⟩ := mem_labels.mp member
    rw [spells, sampleOf_toString modelName listed]
    exact if_pos listed
  · intro found
    split at found
    · next listed =>
      cases found
      refine ⟨_, ⟨(gpu, toString gpu), ⟨toString gpu, mem_labels.mpr ⟨gpu, listed, rfl⟩, ?_⟩,
        sampleOf_toString modelName listed⟩, rfl, rfl⟩
      rw [spells]
    · cases found

end HostReport

end Opendps.Telemetry
