/-
**Loading a quota from any document.**

`LoadedQuota.fromDict` is `QuotaConfig.from_dict` on every JSON value. `Describes` says which documents
describe a quota, and `classifies_fromDict` what the others raise: a `ValueError`, but for the documents
in which the first conversion that fails is that of a number too large for the other kind (`Overflows`).

`int()` also takes what is no whole number. `fromDict_sound_iff` says for which documents the loader
raises nothing but `ValueError` and returns a valid quota with the indices that are written.
-/

import Opendps.Pdn.Loading

namespace Opendps.Pdn

open Opendps.Lib

/-- A tenant's quota. Its id and its domain name are whatever the document has there. -/
structure LoadedTenant where
  tenantId : Json
  domainName : Json
  gpuIndices : List GpuIndex
  maxWattsPct : ℚ
  pct_pos : 0 < maxWattsPct
  pct_le_one : maxWattsPct ≤ 1

namespace LoadedTenant

/-- The constructor. A NaN is in no range. -/
def init (tenantId domainName : Json) (gpuIndices : List GpuIndex) :
    PyFloat → Except PyError LoadedTenant
  | .finite maxWattsPct =>
    if positive : 0 < maxWattsPct then
      if atMost : maxWattsPct ≤ 1 then
        .ok ⟨tenantId, domainName, gpuIndices, maxWattsPct, positive, atMost⟩
      else .error (pctRefused (.finite maxWattsPct))
    else .error (pctRefused (.finite maxWattsPct))
  | maxWattsPct => .error (pctRefused maxWattsPct)

/-- One tenant of a document. -/
def ofEntry (domainName entry : Json) : Except PyError LoadedTenant := do
  let tenantId ← entry.item "tenant_id"
  let ownDomain ← entry.getOr "domain_name" domainName
  let listed ← entry.item "gpu_indices"
  let elements ← listed.iterate
  let gpuIndices ← elements.mapM Json.intOf
  let written ← entry.item "max_watts_pct"
  let maxWattsPct ← written.floatOf
  init tenantId ownDomain gpuIndices maxWattsPct

end LoadedTenant

structure LoadedQuota where
  domainName : Json
  tenants : List LoadedTenant

namespace LoadedQuota

def totalPct (config : LoadedQuota) : ℚ := (config.tenants.map LoadedTenant.maxWattsPct).sum

/-- The overlap check: a tenant may not list a GPU an earlier tenant lists. -/
def checkOverlap : List GpuIndex → List LoadedTenant → Except PyError Unit
  | _, [] => .ok ()
  | seen, tenant :: rest =>
    if tenant.gpuIndices.any fun gpu => decide (gpu ∈ seen) then
      .error (QuotaConfig.overlapRefused seen tenant.gpuIndices)
    else checkOverlap (seen ++ tenant.gpuIndices) rest

/-- The tenants that name another domain. -/
def stray (config : LoadedQuota) : List LoadedTenant :=
  config.tenants.filter fun tenant => !tenant.domainName.eq config.domainName

def validate (config : LoadedQuota) : Except PyError Unit :=
  if config.stray ≠ [] then
    .error (QuotaConfig.strayRefused (config.stray.map fun tenant => tenant.tenantId.repr)
      config.domainName.repr)
  else if 1 + 1 / 1000000 < config.totalPct then
    .error (QuotaConfig.totalRefused config.totalPct config.domainName.formatted)
  else checkOverlap [] config.tenants

/-- Build and validate a quota. -/
def fromDict (data : Json) : Except PyError LoadedQuota :=
  if data.isObject = false then .error (.valueError "quota config must be a JSON object")
  else do
    let config ← malformed do
      let domainName ← data.item "domain_name"
      let listed ← data.getOr "tenants" (.arr [])
      let entries ← listed.iterate
      let tenants ← entries.mapM (LoadedTenant.ofEntry domainName)
      pure { domainName := domainName, tenants := tenants : LoadedQuota }
    config.validate
    pure config

/-! ### What an accepted quota guarantees -/

/-- The percentages are in range by their type. -/
structure Valid (config : LoadedQuota) : Prop where
  sameDomain : ∀ tenant ∈ config.tenants, tenant.domainName.eq config.domainName = true
  total : config.totalPct ≤ 1 + 1 / 1000000
  disjoint : config.tenants.Pairwise fun first second =>
    ∀ gpu ∈ first.gpuIndices, gpu ∉ second.gpuIndices

/-- The entries under `tenants`. -/
def entriesOf (data : Json) : List Json :=
  match data.get? "tenants" with
  | some (.arr entries) => entries
  | _ => []

/-- A number of the document with the value of an index. -/
def Writes (element : Json) (gpu : GpuIndex) : Prop :=
  element = .int gpu ∨ element = .float (.finite gpu)

/-- The indices are the numbers in the lists of the document. -/
def AsWritten (data : Json) (config : LoadedQuota) : Prop :=
  List.Forall₂ (fun entry tenant => ∃ elements, entry.get? "gpu_indices" = some (.arr elements) ∧
    List.Forall₂ Writes elements tenant.gpuIndices) (entriesOf data) config.tenants

/-- A document is refused with a `ValueError`, or its quota is valid and has the indices that are
written. -/
structure Sound (data : Json) : Prop where
  refused : ∀ exc, fromDict data = .error exc → ∃ message, exc = .valueError message
  accepted : ∀ config, fromDict data = .ok config → config.Valid ∧ AsWritten data config

/-! ### The documents that describe a quota -/

/-- An entry has the values of a tenant. -/
structure IsEntry (domainName entry : Json) (tenant : LoadedTenant) : Prop where
  tenantId : entry.get? "tenant_id" = some tenant.tenantId
  domainName : (entry.get? "domain_name").getD domainName = tenant.domainName
  gpuIndices : ∃ listed elements, entry.get? "gpu_indices" = some listed ∧
    listed.iterate = .ok elements ∧
    List.Forall₂ (fun element gpu => element.intOf = .ok gpu) elements tenant.gpuIndices
  maxWattsPct : ∃ written, entry.get? "max_watts_pct" = some written ∧
    written.floatOf = .ok (.finite tenant.maxWattsPct)

/-- A document has the values of a quota. -/
structure Describes (data : Json) (config : LoadedQuota) : Prop where
  domainName : data.get? "domain_name" = some config.domainName
  tenants : ∃ entries, ((data.get? "tenants").getD (.arr [])).iterate = .ok entries ∧
    List.Forall₂ (IsEntry config.domainName) entries config.tenants

/-- Everything of an entry is in order up to an infinite index or a huge percentage. -/
def OverflowingEntry (entry : Json) : Prop :=
  ∃ tenantId listed elements, entry.get? "tenant_id" = some tenantId ∧
    entry.get? "gpu_indices" = some listed ∧ listed.iterate = .ok elements ∧
    (FirstFatal (fun element => ∃ gpu, element.intOf = .ok gpu) Json.IsInfinite elements ∨
      (∀ element ∈ elements, ∃ gpu, element.intOf = .ok gpu) ∧
        ∃ written, entry.get? "max_watts_pct" = some written ∧ written.IsHuge)

/-- Everything of a document is in order up to an infinite index or a huge percentage. -/
def Overflows (data : Json) : Prop :=
  ∃ domainName entries, data.get? "domain_name" = some domainName ∧
    ((data.get? "tenants").getD (.arr [])).iterate = .ok entries ∧
    FirstFatal (fun entry => ∃ tenant, IsEntry domainName entry tenant) OverflowingEntry entries

/-- Every tenant lists its indices as whole numbers. -/
def WholeIndices (data : Json) : Prop :=
  ∀ entry ∈ entriesOf data, ∃ elements, entry.get? "gpu_indices" = some (.arr elements) ∧
    ∀ element ∈ elements, ∃ gpu, Writes element gpu

/-! ### One tenant -/

theorem classifies_getOr (other : String) (default : Json) {value found : Json} {key : String}
    (present : value.item key = .ok found) :
    Classifies Json.isRefusal True False (value.getOr other default) := by
  rw [Json.getOr_of_item other default present]
  exact Classifies.ok _

theorem init_finite (tenantId domainName : Json) (gpuIndices : List GpuIndex) (pct : ℚ) :
    LoadedTenant.init tenantId domainName gpuIndices (.finite pct) =
      if range : 0 < pct ∧ pct ≤ 1 then
        .ok ⟨tenantId, domainName, gpuIndices, pct, range.1, range.2⟩
      else .error (pctRefused (.finite pct)) := by
  rw [LoadedTenant.init]
  by_cases positive : 0 < pct
  · by_cases atMost : pct ≤ 1
    · rw [dif_pos positive, dif_pos atMost, dif_pos ⟨positive, atMost⟩]
    · rw [dif_pos positive, dif_neg atMost, dif_neg fun range => atMost range.2]
  · rw [dif_neg positive, dif_neg fun range => positive range.1]

theorem init_eq_ok_iff {tenantId domainName : Json} {gpuIndices : List GpuIndex} {pct : PyFloat}
    {tenant : LoadedTenant} :
    LoadedTenant.init tenantId domainName gpuIndices pct = .ok tenant ↔
      tenantId = tenant.tenantId ∧ domainName = tenant.domainName ∧
        gpuIndices = tenant.gpuIndices ∧ pct = .finite tenant.maxWattsPct := by
  constructor
  · intro built
    cases pct with
    | finite maxWattsPct =>
      rw [init_finite] at built
      split at built
      · cases built
        exact ⟨rfl, rfl, rfl, rfl⟩
      · cases built
    | _ => cases built
  · rintro ⟨rfl, rfl, rfl, rfl⟩
    rw [init_finite, dif_pos ⟨tenant.pct_pos, tenant.pct_le_one⟩]

/-- The constructor raises nothing but a `ValueError`. -/
theorem classifies_init (tenantId domainName : Json) (gpuIndices : List GpuIndex) (pct : PyFloat) :
    Classifies Json.isRefusal (∃ tenant, LoadedTenant.init tenantId domainName gpuIndices pct = .ok tenant)
      False (LoadedTenant.init tenantId domainName gpuIndices pct) := by
  refine ⟨id, False.elim, fun fails _ => ?_⟩
  cases pct with
  | finite maxWattsPct =>
    rw [init_finite] at fails ⊢
    split at fails
    · exact absurd ⟨_, rfl⟩ fails
    · next outside => exact ⟨_, dif_neg outside, rfl⟩
  | _ => exact ⟨_, rfl, rfl⟩

/-- The tenant an entry stands for. -/
theorem ofEntry_eq_ok_iff {domainName entry : Json} {tenant : LoadedTenant} :
    LoadedTenant.ofEntry domainName entry = .ok tenant ↔ IsEntry domainName entry tenant := by
  constructor
  · intro loads
    obtain ⟨tenantId, hasId, loads⟩ := ok_of_bind loads
    obtain ⟨ownDomain, hasDomain, loads⟩ := ok_of_bind loads
    obtain ⟨listed, hasIndices, loads⟩ := ok_of_bind loads
    obtain ⟨elements, iterates, loads⟩ := ok_of_bind loads
    obtain ⟨gpuIndices, converts, loads⟩ := ok_of_bind loads
    obtain ⟨written, hasPct, loads⟩ := ok_of_bind loads
    obtain ⟨maxWattsPct, isFloat, loads⟩ := ok_of_bind loads
    obtain ⟨rfl, rfl, rfl, rfl⟩ := init_eq_ok_iff.mp loads
    rw [Json.getOr_of_item _ _ hasId, Except.ok.injEq] at hasDomain
    exact ⟨Json.item_eq_ok_iff.mp hasId, hasDomain,
      ⟨listed, elements, Json.item_eq_ok_iff.mp hasIndices, iterates, mapM_eq_ok_iff.mp converts⟩,
      ⟨written, Json.item_eq_ok_iff.mp hasPct, isFloat⟩⟩
  · rintro ⟨hasId, hasDomain, ⟨listed, elements, hasIndices, iterates, converts⟩, written, hasPct, isFloat⟩
    have hasId := Json.item_eq_ok_iff.mpr hasId
    have own := Json.getOr_of_item "domain_name" domainName hasId
    rw [hasDomain] at own
    exact bind_of_ok hasId <| bind_of_ok own <| bind_of_ok (Json.item_eq_ok_iff.mpr hasIndices) <|
      bind_of_ok iterates <| bind_of_ok (mapM_eq_ok_iff.mpr converts) <|
      bind_of_ok (Json.item_eq_ok_iff.mpr hasPct) <| bind_of_ok isFloat <|
      init_eq_ok_iff.mpr ⟨rfl, rfl, rfl, rfl⟩

/-- **What loading one tenant raises.** -/
theorem classifies_ofEntry (domainName entry : Json) :
    Classifies Json.isRefusal (∃ tenant, IsEntry domainName entry tenant) (OverflowingEntry entry)
      (LoadedTenant.ofEntry domainName entry) := by
  have steps := (Json.classifies_item entry "tenant_id").bind_value fun tenantId hasId =>
    (classifies_getOr "domain_name" domainName hasId).bind_value fun ownDomain _ =>
    (Json.classifies_item entry "gpu_indices").bind_value fun listed _ =>
    (Json.classifies_iterate listed).bind_value fun elements _ =>
    (Classifies.mapM Json.classifies_intOf elements).bind_value fun gpuIndices _ =>
    (Json.classifies_item entry "max_watts_pct").bind_value fun written _ =>
    (Json.classifies_floatOf written).bind_value fun pct _ =>
    classifies_init tenantId ownDomain gpuIndices pct
  refine steps.congr (steps.isOk_iff.symm.trans (exists_congr fun _ => ofEntry_eq_ok_iff)) ?_
  simp only [false_or, and_false, exists_false, or_false, Json.item_eq_ok_iff]
  constructor
  · rintro ⟨tenantId, hasId, ownDomain, _, listed, hasIndices, elements, iterates, overflow⟩
    refine ⟨tenantId, listed, elements, hasId, hasIndices, iterates, overflow.imp_right ?_⟩
    rintro ⟨gpuIndices, converts, written⟩
    exact ⟨(Classifies.mapM Json.classifies_intOf elements).isOk_iff.mp ⟨gpuIndices, converts⟩, written⟩
  · rintro ⟨tenantId, listed, elements, hasId, hasIndices, iterates, overflow⟩
    have own := Json.getOr_of_item "domain_name" domainName (Json.item_eq_ok_iff.mpr hasId)
    refine ⟨tenantId, hasId, _, own, listed, hasIndices, elements, iterates, overflow.imp_right ?_⟩
    rintro ⟨converts, written⟩
    obtain ⟨gpuIndices, converted⟩ := (Classifies.mapM Json.classifies_intOf elements).accepted converts
    exact ⟨gpuIndices, converted, written⟩

/-! ### A document -/

theorem checkOverlap_eq_ok_iff {seen : List GpuIndex} {tenants : List LoadedTenant} :
    checkOverlap seen tenants = .ok () ↔
      (∀ tenant ∈ tenants, ∀ gpu ∈ tenant.gpuIndices, gpu ∉ seen) ∧
        tenants.Pairwise fun first second => ∀ gpu ∈ first.gpuIndices, gpu ∉ second.gpuIndices := by
  induction tenants generalizing seen with
  | nil => exact ⟨fun _ => ⟨List.forall_mem_nil _, .nil⟩, fun _ => rfl⟩
  | cons tenant rest ih =>
    have meets : (tenant.gpuIndices.any fun gpu => decide (gpu ∈ seen)) = true ↔
        ∃ gpu ∈ tenant.gpuIndices, gpu ∈ seen := by
      simp only [List.any_eq_true, decide_eq_true_eq]
    rw [checkOverlap, List.forall_mem_cons, List.pairwise_cons]
    by_cases overlap : ∃ gpu ∈ tenant.gpuIndices, gpu ∈ seen
    · rw [if_pos (meets.mpr overlap)]
      obtain ⟨gpu, own, before⟩ := overlap
      exact ⟨nofun, fun apart => absurd before (apart.1.1 gpu own)⟩
    · rw [if_neg (mt meets.mp overlap), ih]
      have apart : ∀ gpu ∈ tenant.gpuIndices, gpu ∉ seen :=
        fun gpu own before => overlap ⟨gpu, own, before⟩
      constructor
      · rintro ⟨later, disjoint⟩
        exact ⟨⟨apart, fun other member gpu own before =>
            later other member gpu own (List.mem_append_left _ before)⟩,
          fun other member gpu own theirs =>
            later other member gpu theirs (List.mem_append_right _ own), disjoint⟩
      · rintro ⟨⟨_, later⟩, here, disjoint⟩
        refine ⟨fun other member gpu own before => ?_, disjoint⟩
        rcases List.mem_append.mp before with earlier | inTenant
        · exact later other member gpu own earlier
        · exact here other member gpu inTenant own

theorem checkOverlap_refuses {seen : List GpuIndex} {tenants : List LoadedTenant} {exc : PyError}
    (refused : checkOverlap seen tenants = .error exc) : ∃ message, exc = .valueError message := by
  induction tenants generalizing seen with
  | nil => cases refused
  | cons tenant rest ih =>
    rw [checkOverlap] at refused
    split at refused
    · cases refused
      exact ⟨_, rfl⟩
    · exact ih refused

/-- An exception is a `ValueError`. -/
def isValueError : PyError → Bool
  | .valueError _ => true
  | _ => false

theorem isValueError_valueError (message : String) : isValueError (.valueError message) = true := rfl

/-- **The check** accepts the valid quotas. -/
theorem classifies_validate (config : LoadedQuota) :
    Classifies isValueError config.Valid False config.validate := by
  have named : config.stray ≠ [] ↔
      ¬ ∀ tenant ∈ config.tenants, tenant.domainName.eq config.domainName = true := by
    simp only [stray, ne_eq, List.filter_eq_nil_iff, Bool.not_eq_true', Bool.not_eq_false]
  have overlap : Classifies isValueError (config.tenants.Pairwise fun first second =>
      ∀ gpu ∈ first.gpuIndices, gpu ∉ second.gpuIndices) False (checkOverlap [] config.tenants) := by
    cases checked : checkOverlap [] config.tenants with
    | ok done =>
      have apart := (checkOverlap_eq_ok_iff.mp checked).2
      exact (Classifies.ok done).congr ⟨fun _ => apart, fun _ => trivial⟩ Iff.rfl
    | error exc =>
      obtain ⟨message, rfl⟩ := checkOverlap_refuses checked
      refine (Classifies.error rfl).congr ⟨False.elim, fun apart => ?_⟩ Iff.rfl
      have accepted := checkOverlap_eq_ok_iff.mpr ⟨fun _ _ _ _ => List.not_mem_nil, apart⟩
      exact nomatch checked.symm.trans accepted
  unfold validate
  refine (Classifies.guard (isValueError_valueError _) fun _ =>
    Classifies.guard (isValueError_valueError _) fun _ => overlap).congr ?_ (by simp only [and_false])
  rw [named, not_not, not_lt]
  exact ⟨fun ⟨sameDomain, total, disjoint⟩ => ⟨sameDomain, total, disjoint⟩,
    fun ⟨sameDomain, total, disjoint⟩ => ⟨sameDomain, total, disjoint⟩⟩

/-- The clause around the conversions turns what they raise into a `ValueError`. -/
theorem classifies_malformed {α : Type} {valid fatal : Prop} {outcome : Except PyError α}
    (step : Classifies Json.isRefusal valid fatal outcome) :
    Classifies isValueError valid fatal (malformed outcome) := by
  refine ⟨fun holds => ?_, fun stops => ?_, fun invalid harmless => ?_⟩
  · obtain ⟨value, succeeded⟩ := step.accepted holds
    exact ⟨value, by rw [succeeded]; rfl⟩
  · obtain ⟨exc, raised, uncaught⟩ := step.raised stops
    rw [raised]
    cases exc with
    | keyError key => cases uncaught
    | typeError message => cases uncaught
    | valueError message => cases uncaught
    | _ => exact ⟨_, rfl, rfl⟩
  · obtain ⟨exc, raised, isCaught⟩ := step.refused invalid harmless
    rw [raised]
    cases exc with
    | keyError key => exact ⟨_, rfl, rfl⟩
    | typeError message => exact ⟨_, rfl, rfl⟩
    | valueError message => exact ⟨_, rfl, rfl⟩
    | _ => cases isCaught

theorem malformed_eq_ok_iff {α : Type} {outcome : Except PyError α} {value : α} :
    malformed outcome = .ok value ↔ outcome = .ok value := by
  cases outcome with
  | ok other => exact Iff.rfl
  | error exc => cases exc <;> exact ⟨nofun, nofun⟩

/-- The quota a document stands for, before it is checked. -/
def build (data : Json) : Except PyError LoadedQuota := do
  let domainName ← data.item "domain_name"
  let listed ← data.getOr "tenants" (.arr [])
  let entries ← listed.iterate
  let tenants ← entries.mapM (LoadedTenant.ofEntry domainName)
  pure { domainName := domainName, tenants := tenants : LoadedQuota }

theorem build_eq_ok_iff {data : Json} {config : LoadedQuota} :
    build data = .ok config ↔ Describes data config := by
  constructor
  · intro loads
    obtain ⟨domainName, hasDomain, loads⟩ := ok_of_bind loads
    obtain ⟨listed, hasTenants, loads⟩ := ok_of_bind loads
    obtain ⟨entries, iterates, loads⟩ := ok_of_bind loads
    obtain ⟨tenants, converts, loads⟩ := ok_of_bind loads
    cases loads
    rw [Json.getOr_of_item _ _ hasDomain, Except.ok.injEq] at hasTenants
    refine ⟨Json.item_eq_ok_iff.mp hasDomain, entries, by rw [hasTenants, iterates], ?_⟩
    exact (mapM_eq_ok_iff.mp converts).imp fun _ _ => ofEntry_eq_ok_iff.mp
  · rintro ⟨hasDomain, entries, iterates, each⟩
    have hasDomain := Json.item_eq_ok_iff.mpr hasDomain
    have own := Json.getOr_of_item "tenants" (.arr []) hasDomain
    exact bind_of_ok hasDomain <| bind_of_ok own <| bind_of_ok iterates <|
      bind_of_ok (mapM_eq_ok_iff.mpr (each.imp fun _ _ => ofEntry_eq_ok_iff.mpr)) rfl

theorem classifies_build (data : Json) :
    Classifies Json.isRefusal (∃ config, Describes data config) (Overflows data) (build data) := by
  have steps := (Json.classifies_item data "domain_name").bind_value fun domainName hasDomain =>
    (classifies_getOr "tenants" (.arr []) hasDomain).bind_value fun listed _ =>
    (Json.classifies_iterate listed).bind_value fun entries _ =>
    (Classifies.mapM (classifies_ofEntry domainName) entries).bind fun tenants _ =>
    Classifies.ok { domainName := domainName, tenants := tenants : LoadedQuota }
  refine steps.congr (steps.isOk_iff.symm.trans (exists_congr fun _ => build_eq_ok_iff)) ?_
  simp only [false_or, and_false, or_false, Json.item_eq_ok_iff]
  constructor
  · rintro ⟨domainName, hasDomain, listed, hasTenants, entries, iterates, overflow⟩
    rw [Json.getOr_of_item _ _ (Json.item_eq_ok_iff.mpr hasDomain), Except.ok.injEq] at hasTenants
    exact ⟨domainName, entries, hasDomain, by rw [hasTenants, iterates], overflow⟩
  · rintro ⟨domainName, entries, hasDomain, iterates, overflow⟩
    have own := Json.getOr_of_item "tenants" (.arr []) (Json.item_eq_ok_iff.mpr hasDomain)
    exact ⟨domainName, hasDomain, _, own, entries, iterates, overflow⟩

theorem fromDict_eq (data : Json) :
    fromDict data = if data.isObject = false then
        .error (.valueError "quota config must be a JSON object")
      else malformed (build data) >>= fun config => config.validate >>= fun _ => .ok config := rfl

theorem isObject_of_get? {data found : Json} {key : String} (present : data.get? key = some found) :
    ¬ data.isObject = false := by
  cases data with
  | obj items => exact nofun
  | _ => cases present

/-- **What loading raises.** The documents of a valid quota load. Those in which a conversion overflows
first raise something else than a `ValueError`, and all others are refused with one. -/
theorem classifies_fromDict (data : Json) :
    Classifies isValueError (∃ config, Describes data config ∧ config.Valid) (Overflows data)
      (fromDict data) := by
  rw [fromDict_eq]
  refine (Classifies.guard (isValueError_valueError _) fun _ =>
    (classifies_malformed (classifies_build data)).bind_value fun config _ =>
    (classifies_validate config).bind fun _ _ => Classifies.ok config).congr ?_ ?_
  · simp only [malformed_eq_ok_iff, build_eq_ok_iff, and_true]
    exact ⟨And.right, fun ⟨config, describes, valid⟩ =>
      ⟨isObject_of_get? describes.domainName, config, describes, valid⟩⟩
  · simp only [and_false, or_false, exists_false]
    exact ⟨And.right, fun overflows => by
      obtain ⟨domainName, entries, hasDomain, rest⟩ := overflows
      exact ⟨isObject_of_get? hasDomain, domainName, entries, hasDomain, rest⟩⟩

/-- **What is loaded.** -/
theorem fromDict_eq_ok_iff {data : Json} {config : LoadedQuota} :
    fromDict data = .ok config ↔ Describes data config ∧ config.Valid := by
  rw [fromDict_eq]
  constructor
  · intro loads
    split at loads
    · cases loads
    obtain ⟨built, own, loads⟩ := ok_of_bind loads
    obtain ⟨done, checked, loads⟩ := ok_of_bind loads
    cases loads
    exact ⟨build_eq_ok_iff.mp (malformed_eq_ok_iff.mp own),
      (classifies_validate config).isOk_iff.mp ⟨done, checked⟩⟩
  · rintro ⟨describes, valid⟩
    rw [if_neg (isObject_of_get? describes.domainName)]
    obtain ⟨done, checked⟩ := (classifies_validate config).accepted valid
    exact bind_of_ok (malformed_eq_ok_iff.mpr (build_eq_ok_iff.mpr describes)) <|
      bind_of_ok checked rfl

/-! ### The indices as they are written -/

theorem intOf_of_writes {element : Json} {gpu : GpuIndex} (writes : Writes element gpu) :
    element.intOf = .ok gpu := by
  rcases writes with rfl | rfl
  · rfl
  · show Except.ok (truncate (gpu : ℚ)) = Except.ok gpu
    rw [truncate, Int.ceil_intCast, Int.floor_intCast, ite_self]

/-- A text is no entry. -/
theorem map_eq_nil_of_entries {α : Type} {texts : List α} {text : α → String} {domainName : Json}
    {tenants : List LoadedTenant}
    (each : List.Forall₂ (IsEntry domainName) (texts.map fun entry => .str (text entry)) tenants) :
    texts.map (fun entry => Json.str (text entry)) = [] := by
  cases texts with
  | nil => rfl
  | cons first rest =>
    rw [List.map_cons] at each
    cases each with
    | cons own later => cases own.tenantId

/-- The entries of a document that describes a quota are those of its list. -/
theorem Describes.entries {data : Json} {config : LoadedQuota} (describes : Describes data config) :
    List.Forall₂ (IsEntry config.domainName) (entriesOf data) config.tenants := by
  obtain ⟨_, entries, iterates, each⟩ := describes
  have listed : entriesOf data = entries := by
    unfold entriesOf
    cases tenants : data.get? "tenants" with
    | none =>
      rw [tenants] at iterates
      cases iterates
      rfl
    | some value =>
      rw [tenants] at iterates
      cases value with
      | arr elements =>
        cases iterates
        rfl
      | str text =>
        cases iterates
        exact (map_eq_nil_of_entries each).symm
      | obj items =>
        cases iterates
        exact (map_eq_nil_of_entries each).symm
      | _ => cases iterates
  rwa [listed]

theorem forall₂_writes_iff {elements : List Json} {gpuIndices : List GpuIndex}
    (converts : List.Forall₂ (fun element gpu => element.intOf = .ok gpu) elements gpuIndices) :
    List.Forall₂ Writes elements gpuIndices ↔ ∀ element ∈ elements, ∃ gpu, Writes element gpu := by
  induction converts with
  | nil => exact ⟨fun _ => List.forall_mem_nil _, fun _ => .nil⟩
  | @cons element gpu elements gpuIndices own _ ih =>
    rw [List.forall₂_cons, List.forall_mem_cons, ih]
    refine and_congr_left' ⟨fun writes => ⟨gpu, writes⟩, ?_⟩
    rintro ⟨other, writes⟩
    cases (intOf_of_writes writes).symm.trans own
    exact writes

/-- An entry has its indices as they are written when they are whole numbers in a list. -/
theorem IsEntry.asWritten_iff {domainName entry : Json} {tenant : LoadedTenant}
    (isEntry : IsEntry domainName entry tenant) :
    (∃ elements, entry.get? "gpu_indices" = some (.arr elements) ∧
        List.Forall₂ Writes elements tenant.gpuIndices) ↔
      ∃ elements, entry.get? "gpu_indices" = some (.arr elements) ∧
        ∀ element ∈ elements, ∃ gpu, Writes element gpu := by
  obtain ⟨listed, elements, hasIndices, iterates, converts⟩ := isEntry.gpuIndices
  refine exists_congr fun others => and_congr_right fun own => ?_
  cases hasIndices.symm.trans own
  cases iterates
  exact forall₂_writes_iff converts

theorem Describes.asWritten_iff {data : Json} {config : LoadedQuota}
    (describes : Describes data config) : AsWritten data config ↔ WholeIndices data := by
  have each := describes.entries
  unfold AsWritten WholeIndices
  generalize entriesOf data = entries at each ⊢
  generalize config.tenants = tenants at each ⊢
  induction each with
  | nil => exact ⟨fun _ => List.forall_mem_nil _, fun _ => .nil⟩
  | cons own _ ih =>
    rw [List.forall₂_cons, List.forall_mem_cons]
    exact and_congr own.asWritten_iff ih

/-- **The loader is sound on a document exactly when no conversion overflows first and, where the
document has the values of a valid quota, all its indices are whole numbers in a list.** For every
document. -/
theorem fromDict_sound_iff (data : Json) :
    Sound data ↔ ¬ Overflows data ∧
      ∀ config, Describes data config → config.Valid → WholeIndices data := by
  constructor
  · rintro ⟨refused, accepted⟩
    refine ⟨fun overflows => ?_, fun config describes valid => ?_⟩
    · obtain ⟨exc, raised, other⟩ := (classifies_fromDict data).raised overflows
      obtain ⟨message, rfl⟩ := refused exc raised
      cases other
    · exact describes.asWritten_iff.mp (accepted config (fromDict_eq_ok_iff.mpr ⟨describes, valid⟩)).2
  · rintro ⟨harmless, whole⟩
    refine ⟨fun exc raised => ?_, fun config loads => ?_⟩
    · by_contra other
      have uncaught : isValueError exc = false := by
        cases exc with
        | valueError message => exact absurd ⟨message, rfl⟩ other
        | _ => rfl
      exact harmless ((classifies_fromDict data).uncaught_iff.mp ⟨exc, raised, uncaught⟩)
    · obtain ⟨describes, valid⟩ := fromDict_eq_ok_iff.mp loads
      exact ⟨valid, describes.asWritten_iff.mpr (whole config describes valid)⟩

/-! ### A fractional and an infinite index -/

/-- A tenant with one GPU and half of the budget. -/
def soleTenant (index : Json) : Json :=
  .obj [("gpu_indices", .arr [index]), ("max_watts_pct", .float (.finite (1 / 2))),
    ("tenant_id", .str "tenant-a")]

def soleDocument (index : Json) : Json :=
  .obj [("domain_name", .str "dom0"), ("tenants", .arr [soleTenant index])]

/-- The quota of tenant-a, with GPU 2. -/
def soleQuota : LoadedQuota where
  domainName := .str "dom0"
  tenants := [⟨.str "tenant-a", .str "dom0", [2], 1 / 2, one_half_pos, one_half_lt_one.le⟩]

/-- The index 2.7 is loaded as 2, and an infinite index raises an `OverflowError`. -/
theorem fromDict_unsound :
    fromDict (soleDocument (.float (.finite (27 / 10)))) = .ok soleQuota ∧
      ¬ Sound (soleDocument (.float (.finite (27 / 10)))) ∧
      fromDict (soleDocument (.float .posInf)) =
        .error (.overflowError "cannot convert float infinity to integer") ∧
      ¬ Sound (soleDocument (.float .posInf)) := by
  have describes : Describes (soleDocument (.float (.finite (27 / 10)))) soleQuota := by
    have truncated : truncate (27 / 10) = 2 := by decide +kernel
    refine ⟨rfl, [soleTenant (.float (.finite (27 / 10)))], rfl, .cons ?_ .nil⟩
    exact ⟨rfl, rfl, ⟨_, _, rfl, rfl, .cons (congrArg Except.ok truncated) .nil⟩, _, rfl, rfl⟩
  have valid : soleQuota.Valid := by
    refine ⟨fun tenant member => ?_, by norm_num [totalPct, soleQuota], List.pairwise_singleton _ _⟩
    rw [List.mem_singleton.mp member]
    exact Json.eq_str_iff.mpr rfl
  have loads := fromDict_eq_ok_iff.mpr ⟨describes, valid⟩
  refine ⟨loads, fun sound => ?_, rfl, fun sound => ?_⟩
  · have whole := describes.asWritten_iff.mp (sound.accepted _ loads).2
    obtain ⟨elements, listed, each⟩ := whole _ List.mem_cons_self
    cases listed
    obtain ⟨gpu, written | written⟩ := each _ List.mem_cons_self
    · cases written
    · rw [Json.float.injEq, PyFloat.finite.injEq] at written
      have integral : (27 : ℚ) = ((10 * gpu : ℤ) : ℚ) := by
        push_cast
        linarith
      have numbers : (27 : ℤ) = 10 * gpu := by exact_mod_cast integral
      omega
  · obtain ⟨message, other⟩ := sound.refused _ rfl
    cases other

/-! ### Documents whose values have the expected types -/

/-- A tenant with texts for its id and its domain. -/
def ofTenant (tenant : TenantQuota) : LoadedTenant where
  tenantId := .str tenant.tenantId
  domainName := .str tenant.domainName
  gpuIndices := tenant.gpuIndices
  maxWattsPct := tenant.maxWattsPct
  pct_pos := tenant.pct_pos
  pct_le_one := tenant.pct_le_one

def ofConfig (config : QuotaConfig) : LoadedQuota where
  domainName := .str config.domainName
  tenants := config.tenants.map ofTenant

/-- The document of a tenant. -/
def entryOfSpec (spec : TenantSpec) : Json :=
  .ofFields [("tenant_id", spec.tenantId.map .str), ("domain_name", spec.domainName.map .str),
    ("gpu_indices", spec.gpuIndices.map fun gpus => .arr (gpus.map .int)),
    ("max_watts_pct", spec.maxWattsPct.map fun pct => .float (.finite pct))]

/-- The document of a quota. -/
def documentOfSpec (spec : QuotaSpec) : Json :=
  .ofFields [("domain_name", spec.domainName.map .str),
    ("tenants", spec.tenants.map fun tenants => .arr (tenants.map entryOfSpec))]

theorem init_ofTenant (tenantId domainName : String) (gpuIndices : List GpuIndex) (pct : ℚ) :
    LoadedTenant.init (.str tenantId) (.str domainName) gpuIndices (.finite pct) =
      (TenantQuota.init tenantId domainName gpuIndices pct).map ofTenant := by
  unfold LoadedTenant.init TenantQuota.init
  by_cases positive : 0 < pct
  · by_cases atMost : pct ≤ 1 <;> simp [positive, atMost, Except.map, ofTenant]
  · simp [positive, Except.map]

theorem mapM_intOf_int (gpus : List GpuIndex) : (gpus.map Json.int).mapM Json.intOf = .ok gpus :=
  mapM_eq_ok_iff.mpr (List.forall₂_map_left_iff.mpr (List.forall₂_same.mpr fun _ _ => rfl))

theorem ofEntry_entryOfSpec (domainName : String) (spec : TenantSpec) :
    LoadedTenant.ofEntry (.str domainName) (entryOfSpec spec) =
      (TenantQuota.ofSpec domainName spec).map ofTenant := by
  have hasId : (entryOfSpec spec).item "tenant_id" = required "tenant_id" (spec.tenantId.map .str) :=
    item_ofFields (by simp) (by simp)
  have hasIndices : (entryOfSpec spec).item "gpu_indices" =
      required "gpu_indices" (spec.gpuIndices.map fun gpus => .arr (gpus.map .int)) :=
    item_ofFields (by simp) (by simp)
  have hasPct : (entryOfSpec spec).item "max_watts_pct" =
      required "max_watts_pct" (spec.maxWattsPct.map fun pct => .float (.finite pct)) :=
    item_ofFields (by simp) (by simp)
  have own : (entryOfSpec spec).get? "domain_name" = spec.domainName.map .str :=
    Json.get?_ofFields (by simp) (by simp)
  obtain ⟨tenantId, ownDomain, gpuIndices, maxWattsPct⟩ := spec
  unfold LoadedTenant.ofEntry TenantQuota.ofSpec
  cases tenantId with
  | none =>
    rw [hasId]
    rfl
  | some tenantId =>
    rw [Json.getOr_of_item "domain_name" (.str domainName) hasId, own, hasId, hasIndices]
    cases gpuIndices with
    | none => rfl
    | some gpuIndices =>
      rw [hasPct]
      show ((gpuIndices.map Json.int).mapM Json.intOf >>= _) = _
      rw [mapM_intOf_int]
      cases maxWattsPct with
      | none => rfl
      | some maxWattsPct =>
        have name : (ownDomain.map Json.str).getD (.str domainName) =
            .str (ownDomain.getD domainName) := by cases ownDomain <;> rfl
        show LoadedTenant.init (.str tenantId) _ gpuIndices (.finite maxWattsPct) = _
        rw [name]
        exact init_ofTenant _ _ _ _

theorem mapM_entryOfSpec (domainName : String) (specs : List TenantSpec) :
    (specs.map entryOfSpec).mapM (LoadedTenant.ofEntry (.str domainName)) =
      (specs.mapM (TenantQuota.ofSpec domainName)).map (List.map ofTenant) := by
  induction specs with
  | nil => rfl
  | cons spec rest ih =>
    rw [List.map_cons, List.mapM_cons, List.mapM_cons, ofEntry_entryOfSpec, ih]
    cases TenantQuota.ofSpec domainName spec with
    | error exc => rfl
    | ok tenant => cases rest.mapM (TenantQuota.ofSpec domainName) <;> rfl

theorem checkOverlap_ofTenant (seen : List GpuIndex) (tenants : List TenantQuota) :
    checkOverlap seen (tenants.map ofTenant) = QuotaConfig.checkOverlap seen tenants := by
  induction tenants generalizing seen with
  | nil => rfl
  | cons tenant rest ih =>
    rw [List.map_cons, checkOverlap, QuotaConfig.checkOverlap, ih]
    rfl

theorem validate_ofConfig (config : QuotaConfig) : (ofConfig config).validate = config.validate := by
  have stray : (ofConfig config).stray = config.stray.map ofTenant := by
    rw [LoadedQuota.stray, ofConfig, List.filter_map]
    refine congrArg (fun select => (config.tenants.filter select).map ofTenant) (funext fun tenant => ?_)
    show (!(Json.str tenant.domainName).eq (.str config.domainName)) = _
    rw [Bool.eq_iff_iff, Bool.not_eq_true', ← Bool.not_eq_true, Json.eq_str_iff, Json.str.injEq,
      decide_eq_true_iff]
    exact not_congr eq_comm
  have total : (ofConfig config).totalPct = config.totalPct := by
    rw [totalPct, ofConfig, List.map_map]
    rfl
  have ids : (config.stray.map ofTenant).map (fun tenant => tenant.tenantId.repr) =
      config.stray.map fun tenant => reprText tenant.tenantId := List.map_map
  have named : (config.stray.map ofTenant ≠ []) = (config.stray ≠ []) :=
    congrArg Not (propext List.map_eq_nil_iff)
  rw [validate, QuotaConfig.validate, stray, total, ids]
  simp only [named]
  rw [ofConfig, checkOverlap_ofTenant]
  rfl

/-- **On the documents of the expected types the loader is the one on their values.** -/
theorem fromDict_documentOfSpec (spec : QuotaSpec) :
    fromDict (documentOfSpec spec) = (QuotaConfig.fromDict spec).map ofConfig := by
  have hasDomain : (documentOfSpec spec).item "domain_name" =
      required "domain_name" (spec.domainName.map .str) := item_ofFields (by simp) (by simp)
  have own : (documentOfSpec spec).get? "tenants" =
      spec.tenants.map fun tenants => .arr (tenants.map entryOfSpec) :=
    Json.get?_ofFields (by simp) (by simp)
  have object : (documentOfSpec spec).isObject = true := rfl
  rw [fromDict_eq, object, if_neg (by decide)]
  unfold build QuotaConfig.fromDict
  obtain ⟨domainName, tenants⟩ := spec
  cases domainName with
  | none =>
    rw [hasDomain]
    rfl
  | some domainName =>
    have iterates : ((tenants.map fun tenants => Json.arr (tenants.map entryOfSpec)).getD
        (.arr [])).iterate = .ok ((tenants.getD []).map entryOfSpec) := by cases tenants <;> rfl
    rw [Json.getOr_of_item "tenants" (.arr []) hasDomain, own, hasDomain]
    show malformed (Json.iterate _ >>= _) >>= _ = (malformed ((tenants.getD []).mapM _ >>= _) >>= _).map _
    rw [iterates]
    show malformed (List.mapM _ _ >>= _) >>= _ = _
    rw [mapM_entryOfSpec]
    cases (tenants.getD []).mapM (TenantQuota.ofSpec domainName) with
    | error exc => cases exc <;> rfl
    | ok built =>
      show (ofConfig ⟨domainName, built⟩).validate >>= _ = (QuotaConfig.validate _ >>= _).map _
      rw [validate_ofConfig]
      cases QuotaConfig.validate _ <;> rfl

end LoadedQuota

end Opendps.Pdn
