/-
**The history of a tenant's brains.**

The quota brain keeps a PRS brain for each tenant and each list of GPUs the tenant was active with, and
the one of the current list is run (`slotBrain`, `decide_tenant_cases`): the others wait, with what they
remember of the ticks they ran at. So the smoothed draw of a GPU blends its draws at the ticks with the
present list of active GPUs, and no others.

`tenant_ewma_history` states this over all runs, and that a single PRS brain that is fed the same draws
holds the same value. A GPU that reports at every tick may start over when another one of its tenant
drops out (`tenant_ewma_starts_over`).
-/

import Opendps.Brain.QuotaSlices
import Opendps.Brain.PrsEnvelope
import Opendps.Lib.Outcome

namespace Opendps.Brain

open Opendps.Lib Opendps.Pdn

/-! ### Smoothed draws -/

/-- The blend of some draws in order; the first one counts in full. -/
def blends (alpha : ℚ) (draws : List ℚ) : Option ℚ :=
  draws.foldl (fun held draw => some (blend alpha draw (held.getD draw))) none

theorem blends_append_singleton (alpha : ℚ) (draws : List ℚ) (draw : ℚ) :
    blends alpha (draws ++ [draw]) = some (blend alpha draw ((blends alpha draws).getD draw)) := by
  rw [blends, List.foldl_append]
  rfl

namespace PRSBrain

/-- The smoothed draw a brain holds for a GPU of a domain. -/
def heldEwma (brain : PRSBrain) (domainName : String) (gpu : GpuIndex) : Option ℚ :=
  (brain.ewma.getD domainName .empty).get? gpu

/-- A tick works on the held draw, with a reported one blended in. -/
theorem ewma_tick (brain : PRSBrain) (budget : ℚ) (domainName : String) (state : DomainState)
    (gpu : GpuIndex) :
    (brain.tick budget domainName state).ewma.get? gpu =
      ((state.gpuDraws.get? gpu).map fun draw =>
        blend brain.params.ewmaAlpha draw ((brain.heldEwma domainName gpu).getD draw)).or
          (brain.heldEwma domainName gpu) :=
  get?_updateEwma _ _ _ _

/-- What a tick worked on is held from then on. -/
theorem heldEwma_of_decide {brain next : PRSBrain} {topology : PDNTopology} {domainName : String}
    {state : DomainState} {decision : BrainDecision} {budget : ℚ}
    (answer : topology.domainBudgetW domainName = .ok budget)
    (call : brain.decide topology domainName state = .ok (decision, next)) (gpu : GpuIndex) :
    next.heldEwma domainName gpu = (brain.tick budget domainName state).ewma.get? gpu := by
  unfold heldEwma
  rw [(decide_ok answer call).2.2.1, Dict.getD_set_self]

/-- **A brain that is called for one domain** holds the blend of the draws reported to it. -/
theorem heldEwma_run (params : PRSParams) {topology : PDNTopology} {domainName : String} {budget : ℚ}
    (answer : topology.domainBudgetW domainName = .ok budget) (states : List DomainState)
    (gpu : GpuIndex) :
    (run step { params := params } (states.map (.decide topology domainName))).heldEwma domainName
      gpu = blends params.ewmaAlpha (states.filterMap fun state => state.gpuDraws.get? gpu) := by
  induction states using List.reverseRecOn with
  | nil => rfl
  | append_singleton earlier last ih =>
    rw [List.map_append, List.map_singleton, run_append_singleton, List.filterMap_append]
    obtain ⟨decision, next, call⟩ := decide_isOk
      (run step { params := params } (earlier.map (.decide topology domainName))) last answer
    rw [step_decide call, heldEwma_of_decide answer call, ewma_tick, params_run, ih]
    cases drawn : last.gpuDraws.get? gpu with
    | none => simp [drawn]
    | some draw => simp [drawn, blends_append_singleton]

end PRSBrain

/-! ### A tenant's part of a decision -/

namespace QuotaAwarePRSBrain

/-- The PRS brain kept for a tenant and some of its GPUs; a new one when there is none. -/
def slotBrain (self : QuotaAwarePRSBrain) (tenant : TenantQuota) (gpus : List GpuIndex) : PRSBrain :=
  ((self.tenantBrains.get? (tenant.tenantId, gpus)).map TenantBrain.brain).getD
    { params := self.prsParams }

/-- The brain a tenant runs at a tick, with its sub-topology. -/
def tenantBrain (self : QuotaAwarePRSBrain) (domainName : String) (budget : ℚ) (state : DomainState)
    (tenant : TenantQuota) : TenantBrain :=
  brainFor self.prsParams domainName budget state { tenantBrains := self.tenantBrains } tenant

/-- What the brain of a tenant works on at a tick. -/
def tenantTick (self : QuotaAwarePRSBrain) (domainName : String) (subBudget : ℚ)
    (state : DomainState) (tenant : TenantQuota) : Tick :=
  (self.slotBrain tenant (activeGpus state tenant)).tick subBudget
    (subDomainName domainName tenant.tenantId)
    (subState domainName state tenant (activeGpus state tenant))

theorem tenantBrain_brain (self : QuotaAwarePRSBrain) (domainName : String) (budget : ℚ)
    (state : DomainState) (tenant : TenantQuota) :
    (self.tenantBrain domainName budget state tenant).brain =
      self.slotBrain tenant (activeGpus state tenant) := by
  unfold tenantBrain brainFor slotBrain
  cases self.tenantBrains.get? (tenant.tenantId, activeGpus state tenant) with
  | none => rfl
  | some kept => rfl

/-- A call that returns is about a domain of the topology. -/
theorem domain_of_decide {self next : QuotaAwarePRSBrain} {topology : PDNTopology}
    {domainName : String} {state : DomainState} {now : ℚ} {decision : BrainDecision}
    (call : self.decide topology domainName state now = .ok (decision, next)) :
    ∃ found, topology.domain domainName = .ok found := by
  unfold QuotaAwarePRSBrain.decide at call
  obtain ⟨found, present, _⟩ := ok_of_bind call
  exact ⟨found, present⟩

/-- A tenant notices nothing of a walk over tenants with other GPUs. -/
theorem walk_frame {params : PRSParams} {domainName : String} {budget : ℚ} {state : DomainState}
    {tenant : TenantQuota} {tenants : List TenantQuota} {pass final : QuotaPass}
    (apart : ∀ other ∈ tenants, ∀ gpu ∈ tenant.gpuIndices, gpu ∉ other.gpuIndices)
    (ran : tenants.foldlM (tenantStep params domainName budget state) pass = .ok final) :
    SameSlice tenant pass final := by
  induction tenants generalizing pass with
  | nil =>
    cases ran
    exact .refl tenant _
  | cons other rest ih =>
    rw [List.foldlM_cons] at ran
    obtain ⟨next, step, later⟩ := ok_of_bind ran
    exact (tenantStep_frame step (apart other List.mem_cons_self)).trans
      (ih (fun another member => apart another (List.mem_cons_of_mem _ member)) later)

/-- The slots of a tenant after a call, where only the one of the given GPUs has changed. -/
def SlotsUpdated (self next : QuotaAwarePRSBrain) (tenant : TenantQuota) (ranOn : List GpuIndex)
    (brain : PRSBrain) : Prop :=
  ∀ gpus, gpus ≠ [] → (∀ gpu ∈ gpus, gpu ∈ tenant.gpuIndices) →
    next.slotBrain tenant gpus = if gpus = ranOn then brain else self.slotBrain tenant gpus

/-- **A tenant's part of a decision.** Its brains are left alone and its GPUs get no cap, or the brain of
its active GPUs runs on their telemetry and its caps, scaled down to the slice, are those of the
tenant. -/
theorem decide_tenant_cases {self next : QuotaAwarePRSBrain} {topology : PDNTopology}
    {domainName : String} {found : PowerDomain} {state : DomainState} {now : ℚ}
    {decision : BrainDecision} (cacheOk : CacheOk self.quota.domainName self.tenantBrains)
    (present : topology.domain domainName = .ok found)
    (call : self.decide topology domainName state now = .ok (decision, next)) {tenant : TenantQuota}
    (member : tenant ∈ self.quota.tenants) :
    ((tenant.domainName ≠ domainName ∨ activeGpus state tenant = []) ∧
        (tenant.domainName = domainName → ∀ gpu ∈ tenant.gpuIndices,
          decision.caps.get? gpu = none) ∧
        ∀ gpus, gpus ≠ [] → (∀ gpu ∈ gpus, gpu ∈ tenant.gpuIndices) →
          next.slotBrain tenant gpus = self.slotBrain tenant gpus) ∨
      ∃ subBudget inner brain,
        (tenant.domainName = domainName ∧ activeGpus state tenant ≠ []) ∧
        (self.tenantBrain domainName found.budgetW state tenant).topology.domainBudgetW
            (subDomainName domainName tenant.tenantId) = .ok subBudget ∧
        (self.slotBrain tenant (activeGpus state tenant)).decide
            (self.tenantBrain domainName found.budgetW state tenant).topology
            (subDomainName domainName tenant.tenantId)
            (subState domainName state tenant (activeGpus state tenant)) = .ok (inner, brain) ∧
        (∀ gpu ∈ tenant.gpuIndices, decision.caps.get? gpu =
          (renormalise (QuotaConfig.tenantBudgetW tenant found.budgetW)
            (self.tenantTick domainName subBudget state tenant).caps).get? gpu) ∧
        self.SlotsUpdated next tenant (activeGpus state tenant) brain := by
  obtain ⟨final, walked, inv, answer⟩ := self.decide_eq_walk state now cacheOk present
  cases answer.symm.trans call
  have valid := QuotaConfig.valid_of_validate self.validated
  obtain ⟨before, after, split⟩ := List.append_of_mem member
  have disjoint := valid.disjoint
  rw [walk, split, List.foldlM_append] at walked
  rw [split, List.pairwise_append, List.pairwise_cons] at disjoint
  obtain ⟨first, firstRan, rest⟩ := ok_of_bind walked
  rw [List.foldlM_cons] at rest
  obtain ⟨second, own, lastRan⟩ := ok_of_bind rest
  have early : SameSlice tenant { tenantBrains := self.tenantBrains } first :=
    walk_frame (fun other inBefore gpu listed theirs =>
      disjoint.2.2 other inBefore tenant List.mem_cons_self gpu theirs listed) firstRan
  have late : SameSlice tenant second final :=
    walk_frame (fun other inAfter gpu listed => disjoint.2.1.1 other inAfter gpu listed) lastRan
  have untouched : ∀ gpu ∈ tenant.gpuIndices, first.allCaps.get? gpu = none :=
    fun gpu listed => (early.caps gpu listed).symm
  have shared : tenant.domainName = domainName → ∀ gpu ∈ tenant.gpuIndices,
      (shareRest found.budgetW state final).get? gpu = second.allCaps.get? gpu := by
    intro here gpu listed
    have unpooled := not_mem_unassigned inv member (.inl here) listed
    rw [get?_shareRest, if_neg unpooled, ← late.caps gpu listed]
  rcases tenantStep_cases own with ⟨idle, caps, brains⟩ | ⟨inner, brain, busy, ran, caps, brains⟩
  · refine .inl ⟨idle, fun here gpu listed => ?_, fun gpus some inside => ?_⟩
    · exact (shared here gpu listed).trans (caps ▸ untouched gpu listed)
    · unfold slotBrain
      rw [← late.brains gpus some inside, brains, ← early.brains gpus some inside]
  · have listedActive : ∀ gpu ∈ activeGpus state tenant, gpu ∈ tenant.gpuIndices :=
      fun gpu active => mem_activeGpus active
    have sameBrain : brainFor self.prsParams domainName found.budgetW state first tenant =
        self.tenantBrain domainName found.budgetW state tenant := by
      unfold tenantBrain brainFor
      rw [early.brains _ busy.2 listedActive]
    rw [sameBrain] at ran brains
    obtain ⟨subBudget, budget⟩ := PRSBrain.budget_of_decide ran
    have proposals := (PRSBrain.decide_ok budget ran).1
    rw [tenantBrain_brain] at ran proposals
    refine .inr ⟨subBudget, inner, brain, busy, budget, ran, fun gpu listed => ?_, ?_⟩
    · refine (shared busy.1 gpu listed).trans ?_
      rw [caps, Dict.get?_update, untouched gpu listed, Option.or_none, proposals]
      rfl
    · intro gpus some inside
      unfold slotBrain
      rw [← late.brains gpus some inside, brains, Dict.get?_set]
      by_cases here : gpus = activeGpus state tenant
      · rw [here, if_pos rfl, if_pos rfl]
        rfl
      · have elsewhere : (tenant.tenantId, gpus) ≠ (tenant.tenantId, activeGpus state tenant) :=
          fun same => here (Prod.mk.inj same).2
        rw [if_neg elsewhere, if_neg here, ← early.brains gpus some inside]

theorem drawn_of_active {state : DomainState} {tenant : TenantQuota} {gpu : GpuIndex}
    (active : gpu ∈ activeGpus state tenant) : gpu ∈ state.gpuDraws.keys :=
  Dict.contains_iff.mp (List.mem_filter.mp (List.mem_filter.mp active).1).2

/-- What calls keep of a quota brain: its configuration, its cache, and the parameters of its brains. -/
structure Kept (brain₀ brain : QuotaAwarePRSBrain) : Prop where
  quota : brain.quota = brain₀.quota
  params : brain.prsParams = brain₀.prsParams
  cacheOk : CacheOk brain₀.quota.domainName brain.tenantBrains
  slotParams : ∀ tenant ∈ brain₀.quota.tenants, ∀ gpus, gpus ≠ [] →
    (∀ gpu ∈ gpus, gpu ∈ tenant.gpuIndices) →
      (brain.slotBrain tenant gpus).params = brain₀.prsParams

/-- The brains of a fresh cache are new. -/
theorem slotBrain_of_fresh {self : QuotaAwarePRSBrain} (fresh : self.tenantBrains = .empty)
    (tenant : TenantQuota) (gpus : List GpuIndex) :
    self.slotBrain tenant gpus = { params := self.prsParams } := by
  unfold slotBrain
  rw [fresh]
  rfl

theorem Kept.start {brain₀ : QuotaAwarePRSBrain} (fresh : brain₀.tenantBrains = .empty) :
    Kept brain₀ brain₀ := by
  refine ⟨rfl, rfl, .of_fresh fresh, fun tenant _ gpus _ _ => ?_⟩
  rw [slotBrain_of_fresh fresh]

theorem Kept.decide {brain₀ self next : QuotaAwarePRSBrain} (kept : Kept brain₀ self)
    {topology : PDNTopology} {domainName : String} {state : DomainState} {now : ℚ}
    {decision : BrainDecision}
    (call : self.decide topology domainName state now = .ok (decision, next)) :
    Kept brain₀ next := by
  obtain ⟨found, present⟩ := domain_of_decide call
  have cacheOk : CacheOk self.quota.domainName self.tenantBrains := kept.quota ▸ kept.cacheOk
  obtain ⟨pass, _, inv, answer⟩ := self.decide_eq_walk state now cacheOk present
  refine ⟨?_, ?_, ?_, fun tenant member gpus some inside => ?_⟩
  · cases answer.symm.trans call
    exact kept.quota
  · cases answer.symm.trans call
    exact kept.params
  · cases answer.symm.trans call
    exact kept.quota ▸ inv.cacheOk
  · have before := kept.slotParams tenant member gpus some inside
    rcases decide_tenant_cases cacheOk present call (kept.quota ▸ member) with
      ⟨_, _, untouched⟩ | ⟨subBudget, inner, brain, _, budget, ran, _, updated⟩
    · rw [untouched gpus some inside, before]
    · rw [updated gpus some inside]
      split
      · next here =>
        rw [(PRSBrain.decide_ok budget ran).2.1, ← here, before]
      · exact before

/-! ### Whole runs -/

/-- A tick of a controller on the quota brain. -/
structure QuotaTick extends QuotaCall where
  topology : PDNTopology

/-- The brain after a tick; one that raises leaves it as it is. -/
def step (self : QuotaAwarePRSBrain) (tick : QuotaTick) : QuotaAwarePRSBrain :=
  match self.decide tick.topology tick.domainName tick.state tick.now with
  | .ok (_, next) => next
  | .error _ => self

/-- A tick runs the brain a tenant keeps for the given GPUs. -/
def RunsSlot (tenant : TenantQuota) (gpus : List GpuIndex) (tick : QuotaTick) : Prop :=
  tenant.domainName = tick.domainName ∧ tick.topology.domains.contains tick.domainName ∧
    activeGpus tick.state tenant = gpus

instance (tenant : TenantQuota) (gpus : List GpuIndex) : DecidablePred (RunsSlot tenant gpus) :=
  fun _ => inferInstanceAs (Decidable (_ ∧ _ ∧ _))

/-- The draws of a GPU at the ticks that run the brain kept for the given GPUs. -/
def slotDraws (tenant : TenantQuota) (gpus : List GpuIndex) (gpu : GpuIndex)
    (ticks : List QuotaTick) : List ℚ :=
  (ticks.filter fun tick => Decidable.decide (RunsSlot tenant gpus tick)).filterMap fun tick =>
    tick.state.gpuDraws.get? gpu

/-- Every slot of a tenant holds the blend of the draws at the ticks that have run it. -/
def Remembers (tenant : TenantQuota) (past : List QuotaTick) (self : QuotaAwarePRSBrain) : Prop :=
  ∀ gpus, gpus ≠ [] → (∀ gpu ∈ gpus, gpu ∈ tenant.gpuIndices) → ∀ gpu ∈ gpus,
    (self.slotBrain tenant gpus).heldEwma (subDomainName tenant.domainName tenant.tenantId) gpu =
      blends self.prsParams.ewmaAlpha (slotDraws tenant gpus gpu past)

section Ticks

variable {brain₀ self : QuotaAwarePRSBrain} {tenant : TenantQuota} {gpus : List GpuIndex}
  {past : List QuotaTick} {tick : QuotaTick}

theorem slotDraws_of_runs (runs : RunsSlot tenant gpus tick) {gpu : GpuIndex} (active : gpu ∈ gpus) :
    slotDraws tenant gpus gpu (past ++ [tick]) =
      slotDraws tenant gpus gpu past ++ [tick.state.gpuDraws.getD gpu 0] := by
  have drawn : gpu ∈ tick.state.gpuDraws.keys :=
    drawn_of_active (runs.2.2 ▸ active)
  obtain ⟨draw, reported⟩ := Dict.mem_keys_iff.mp drawn
  unfold slotDraws
  rw [List.filter_append, List.filterMap_append, List.filter_cons_of_pos (by simpa using runs),
    Dict.getD_of_some reported]
  simp [reported]

theorem slotDraws_of_not_runs (idle : ¬ RunsSlot tenant gpus tick) (gpu : GpuIndex) :
    slotDraws tenant gpus gpu (past ++ [tick]) = slotDraws tenant gpus gpu past := by
  unfold slotDraws
  rw [List.filter_append, List.filter_cons_of_neg (by simpa using idle), List.filter_nil,
    List.append_nil]

/-- The draw a tick works on is blended into what its brain holds. -/
theorem ewma_tenantTick (remembers : Remembers tenant past self)
    (kept : (self.slotBrain tenant gpus).params = self.prsParams) (runs : RunsSlot tenant gpus tick)
    (inside : ∀ gpu ∈ gpus, gpu ∈ tenant.gpuIndices) {gpu : GpuIndex} (active : gpu ∈ gpus)
    (subBudget : ℚ) :
    (self.tenantTick tick.domainName subBudget tick.state tenant).ewma.get? gpu =
      blends self.prsParams.ewmaAlpha (slotDraws tenant gpus gpu (past ++ [tick])) := by
  have some : gpus ≠ [] := List.ne_nil_of_mem active
  have reported : (subState tick.domainName tick.state tenant gpus).gpuDraws.get? gpu =
      Option.some (tick.state.gpuDraws.getD gpu 0) :=
    Dict.get?_ofKeys_of_mem _ active
  rw [slotDraws_of_runs runs active, blends_append_singleton, ← remembers gpus some inside gpu active,
    tenantTick, runs.2.2, PRSBrain.ewma_tick, reported, kept, runs.1]
  rfl

/-- What a tick of the controller does: nothing, for a domain that is not there, or one decision. -/
theorem step_cases (kept : Kept brain₀ self) (tick : QuotaTick) :
    (¬ tick.topology.domains.contains tick.domainName ∧ self.step tick = self) ∨
      ∃ found decision next, tick.topology.domain tick.domainName = .ok found ∧
        self.decide tick.topology tick.domainName tick.state tick.now = .ok (decision, next) ∧
        self.step tick = next := by
  cases stored : tick.topology.domains.get? tick.domainName with
  | none =>
    have missing : tick.topology.domain tick.domainName = .error (.keyError tick.domainName) := by
      rw [PDNTopology.domain, stored]
    have raised : self.decide tick.topology tick.domainName tick.state tick.now =
        .error (.keyError tick.domainName) := by
      unfold QuotaAwarePRSBrain.decide
      rw [missing]
      rfl
    refine .inl ⟨by simp [Dict.contains, stored], ?_⟩
    simp only [step, raised]
  | some found =>
    have present : tick.topology.domain tick.domainName = .ok found := by
      rw [PDNTopology.domain, stored]
    obtain ⟨pass, _, _, answer⟩ :=
      self.decide_eq_walk tick.state tick.now (kept.quota ▸ kept.cacheOk) present
    exact .inr ⟨found, _, _, present, answer, by simp only [step, answer]⟩

theorem Kept.step (kept : Kept brain₀ self) (tick : QuotaTick) : Kept brain₀ (self.step tick) := by
  rcases step_cases kept tick with ⟨_, same⟩ | ⟨found, decision, next, _, call, same⟩
  · rw [same]
    exact kept
  · rw [same]
    exact kept.decide call

/-- **One tick of the history.** The brain that runs blends the draws in, the others wait. -/
theorem Remembers.step (remembers : Remembers tenant past self) (kept : Kept brain₀ self)
    (member : tenant ∈ brain₀.quota.tenants) (tick : QuotaTick) :
    Remembers tenant (past ++ [tick]) (self.step tick) := by
  intro gpus some inside gpu active
  have before := remembers gpus some inside gpu active
  rw [(kept.step tick).params, ← kept.params]
  rcases step_cases kept tick with ⟨missing, same⟩ | ⟨found, decision, next, present, call, same⟩
  · rw [same, slotDraws_of_not_runs fun runs => missing runs.2.1, before]
  · rw [same]
    rcases decide_tenant_cases (kept.quota ▸ kept.cacheOk) present call (kept.quota ▸ member) with
      ⟨idle, _, untouched⟩ | ⟨subBudget, inner, brain, busy, budget, ran, _, updated⟩
    · have waits : ¬ RunsSlot tenant gpus tick := by
        rintro ⟨here, _, listed⟩
        exact idle.elim (· here) fun none => some (listed ▸ none)
      rw [untouched gpus some inside, slotDraws_of_not_runs waits, before]
    · rw [updated gpus some inside]
      by_cases listed : gpus = activeGpus tick.state tenant
      · have runs : RunsSlot tenant gpus tick :=
          ⟨busy.1, PDNTopology.contains_of_domain present, listed.symm⟩
        have sameParams : (self.slotBrain tenant gpus).params = self.prsParams :=
          (kept.slotParams tenant member gpus some inside).trans kept.params.symm
        rw [if_pos listed, ← ewma_tenantTick remembers sameParams runs inside active subBudget,
          busy.1, PRSBrain.heldEwma_of_decide budget ran]
        rfl
      · have waits : ¬ RunsSlot tenant gpus tick := fun runs => listed runs.2.2.symm
        rw [if_neg listed, slotDraws_of_not_runs waits, before]

end Ticks

/-- **The history of a tenant's GPU.** Along every run of a quota brain with a fresh cache, over any
topologies and telemetry, the smoothed draw a tenant's GPU is capped by is the blend of its draws at the
ticks so far at which the same GPUs of the tenant were active as now. It is the value a single PRS brain
holds that is called with these draws, whatever else it is called with. -/
theorem tenant_ewma_history {brain₀ : QuotaAwarePRSBrain} (fresh : brain₀.tenantBrains = .empty)
    {tenant : TenantQuota} (member : tenant ∈ brain₀.quota.tenants) (past : List QuotaTick)
    (tick : QuotaTick) (here : tenant.domainName = tick.domainName) {gpu : GpuIndex}
    (active : gpu ∈ activeGpus tick.state tenant) {decision : BrainDecision}
    {next : QuotaAwarePRSBrain}
    (call : (run step brain₀ past).decide tick.topology tick.domainName tick.state tick.now =
      .ok (decision, next)) :
    ∃ found subBudget smoothed, tick.topology.domain tick.domainName = .ok found ∧
      let used := (run step brain₀ past).tenantTick tick.domainName subBudget tick.state tenant
      let draws := slotDraws tenant (activeGpus tick.state tenant) gpu (past ++ [tick])
      (∀ other ∈ tenant.gpuIndices, decision.caps.get? other =
        (renormalise (QuotaConfig.tenantBudgetW tenant found.budgetW) used.caps).get? other) ∧
      used.ewma.get? gpu = some smoothed ∧
      blends brain₀.prsParams.ewmaAlpha draws = some smoothed ∧
      ∀ (topology : PDNTopology) (domainName : String) (budget : ℚ) (states : List DomainState),
        topology.domainBudgetW domainName = .ok budget →
        (states.filterMap fun state => state.gpuDraws.get? gpu) = draws →
        (run PRSBrain.step { params := brain₀.prsParams }
          (states.map (.decide topology domainName))).heldEwma domainName gpu = some smoothed := by
  have kept : Kept brain₀ (run step brain₀ past) :=
    run_invariant (fun _ => Kept brain₀) (.start fresh) (fun _ tick _ kept => kept.step tick) past
  have remembers : Remembers tenant past (run step brain₀ past) := by
    refine (run_invariant (fun past self => Kept brain₀ self ∧ Remembers tenant past self)
      ⟨.start fresh, fun gpus _ _ other _ => ?_⟩ (fun past tick self inv =>
        ⟨inv.1.step tick, inv.2.step inv.1 member tick⟩) past).2
    rw [slotBrain_of_fresh fresh]
    rfl
  obtain ⟨found, present⟩ := domain_of_decide call
  rcases decide_tenant_cases (kept.quota ▸ kept.cacheOk) present call (kept.quota ▸ member) with
    ⟨idle, _⟩ | ⟨subBudget, inner, brain, _, _, _, caps, _⟩
  · exact absurd here (idle.resolve_right (List.ne_nil_of_mem active))
  have listedActive : ∀ gpu ∈ activeGpus tick.state tenant, gpu ∈ tenant.gpuIndices :=
    fun gpu active => mem_activeGpus active
  have runs : RunsSlot tenant (activeGpus tick.state tenant) tick :=
    ⟨here, PDNTopology.contains_of_domain present, rfl⟩
  have sameParams := (kept.slotParams tenant member _ (List.ne_nil_of_mem active) listedActive).trans
    kept.params.symm
  have used := ewma_tenantTick remembers sameParams runs listedActive active subBudget
  have blended := blends_append_singleton brain₀.prsParams.ewmaAlpha
    (slotDraws tenant (activeGpus tick.state tenant) gpu past) (tick.state.gpuDraws.getD gpu 0)
  rw [← slotDraws_of_runs runs active] at blended
  rw [kept.params] at used
  refine ⟨found, subBudget, _, present, caps, used.trans blended, blended, ?_⟩
  intro topology domainName budget states answer fed
  rw [PRSBrain.heldEwma_run _ answer, fed, blended]

/-! ### A GPU next to one that drops out

GPUs 0 and 1 belong to a tenant. GPU 0 draws 100 W and then 300 W; at the second tick GPU 1 reports no
maximum. -/

def gapTick (draw : ℚ) (maxCaps : Dict GpuIndex ℚ) : QuotaTick where
  domainName := "domain-0"
  state := {
    domainName := "domain-0"
    gpuDraws := .ofList [(0, draw), (1, 100)]
    gpuCaps := .ofList [(0, 1000), (1, 1000)]
    gpuMaxCaps := maxCaps
    ts := 0 }
  now := 0
  topology := sharedTopology

def bothReported : QuotaTick := gapTick 100 (.ofList [(0, 1200), (1, 1200)])

def oneMissing : QuotaTick := gapTick 300 (.ofList [(0, 1200)])

/-- GPU 0 reports everything twice, and is capped by the 300 W of the second tick alone: the blend of
both draws, which one PRS brain would hold, is 160 W. -/
theorem tenant_ewma_starts_over :
    sharedBrain.tenantBrains.keys = [] ∧ quarterTenant ∈ sharedBrain.quota.tenants ∧
      0 ∈ quarterTenant.gpuIndices ∧
      (∀ tick ∈ [bothReported, oneMissing], quarterTenant.domainName = tick.domainName ∧
        tick.state.gpuDraws.contains 0 ∧ tick.state.gpuMaxCaps.contains 0) ∧
      (∃ decision next, (run step sharedBrain [bothReported]).decide sharedTopology "domain-0"
          oneMissing.state 0 = .ok (decision, next) ∧ decision.caps.get? 0 = some 390) ∧
      ((run step sharedBrain [bothReported]).tenantTick "domain-0" 1000 oneMissing.state
        quarterTenant).ewma.get? 0 = some 300 ∧
      blends sharedBrain.prsParams.ewmaAlpha [100, 300] = some 160 ∧
      (run PRSBrain.step { params := sharedBrain.prsParams }
        [.decide sharedTopology "domain-0" bothReported.state,
          .decide sharedTopology "domain-0" oneMissing.state]).heldEwma "domain-0" 0 = some 160 := by
  refine ⟨rfl, .head _, by decide, by decide +kernel, ⟨_, _, rfl, by decide +kernel⟩, ?_, ?_, ?_⟩
  · decide +kernel
  · decide +kernel
  · decide +kernel

/-- The history of GPU 0 at the second tick is its draw there. -/
theorem tenant_ewma_history_gap :
    ∃ subBudget smoothed,
      ((run step sharedBrain [bothReported]).tenantTick "domain-0" subBudget oneMissing.state
        quarterTenant).ewma.get? 0 = some smoothed ∧ smoothed = 300 := by
  have answer : ∃ decision next, (run step sharedBrain [bothReported]).decide sharedTopology
      "domain-0" oneMissing.state 0 = .ok (decision, next) := ⟨_, _, rfl⟩
  obtain ⟨decision, next, call⟩ := answer
  have fresh : sharedBrain.tenantBrains = .empty := rfl
  obtain ⟨_, subBudget, smoothed, _, _, used, blended, _⟩ :=
    tenant_ewma_history fresh (.head _) [bothReported] oneMissing
      (show quarterTenant.domainName = oneMissing.domainName from rfl)
      (show 0 ∈ activeGpus oneMissing.state quarterTenant by decide +kernel) call
  have fed : slotDraws quarterTenant (activeGpus oneMissing.state quarterTenant) 0
      ([bothReported] ++ [oneMissing]) = [300] := by decide +kernel
  have alone : blends sharedBrain.prsParams.ewmaAlpha [300] = some 300 := by decide +kernel
  rw [fed, alone, Option.some.injEq] at blended
  exact ⟨subBudget, smoothed, used, blended.symm⟩

end QuotaAwarePRSBrain

end Opendps.Brain
