/-
**The smoothed draws of the two brains.**

`PRSBrain.decide` starts the table of a domain empty and a GPU at its draw; `CVXPYBrain._ewma_update`
starts the table as a copy of the draws and blends them at once. A blend of a draw with itself is that
draw, so both start a domain with its draws (`updateEwma_empty`, `updateEwma_self`), and from then on
they do the same. `ewma_shared` states this over all histories, with what a value is: the blend of the
GPU's own draws in its domain, between the smallest and the largest of them.
-/

import Opendps.Brain.FallbackHistory
import Mathlib.Data.Finset.Max

namespace Opendps.Brain

open Opendps.Lib Opendps.Pdn

/-! ### The first blend of a domain -/

/-- A table that starts empty starts with the draws. -/
theorem updateEwma_empty (alpha : ℚ) (draws : Dict GpuIndex ℚ) :
    updateEwma alpha .empty draws = draws := by
  have loop : updateEwma alpha .empty draws = Dict.storeEach Prod.fst
      (fun item stored => blend alpha item.2 (stored.getD item.2)) draws.items .empty := rfl
  rw [loop, Dict.storeEach_eq_setAll _ _ draws.nodup]
  have same : (draws.items.map fun item => (item.1, blend alpha item.2
      (((Dict.empty : Dict GpuIndex ℚ).get? item.1).getD item.2))) = draws.items := by
    calc _ = draws.items.map id := List.map_congr_left fun item _ => by
          rw [Dict.get?_empty, Option.getD_none, blend_self]
          rfl
      _ = draws.items := List.map_id _
  rw [same]
  exact Dict.eq_of_items (Dict.items_setAll_of_disjoint .empty draws.nodup (by simp))

/-- A table that starts as the draws stays the draws. -/
theorem updateEwma_self (alpha : ℚ) (draws : Dict GpuIndex ℚ) :
    updateEwma alpha draws draws = draws := by
  have loop : updateEwma alpha draws draws = Dict.storeEach Prod.fst
      (fun item stored => blend alpha item.2 (stored.getD item.2)) draws.items draws := rfl
  rw [loop, Dict.storeEach_eq_setAll _ _ draws.nodup]
  refine Dict.setAll_of_mem draws fun item member => ?_
  obtain ⟨own, listed, rfl⟩ := List.mem_map.mp member
  rw [Dict.get?_eq_some_iff.mpr listed, Option.getD_some, blend_self]
  exact listed

/-! ### The update of the linear-program brain -/

namespace CVXPYBrain

/-- `_ewma_update`: a new domain starts with a copy of its draws, and the draws are blended in. -/
def ewmaUpdate (self : CVXPYBrain) (domain : String) (draws : Dict GpuIndex ℚ) : CVXPYBrain :=
  let ewma := if self.ewma.contains domain then self.ewma else self.ewma.set domain draws
  let state := draws.items.foldl (fun state item => state.set item.1
    (self.alpha * item.2 + (1 - self.alpha) * state.getD item.1 item.2)) (ewma.getD domain .empty)
  { self with ewma := ewma.set domain state }

/-- The update is the blend of a tick. -/
theorem ewma_ewmaUpdate (self : CVXPYBrain) (domain : String) (draws : Dict GpuIndex ℚ) :
    (self.ewmaUpdate domain draws).ewma =
      self.ewma.set domain (updateEwma self.alpha (self.ewma.getD domain draws) draws) := by
  unfold ewmaUpdate
  cases stored : self.ewma.get? domain with
  | some table =>
    have known : self.ewma.contains domain = true := by rw [Dict.contains, stored]; rfl
    simp only [known, if_true]
    rw [Dict.getD_of_some stored, Dict.getD_of_some stored]
    rfl
  | none =>
    have unknown : self.ewma.contains domain = false := by rw [Dict.contains, stored]; rfl
    simp only [unknown, Bool.false_eq_true, if_false]
    rw [Dict.getD_of_none stored, Dict.getD_set_self, Dict.set_set]
    rfl

/-- The update stores what the PRS brain stores. -/
theorem ewma_ewmaUpdate_prs (self : CVXPYBrain) (domain : String) (draws : Dict GpuIndex ℚ) :
    (self.ewmaUpdate domain draws).ewma =
      self.ewma.set domain (updateEwma self.alpha (self.ewma.getD domain .empty) draws) := by
  rw [ewma_ewmaUpdate]
  cases stored : self.ewma.get? domain with
  | some table => rw [Dict.getD_of_some stored, Dict.getD_of_some stored]
  | none =>
    rw [Dict.getD_of_none stored, Dict.getD_of_none stored, updateEwma_self, updateEwma_empty]

/-- The update of a call with some draws. -/
def update (self : CVXPYBrain) (draws : String × Dict GpuIndex ℚ) : CVXPYBrain :=
  self.ewmaUpdate draws.1 draws.2

theorem alpha_run_update (self : CVXPYBrain) (updates : List (String × Dict GpuIndex ℚ)) :
    (run update self updates).alpha = self.alpha := by
  refine run_invariant (fun _ (brain : CVXPYBrain) => brain.alpha = self.alpha) rfl ?_ updates
  exact fun _ _ _ before => before

end CVXPYBrain

/-- The updates some calls come to: at a domain that its topology does not have, both brains raise before
they look at the draws. -/
def updatesOf (calls : List LpCall) : List (String × Dict GpuIndex ℚ) :=
  calls.filterMap fun call =>
    if call.topology.domains.contains call.domainName then some (call.domainName, call.state.gpuDraws)
    else none

theorem updatesOf_append_singleton (calls : List LpCall) (call : LpCall) :
    updatesOf (calls ++ [call]) = updatesOf calls ++
      if call.topology.domains.contains call.domainName then [(call.domainName, call.state.gpuDraws)]
      else [] := by
  rw [updatesOf, List.filterMap_append, ← updatesOf]
  congr 1
  split <;> simp [*]

/-! ### The tables of both brains -/

/-- **Both brains keep the same tables**, from empty ones on. -/
theorem ewma_run_eq {params : PRSParams} {self : CVXPYBrain} (alpha : self.alpha = params.ewmaAlpha)
    (empty : self.ewma = .empty) (calls : List LpCall) :
    (run PRSBrain.step { params := params } (calls.map LpCall.prs)).ewma =
      (run CVXPYBrain.update self (updatesOf calls)).ewma := by
  induction calls using List.reverseRecOn with
  | nil => exact empty.symm
  | append_singleton earlier last ih =>
    rw [List.map_append, List.map_singleton, run_append_singleton, PRSBrain.ewma_step, PRSBrain.params_run, ih,
      updatesOf_append_singleton]
    by_cases known : last.topology.domains.contains last.domainName = true
    · rw [if_pos known, if_pos known, run_append_singleton, CVXPYBrain.update,
        CVXPYBrain.ewma_ewmaUpdate_prs, CVXPYBrain.alpha_run_update, alpha]
    · rw [if_neg known, if_neg known, List.append_nil]

/-! ### What a value is -/

/-- Some draws have a smallest and a largest one, and their blend is between these. -/
theorem blends_between {alpha : ℚ} (pos : 0 < alpha) (atMost : alpha ≤ 1) {draws : List ℚ} {value : ℚ}
    (blended : blends alpha draws = some value) :
    ∃ low ∈ draws, ∃ high ∈ draws,
      (∀ draw ∈ draws, low ≤ draw ∧ draw ≤ high) ∧ low ≤ value ∧ value ≤ high := by
  have some : draws ≠ [] := by
    rintro rfl
    cases blended
  obtain ⟨low, lowListed, least⟩ := draws.toFinset.exists_min_image id (by simpa using some)
  obtain ⟨high, highListed, greatest⟩ := draws.toFinset.exists_max_image id (by simpa using some)
  have above : ∀ draw ∈ draws, low ≤ draw := fun draw listed => least draw (List.mem_toFinset.mpr listed)
  have below : ∀ draw ∈ draws, draw ≤ high :=
    fun draw listed => greatest draw (List.mem_toFinset.mpr listed)
  refine ⟨low, List.mem_toFinset.mp lowListed, high, List.mem_toFinset.mp highListed,
    fun draw listed => ⟨above draw listed, below draw listed⟩, ?_, ?_⟩
  · exact @blends_induction _ _ _ (fun held => low ≤ held) (fun _ _ => le_blend pos atMost) above blended
  · exact @blends_induction _ _ _ (fun held => held ≤ high) (fun _ _ => blend_le pos atMost) below
      blended

/-- What the constructor of a PRS brain makes. -/
theorem PRSBrain.params_of_init {minCapW ewmaAlpha reclaimThreshold idleFloorMargin rate : ℚ}
    {prs : PRSBrain}
    (built : PRSBrain.init minCapW ewmaAlpha reclaimThreshold idleFloorMargin rate = .ok prs) :
    ∃ params : PRSParams, prs = { params := params } ∧ params.ewmaAlpha = ewmaAlpha := by
  unfold PRSBrain.init at built
  split at built
  · split at built
    · cases built
      exact ⟨_, rfl, rfl⟩
    · cases built
  · cases built

/-- What the constructor of a linear-program brain makes. -/
theorem CVXPYBrain.alpha_of_init {minCapW ewmaAlpha reclaimThreshold idleReclaimCeil : ℚ}
    {self : CVXPYBrain}
    (built : CVXPYBrain.init minCapW ewmaAlpha reclaimThreshold idleReclaimCeil = .ok self) :
    self.alpha = ewmaAlpha ∧ self.ewma = .empty := by
  obtain ⟨fallback, _, rest⟩ := ok_of_bind built
  cases rest
  exact ⟨rfl, rfl⟩

/-- **The smoothed draws are sound and shared.** Two brains with the same `ewma_alpha` keep the same
tables over any calls; what they hold for a GPU of a domain is the blend of the GPU's own draws there,
nothing before the first one, and between the smallest and the largest from then on. -/
theorem ewma_shared {minCapW ewmaAlpha reclaimThreshold idleFloorMargin rate minCap threshold
      idleCeil : ℚ} {prs : PRSBrain} {self : CVXPYBrain}
    (prsBuilt : PRSBrain.init minCapW ewmaAlpha reclaimThreshold idleFloorMargin rate = .ok prs)
    (built : CVXPYBrain.init minCap ewmaAlpha threshold idleCeil = .ok self) (calls : List LpCall) :
    (run PRSBrain.step prs (calls.map LpCall.prs)).ewma =
        (run CVXPYBrain.update self (updatesOf calls)).ewma ∧
      ∀ domainName gpu,
        (run PRSBrain.step prs (calls.map LpCall.prs)).heldEwma domainName gpu =
            blends ewmaAlpha (drawsOf domainName gpu calls) ∧
          ∀ value, (run PRSBrain.step prs (calls.map LpCall.prs)).heldEwma domainName gpu = some value →
            ∃ low ∈ drawsOf domainName gpu calls, ∃ high ∈ drawsOf domainName gpu calls,
              (∀ draw ∈ drawsOf domainName gpu calls, low ≤ draw ∧ draw ≤ high) ∧
                low ≤ value ∧ value ≤ high := by
  obtain ⟨params, rfl, rfl⟩ := PRSBrain.params_of_init prsBuilt
  obtain ⟨alpha, empty⟩ := CVXPYBrain.alpha_of_init built
  refine ⟨ewma_run_eq alpha empty calls, fun domainName gpu => ?_⟩
  have held := PRSBrain.heldEwma_calls params calls domainName gpu
  refine ⟨held, fun value stored => ?_⟩
  exact blends_between params.alpha_pos params.alpha_le_one (held.symm.trans stored)

/-- A call in which both GPUs report, and one in which GPU 0 is missing. -/
def twoCalls : List LpCall :=
  [⟨CVXPYBrain.sharedTopology, "domain-0", CVXPYBrain.sharedState, none⟩,
    ⟨CVXPYBrain.sharedTopology, "domain-0",
      { CVXPYBrain.sharedState with gpuDraws := .ofList [(1, 100)] }, none⟩]

theorem ewma_shared_twoCalls :
    (run PRSBrain.step { params := defaultParams } (twoCalls.map LpCall.prs)).ewma =
        (run CVXPYBrain.update CVXPYBrain.newBrain (updatesOf twoCalls)).ewma ∧
      (run PRSBrain.step { params := defaultParams } (twoCalls.map LpCall.prs)).heldEwma "domain-0" 1 =
        blends (3 / 10) (drawsOf "domain-0" 1 twoCalls) := by
  have prs : PRSBrain.init 200 (3 / 10) (6 / 10) (3 / 10) 0 = .ok { params := defaultParams } := by
    unfold PRSBrain.init
    rw [dif_pos (by norm_num), dif_pos (by norm_num)]
    rfl
  have shared := ewma_shared prs CVXPYBrain.init_newBrain twoCalls
  exact ⟨shared.1, (shared.2 "domain-0" 1).1⟩

/-! ### The whole linear-program brain -/

namespace CVXPYBrain

theorem ewma_fallBack {self next : CVXPYBrain} {topology : PDNTopology} {domainName : String}
    {state : DomainState} {decision : BrainDecision}
    (falls : self.fallBack topology domainName state = .ok (decision, next)) :
    next.ewma = self.ewma ∧ next.alpha = self.alpha := by
  obtain ⟨result, _, same⟩ := ok_of_bind falls
  cases same
  exact ⟨rfl, rfl⟩

/-- With the library there, the solver path updates the table of every domain that the topology has,
however the path ends. -/
theorem ewma_decideCvxpy (self : CVXPYBrain) (topology : PDNTopology) (domainName : String)
    (state : DomainState) (solve : Solver) :
    (self.decideCvxpy topology domainName state solve).2.alpha = self.alpha ∧
      (self.decideCvxpy topology domainName state solve).2.ewma =
        if topology.domains.contains domainName then (self.ewmaUpdate domainName state.gpuDraws).ewma
        else self.ewma := by
  unfold decideCvxpy
  cases present : topology.domain domainName with
  | error exc =>
    simp only [PDNTopology.not_contains_of_domain present, Bool.false_eq_true, if_false, and_self]
  | ok domain =>
    rw [if_pos (PDNTopology.contains_of_domain present), ewma_ewmaUpdate]
    dsimp only
    split
    · exact ⟨rfl, rfl⟩
    split
    · exact ⟨rfl, rfl⟩
    split
    · exact ⟨rfl, rfl⟩
    split
    · exact ⟨rfl, rfl⟩
    · exact ⟨rfl, rfl⟩

/-- One call: with the library the tables are updated, without it they stay. -/
theorem ewma_step (self : CVXPYBrain) (call : LpCall) :
    (self.step call).alpha = self.alpha ∧
      (self.step call).ewma =
        if call.cp.isSome ∧ call.topology.domains.contains call.domainName then
          (self.ewmaUpdate call.domainName call.state.gpuDraws).ewma
        else self.ewma := by
  obtain ⟨topology, domainName, state, cp⟩ := call
  unfold step decide
  cases cp with
  | none =>
    simp only [Option.isSome_none, Bool.false_eq_true, false_and, if_false]
    split
    · next falls => exact (ewma_fallBack falls).symm
    · exact ⟨rfl, rfl⟩
  | some solve =>
    have path := self.ewma_decideCvxpy topology domainName state solve
    simp only [Option.isSome_some, true_and]
    generalize self.decideCvxpy topology domainName state solve = result at path ⊢
    obtain ⟨outcome, next⟩ := result
    cases outcome with
    | ok decision => exact path
    | error exc =>
      dsimp only
      split
      · next falls =>
        obtain ⟨ewma, alpha⟩ := ewma_fallBack falls
        exact ⟨alpha.trans path.1, ewma.trans path.2⟩
      · exact path

/-- **With the library there at every call, the brain keeps the tables of its updates**, and so those of
a PRS brain. -/
theorem ewma_run_step (self : CVXPYBrain) {calls : List LpCall}
    (installed : ∀ call ∈ calls, call.cp.isSome = true) :
    (run step self calls).alpha = self.alpha ∧
      (run step self calls).ewma = (run update self (updatesOf calls)).ewma := by
  induction calls using List.reverseRecOn with
  | nil => exact ⟨rfl, rfl⟩
  | append_singleton earlier last ih =>
    obtain ⟨alpha, ewma⟩ := ih fun call member => installed call (List.mem_append_left _ member)
    have now := installed last (List.mem_append_right _ (List.mem_singleton_self last))
    obtain ⟨alphaStep, ewmaStep⟩ := (run step self earlier).ewma_step last
    rw [run_append_singleton, updatesOf_append_singleton]
    refine ⟨alphaStep.trans alpha, ?_⟩
    rw [ewmaStep, now]
    by_cases known : last.topology.domains.contains last.domainName = true
    · rw [if_pos ⟨rfl, known⟩, if_pos known, run_append_singleton, update, ewma_ewmaUpdate,
        ewma_ewmaUpdate, alpha_run_update, alpha, ewma]
    · rw [if_neg fun both => known both.2, if_neg known, List.append_nil, ewma]

end CVXPYBrain

end Opendps.Brain
