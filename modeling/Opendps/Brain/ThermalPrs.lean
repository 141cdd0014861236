/-
**Backing off the GPUs that throttle.**

`ThermalAwarePRSBrain.decide` takes the caps of a PRS tick and moves watts between two groups. A GPU
that is flagged is backed off from the lower of its proposal and the cap in force (`backedOff`); what
that frees is handed to the others in proportion to what each has left to its maximum
(`Lib.handOut`). `finalCap` is the cap of every GPU in these terms, and `decide_ok` says that a call
returns it.

* `thermal_conserves_watts`: nothing is handed out that was not freed, and what is freed is kept back
  only where the others have no room for it.
* `throttled_only_backs_off`: while a GPU stays flagged and its returned cap is the one in force, its
  caps go down, at least geometrically until the floor. One step needs nothing of the PRS proposal
  (`backs_off`), so the run may have any history, budgets and neighbours.
-/

import Opendps.Brain.Family

namespace Opendps.Brain

open Opendps.Lib Opendps.Pdn

namespace ThermalAwarePRSBrain

/-! ### One GPU -/

/-- Flagged as throttling; a GPU without a flag is not. -/
def isThrottled (state : DomainState) (gpu : GpuIndex) : Bool :=
  state.gpuThermalThrottled.getD gpu false

/-- The lower of a proposal and the cap in force. -/
def held (state : DomainState) (gpu : GpuIndex) (proposed : ℚ) : ℚ :=
  min proposed (state.gpuCaps.getD gpu proposed)

/-- The cap of a flagged GPU. -/
def backedOff (self : ThermalAwarePRSBrain) (state : DomainState) (gpu : GpuIndex)
    (proposed : ℚ) : ℚ :=
  min (held state gpu proposed)
    (max self.minCapW (held state gpu proposed * (1 - self.derate)))

/-- What a GPU has left from a cap to its hardware maximum. -/
def headroom (state : DomainState) (gpu : GpuIndex) (proposed : ℚ) : ℚ :=
  max 0 (state.gpuMaxCaps.getD gpu proposed - proposed)

section OneGpu

variable (self : ThermalAwarePRSBrain) (state : DomainState) (gpu : GpuIndex) (proposed : ℚ)

theorem backedOff_le_held : self.backedOff state gpu proposed ≤ held state gpu proposed :=
  min_le_left _ _

theorem backedOff_le_proposed : self.backedOff state gpu proposed ≤ proposed :=
  (self.backedOff_le_held state gpu proposed).trans (min_le_left _ _)

theorem floor_le_backedOff :
    min (held state gpu proposed) self.minCapW ≤ self.backedOff state gpu proposed :=
  min_le_min le_rfl (le_max_left _ _)

theorem headroom_nonneg : 0 ≤ headroom state gpu proposed := le_max_left _ _

theorem add_headroom : proposed + headroom state gpu proposed =
    max proposed (state.gpuMaxCaps.getD gpu proposed) := by
  rw [headroom, add_max, add_zero, add_sub_cancel]

end OneGpu

/-! ### The whole decision -/

/-- The flagged GPUs among those with a cap. -/
def throttledGpus (state : DomainState) (caps : Dict GpuIndex ℚ) : List GpuIndex :=
  caps.keys.filter (isThrottled state)

/-- The others. -/
def recipients (state : DomainState) (caps : Dict GpuIndex ℚ) : List GpuIndex :=
  caps.keys.filter fun gpu => !isThrottled state gpu

/-- What the others can take. -/
def roomW (state : DomainState) (caps : Dict GpuIndex ℚ) : ℚ :=
  ((recipients state caps).map fun gpu => headroom state gpu (caps.getD gpu 0)).sum

/-- What backing off frees. -/
def freedW (self : ThermalAwarePRSBrain) (state : DomainState) (caps : Dict GpuIndex ℚ) : ℚ :=
  ((throttledGpus state caps).map fun gpu =>
    caps.getD gpu 0 - self.backedOff state gpu (caps.getD gpu 0)).sum

/-- The cap of a GPU, from what PRS proposes for all of them. -/
def finalCap (self : ThermalAwarePRSBrain) (state : DomainState) (caps : Dict GpuIndex ℚ)
    (gpu : GpuIndex) (proposed : ℚ) : ℚ :=
  if isThrottled state gpu then self.backedOff state gpu proposed
  else proposed + handOut (self.freedW state caps) (roomW state caps) (headroom state gpu proposed)

section Decision

variable {self : ThermalAwarePRSBrain} {state : DomainState} {caps : Dict GpuIndex ℚ}

theorem freedW_nonneg (self : ThermalAwarePRSBrain) (state : DomainState)
    (caps : Dict GpuIndex ℚ) : 0 ≤ self.freedW state caps := by
  refine List.sum_nonneg fun value inside => ?_
  obtain ⟨gpu, _, rfl⟩ := List.mem_map.mp inside
  exact sub_nonneg.mpr (self.backedOff_le_proposed state gpu _)

theorem mem_throttledGpus {gpu : GpuIndex} {proposed : ℚ} (stored : caps.get? gpu = some proposed) :
    gpu ∈ throttledGpus state caps ↔ isThrottled state gpu := by
  rw [throttledGpus, List.mem_filter]
  exact and_iff_right (Dict.mem_keys_iff.mpr ⟨proposed, stored⟩)

/-- The loop over the flagged GPUs stores their caps. -/
theorem fst_foldl_backOff (throttled : List GpuIndex) (freed : ℚ) :
    (throttled.foldl (self.backOff state) (caps, freed)).1 =
      Dict.storeEach id (fun gpu stored => self.backedOff state gpu (stored.getD 0))
        throttled caps := by
  induction throttled generalizing caps freed with
  | nil => rfl
  | cons gpu rest ih => exact ih _

/-- And it adds up what each of them frees. -/
theorem snd_foldl_backOff {throttled : List GpuIndex} (nodup : throttled.Nodup) (freed : ℚ) :
    (throttled.foldl (self.backOff state) (caps, freed)).2 =
      freed + (throttled.map fun gpu =>
        caps.getD gpu 0 - self.backedOff state gpu (caps.getD gpu 0)).sum := by
  induction throttled generalizing caps freed with
  | nil => exact (add_zero freed).symm
  | cons gpu rest ih =>
    rw [List.nodup_cons] at nodup
    have later : (rest.map fun other => (self.backOff state (caps, freed) gpu).1.getD other 0 -
          self.backedOff state other ((self.backOff state (caps, freed) gpu).1.getD other 0)) =
        rest.map fun other =>
          caps.getD other 0 - self.backedOff state other (caps.getD other 0) := by
      refine List.map_congr_left fun other member => ?_
      have different : other ≠ gpu := fun same => nodup.1 (same ▸ member)
      have kept : (self.backOff state (caps, freed) gpu).1.getD other 0 = caps.getD other 0 :=
        Dict.getD_set_of_ne caps _ 0 different
      rw [kept]
    have here : (self.backOff state (caps, freed) gpu).2 =
        freed + (caps.getD gpu 0 - self.backedOff state gpu (caps.getD gpu 0)) := rfl
    show (rest.foldl (self.backOff state) ((self.backOff state (caps, freed) gpu).1,
      (self.backOff state (caps, freed) gpu).2)).2 = _
    rw [ih nodup.2, later, here, List.map_cons, List.sum_cons, add_assoc]

/-- Handing out adds its part to every GPU that is not backed off. -/
theorem get?_redistribute (throttled : List GpuIndex) (freed : ℚ) (gpu : GpuIndex) :
    (redistribute state throttled freed caps).get? gpu =
      (caps.get? gpu).map fun cap =>
        if gpu ∈ throttled then cap
        else cap + handOut freed ((caps.keys.filter fun other =>
          Decidable.decide (other ∉ throttled)).map fun other =>
            headroom state other (caps.getD other 0)).sum (headroom state gpu cap) := by
  set others := caps.keys.filter fun other => Decidable.decide (other ∉ throttled)
  set total := (others.map fun other => headroom state other (caps.getD other 0)).sum
  have nodup : others.Nodup := caps.keys_nodup.filter _
  by_cases spare : 0 < freed ∧ 0 < total
  · have shared : redistribute state throttled freed caps = caps.update (.ofKeys others fun other =>
        caps.getD other 0 +
          min freed total * headroom state other (caps.getD other 0) / total) := by
      rw [Dict.update, Dict.items_ofKeys nodup]
      exact if_pos spare
    rw [shared, Dict.get?_update, Dict.get?_ofKeys nodup]
    cases stored : caps.get? gpu with
    | none =>
      have absent : gpu ∉ others := fun member =>
        Dict.get?_eq_none_iff.mp stored (List.mem_of_mem_filter member)
      rw [if_neg absent]
      rfl
    | some cap =>
      have present : gpu ∈ caps.keys := Dict.mem_keys_iff.mpr ⟨cap, stored⟩
      by_cases back : gpu ∈ throttled
      · have absent : gpu ∉ others := fun member =>
          of_decide_eq_true (List.mem_filter.mp member).2 back
        simp only [absent, back, if_true, if_false, Option.none_or, Option.map_some]
      · have member : gpu ∈ others := List.mem_filter.mpr ⟨present, decide_eq_true back⟩
        simp only [member, back, if_true, if_false, Option.some_or, Option.map_some, handOut, spare,
          and_self, Dict.getD_of_some stored]
  · have unshared : redistribute state throttled freed caps = caps := if_neg spare
    rw [unshared]
    simp only [handOut, spare, if_false, add_zero, ite_self, Option.map_id']

/-- After the loop the flagged GPUs are backed off, and the others stand where they stood. -/
theorem get?_reduced (self : ThermalAwarePRSBrain) (state : DomainState) (caps : Dict GpuIndex ℚ)
    (gpu : GpuIndex) :
    ((throttledGpus state caps).foldl (self.backOff state) (caps, 0)).1.get? gpu =
      (caps.get? gpu).map fun proposed =>
        if isThrottled state gpu then self.backedOff state gpu proposed else proposed := by
  have nodup : (throttledGpus state caps).Nodup := caps.keys_nodup.filter _
  have kept : gpu ∉ throttledGpus state caps →
      (Dict.storeEach id (fun gpu stored => self.backedOff state gpu (stored.getD 0))
        (throttledGpus state caps) caps).get? gpu = caps.get? gpu := fun absent =>
    Dict.get?_storeEach_of_not_mem id _ caps (by rwa [List.map_id])
  rw [fst_foldl_backOff]
  cases stored : caps.get? gpu with
  | none =>
    rw [kept fun member => Dict.get?_eq_none_iff.mp stored (List.mem_of_mem_filter member), stored]
    rfl
  | some proposed =>
    by_cases flagged : isThrottled state gpu
    · have member := (mem_throttledGpus stored).mpr flagged
      have backed := Dict.get?_storeEach_of_mem id
        (fun gpu (stored : Option ℚ) => self.backedOff state gpu (stored.getD 0))
        (by rwa [List.map_id]) caps member
      rw [id_eq, stored, Option.getD_some] at backed
      rw [backed, Option.map_some, if_pos flagged]
    · rw [kept fun member => flagged ((mem_throttledGpus stored).mp member), stored,
        Option.map_some, if_neg flagged]

/-- What backing off and handing out do to the caps PRS proposes. -/
theorem get?_rewritten (self : ThermalAwarePRSBrain) (state : DomainState) (caps : Dict GpuIndex ℚ)
    (gpu : GpuIndex) :
    let pass := (throttledGpus state caps).foldl (self.backOff state) (caps, 0)
    (redistribute state (throttledGpus state caps) pass.2 pass.1).get? gpu =
      (caps.get? gpu).map (self.finalCap state caps gpu) := by
  intro pass
  have freed : pass.2 = self.freedW state caps :=
    (snd_foldl_backOff (caps.keys_nodup.filter _) 0).trans (zero_add _)
  have reduced : ∀ other, pass.1.get? other = (caps.get? other).map fun proposed =>
      if isThrottled state other then self.backedOff state other proposed else proposed :=
    self.get?_reduced state caps
  have keys : ∀ other, other ∈ pass.1.keys ↔ other ∈ caps.keys := fun other =>
    Dict.mem_keys_of_get?_map reduced
  -- the others are the same GPUs, with the same room, after backing off
  have others : (pass.1.keys.filter fun other =>
      Decidable.decide (other ∉ throttledGpus state caps)).Perm (recipients state caps) := by
    refine (List.perm_ext_iff_of_nodup (pass.1.keys_nodup.filter _)
      (caps.keys_nodup.filter _)).mpr fun other => ?_
    simp only [List.mem_filter, keys, throttledGpus]
    cases isThrottled state other <;> simp
  have total : ((pass.1.keys.filter fun other =>
      Decidable.decide (other ∉ throttledGpus state caps)).map fun other =>
        headroom state other (pass.1.getD other 0)).sum = roomW state caps := by
    rw [(others.map _).sum_eq]
    refine congrArg List.sum (List.map_congr_left fun other member => ?_)
    have calm : isThrottled state other = false := by
      simpa using (List.mem_filter.mp member).2
    have kept : pass.1.get? other = caps.get? other := by
      rw [reduced, calm]
      exact Option.map_id'
    rw [Dict.getD_congr kept]
  rw [get?_redistribute, total, freed, reduced, Option.map_map]
  cases stored : caps.get? gpu with
  | none => rfl
  | some proposed =>
    by_cases flagged : isThrottled state gpu <;>
      simp only [Option.map_some, Function.comp_apply, mem_throttledGpus stored, flagged, finalCap,
        if_true, if_false, Bool.false_eq_true]

/-- Where no GPU is flagged the proposals stay as they are. -/
theorem map_finalCap_of_calm (self : ThermalAwarePRSBrain) (none : throttledGpus state caps = [])
    (gpu : GpuIndex) :
    caps.get? gpu = (caps.get? gpu).map (self.finalCap state caps gpu) := by
  have unfreed : self.freedW state caps = 0 := by
    rw [freedW, none]
    rfl
  cases stored : caps.get? gpu with
  | none => rfl
  | some proposed =>
    have calm : ¬ isThrottled state gpu := by
      rw [← mem_throttledGpus stored, none]
      exact List.not_mem_nil
    rw [Option.map_some, finalCap, if_neg calm, unfreed, handOut, if_neg fun spare =>
      lt_irrefl 0 spare.1, add_zero]

/-- **What a call does.** It runs the PRS brain, rewrites the proposed caps, and has the PRS brain
remember what it returns; how far to back off stays. -/
theorem decide_ok {next : ThermalAwarePRSBrain} {topology : PDNTopology} {domainName : String}
    {decision : BrainDecision} {budget : ℚ}
    (answer : topology.domainBudgetW domainName = .ok budget)
    (call : self.decide topology domainName state = .ok (decision, next)) :
    let tick := self.prs.tick budget domainName state
    (∀ gpu, decision.caps.get? gpu =
        (tick.caps.get? gpu).map (self.finalCap state tick.caps gpu)) ∧
      (next.derate = self.derate ∧ next.minCapW = self.minCapW) ∧
      next.prs.params = self.prs.params ∧
      next.prs.lastCaps.getD domainName .empty = decision.caps ∧
      ∀ other ≠ domainName, next.prs.lastCaps.getD other .empty =
        self.prs.lastCaps.getD other .empty := by
  intro tick
  obtain ⟨inner, prs, innerCall⟩ := self.prs.decide_isOk state answer
  obtain ⟨innerCaps, sameParams, _⟩ := PRSBrain.decide_ok answer innerCall
  obtain ⟨noted, elsewhere⟩ := PRSBrain.remembers_of_decide innerCall
  have proposals : tick.caps = inner.caps := innerCaps.symm
  unfold ThermalAwarePRSBrain.decide at call
  rw [innerCall] at call
  rw [proposals]
  by_cases none : throttledGpus state inner.caps = []
  · have returned : Except.ok (inner, { self with prs := prs }) = Except.ok (decision, next) :=
      (if_pos none).symm.trans call
    cases returned
    exact ⟨self.map_finalCap_of_calm none, ⟨rfl, rfl⟩, sameParams, noted, elsewhere⟩
  · have rewritten := (if_neg none).symm.trans call
    cases rewritten
    exact ⟨self.get?_rewritten state inner.caps, ⟨rfl, rfl⟩, sameParams,
      Dict.getD_set_self _ _ _ _, fun other different =>
        (Dict.getD_set_of_ne _ _ _ different).trans (elsewhere other different)⟩

/-- A call raises nothing when the domain has a budget. -/
theorem decide_isOk (self : ThermalAwarePRSBrain) {topology : PDNTopology} {domainName : String}
    (state : DomainState) {budget : ℚ} (answer : topology.domainBudgetW domainName = .ok budget) :
    ∃ decision next, self.decide topology domainName state = .ok (decision, next) := by
  obtain ⟨inner, prs, innerCall⟩ := self.prs.decide_isOk state answer
  unfold ThermalAwarePRSBrain.decide
  rw [innerCall]
  by_cases none : throttledGpus state inner.caps = []
  · exact ⟨_, _, if_pos none⟩
  · exact ⟨_, _, if_neg none⟩

/-- A call that returns has asked for the budget. -/
theorem budget_of_decide {next : ThermalAwarePRSBrain} {topology : PDNTopology}
    {domainName : String} {decision : BrainDecision}
    (call : self.decide topology domainName state = .ok (decision, next)) :
    ∃ budget, topology.domainBudgetW domainName = .ok budget := by
  unfold ThermalAwarePRSBrain.decide at call
  obtain ⟨⟨inner, prs⟩, innerCall, _⟩ := ok_of_bind call
  exact PRSBrain.budget_of_decide innerCall

/-- **The ledger of a decision**: what is freed and not handed out is missing from the total. -/
theorem sum_rewritten {after : Dict GpuIndex ℚ}
    (rewritten : ∀ gpu, after.get? gpu = (caps.get? gpu).map (self.finalCap state caps gpu)) :
    after.values.sum = caps.values.sum - self.freedW state caps +
      min (self.freedW state caps) (roomW state caps) := by
  have backed : ((throttledGpus state caps).map fun gpu =>
        self.finalCap state caps gpu (caps.getD gpu 0)).sum =
      ((throttledGpus state caps).map fun gpu => caps.getD gpu 0).sum - self.freedW state caps := by
    rw [freedW, ← sum_map_sub]
    refine congrArg List.sum (List.map_congr_left fun gpu member => ?_)
    rw [finalCap, if_pos (List.mem_filter.mp member).2, sub_sub_cancel]
  have raised : ((recipients state caps).map fun gpu =>
        self.finalCap state caps gpu (caps.getD gpu 0)).sum =
      ((recipients state caps).map fun gpu => caps.getD gpu 0).sum +
        min (self.freedW state caps) (roomW state caps) := by
    have handed : ((recipients state caps).map fun gpu => handOut (self.freedW state caps)
          (roomW state caps) (headroom state gpu (caps.getD gpu 0))).sum =
        min (self.freedW state caps) (roomW state caps) :=
      sum_handOut (fun gpu _ => headroom_nonneg state gpu _) (self.freedW_nonneg state caps)
    rw [← handed, ← List.sum_map_add]
    refine congrArg List.sum (List.map_congr_left fun gpu member => ?_)
    have calm : isThrottled state gpu = false := by
      simpa using (List.mem_filter.mp member).2
    rw [finalCap, calm]
    rfl
  have proposals : ((throttledGpus state caps).map fun gpu => caps.getD gpu 0).sum +
      ((recipients state caps).map fun gpu => caps.getD gpu 0).sum = caps.values.sum := by
    rw [Dict.values_eq_map_getD caps 0]
    exact sum_filter_add (isThrottled state) _ caps.keys
  calc after.values.sum
      = (caps.keys.map fun gpu => self.finalCap state caps gpu (caps.getD gpu 0)).sum :=
        (Dict.values_perm_of_get?_map rewritten 0).sum_eq
    _ = ((throttledGpus state caps).map fun gpu => caps.getD gpu 0).sum -
            self.freedW state caps +
          (((recipients state caps).map fun gpu => caps.getD gpu 0).sum +
            min (self.freedW state caps) (roomW state caps)) := by
        rw [← sum_filter_add (isThrottled state), ← backed, ← raised]
        rfl
    _ = _ := by
        rw [← proposals]
        ring

end Decision

/-! ### Conservation -/

/-- The watts a decision takes from the flagged GPUs. -/
def takenW (state : DomainState) (before after : Dict GpuIndex ℚ) : ℚ :=
  ((throttledGpus state before).map fun gpu => before.getD gpu 0 - after.getD gpu 0).sum

/-- **Thermal redistribution is conservative.** Whatever PRS proposes: a flagged GPU is held at or
below the lower of its proposal and the cap in force, and not below the floor unless that bound is; any
other GPU keeps its proposal and may rise to its maximum. The total does not grow; it is the same
exactly when the others have room for what is taken, and otherwise falls by what they have no room
for. -/
theorem thermal_conserves_watts {self next : ThermalAwarePRSBrain} {topology : PDNTopology}
    {domainName : String} {state : DomainState} {inner decision : BrainDecision} {prs : PRSBrain}
    (innerCall : self.prs.decide topology domainName state = .ok (inner, prs))
    (call : self.decide topology domainName state = .ok (decision, next)) :
    (∀ gpu, gpu ∈ decision.caps.keys ↔ gpu ∈ inner.caps.keys) ∧
      (∀ gpu proposed cap, inner.caps.get? gpu = some proposed →
        decision.caps.get? gpu = some cap →
          (isThrottled state gpu → cap ≤ held state gpu proposed ∧
            min (held state gpu proposed) self.minCapW ≤ cap) ∧
          (¬ isThrottled state gpu → proposed ≤ cap ∧
            cap ≤ max proposed (state.gpuMaxCaps.getD gpu proposed))) ∧
      decision.total ≤ inner.total ∧
      (decision.total = inner.total ↔
        takenW state inner.caps decision.caps ≤ roomW state inner.caps) ∧
      (roomW state inner.caps < takenW state inner.caps decision.caps →
        inner.total - decision.total =
          takenW state inner.caps decision.caps - roomW state inner.caps) := by
  obtain ⟨budget, answer⟩ := budget_of_decide call
  have innerCaps := (PRSBrain.decide_ok answer innerCall).1
  have rewritten : ∀ gpu, decision.caps.get? gpu =
      (inner.caps.get? gpu).map (self.finalCap state inner.caps gpu) :=
    innerCaps ▸ (decide_ok answer call).1
  have taken : takenW state inner.caps decision.caps = self.freedW state inner.caps := by
    refine congrArg List.sum (List.map_congr_left fun gpu member => ?_)
    obtain ⟨present, flagged⟩ := List.mem_filter.mp member
    obtain ⟨proposed, stored⟩ := Dict.mem_keys_iff.mp present
    have after : decision.caps.get? gpu = some (self.backedOff state gpu proposed) := by
      rw [rewritten, stored, Option.map_some, finalCap, if_pos flagged]
    rw [Dict.getD_of_some after, Dict.getD_of_some stored]
  have ledger : decision.total = inner.total - self.freedW state inner.caps +
      min (self.freedW state inner.caps) (roomW state inner.caps) := sum_rewritten rewritten
  rw [taken]
  refine ⟨fun gpu => Dict.mem_keys_of_get?_map rewritten, fun gpu proposed cap stored after => ?_,
    ?_, ?_, fun short => ?_⟩
  · rw [rewritten, stored, Option.map_some, Option.some.injEq] at after
    subst after
    refine ⟨fun flagged => ?_, fun calm => ?_⟩
    · rw [finalCap, if_pos flagged]
      exact ⟨self.backedOff_le_held state gpu proposed, self.floor_le_backedOff state gpu proposed⟩
    · rw [finalCap, if_neg calm, ← add_headroom]
      have room := headroom_nonneg state gpu proposed
      exact ⟨le_add_of_nonneg_right (handOut_nonneg _ _ room),
        add_le_add le_rfl (handOut_le _ _ room)⟩
  · have part := min_le_left (self.freedW state inner.caps) (roomW state inner.caps)
    linarith
  · rw [ledger, ← min_eq_left_iff]
    constructor
    · intro same
      linarith
    · intro same
      rw [same, sub_add_cancel]
  · rw [ledger, min_eq_right short.le]
    ring

/-! ### A GPU that stays flagged -/

/-- The calls at which a GPU of a domain is flagged and the cap in force is the one returned by the
call before: the brain, the cap in force at the start, and the caps returned. Calls for other domains
may come in between. -/
inductive ThrottledRun (gpu : GpuIndex) (domainName : String) :
    ThermalAwarePRSBrain → ℚ → List ℚ → Prop
  | done (self : ThermalAwarePRSBrain) (inForce : ℚ) : ThrottledRun gpu domainName self inForce []
  | tick {self next : ThermalAwarePRSBrain} {topology : PDNTopology} {state : DomainState}
      {decision : BrainDecision} {inForce cap : ℚ} {caps : List ℚ}
      (call : self.decide topology domainName state = .ok (decision, next))
      (flagged : isThrottled state gpu) (reported : state.gpuCaps.get? gpu = some inForce)
      (returned : decision.caps.get? gpu = some cap)
      (later : ThrottledRun gpu domainName next cap caps) :
      ThrottledRun gpu domainName self inForce (cap :: caps)
  | elsewhere {self next : ThermalAwarePRSBrain} {topology : PDNTopology} {other : String}
      {state : DomainState} {decision : BrainDecision} {inForce : ℚ} {caps : List ℚ}
      (apart : other ≠ domainName) (call : self.decide topology other state = .ok (decision, next))
      (later : ThrottledRun gpu domainName next inForce caps) :
      ThrottledRun gpu domainName self inForce caps

/-- **One call**: the cap of a flagged GPU is not above the one in force, nor above what backing that
one off leaves. -/
theorem backs_off {self next : ThermalAwarePRSBrain} {topology : PDNTopology} {domainName : String}
    {state : DomainState} {decision : BrainDecision} {gpu : GpuIndex} {inForce cap : ℚ}
    (call : self.decide topology domainName state = .ok (decision, next))
    (flagged : isThrottled state gpu) (reported : state.gpuCaps.get? gpu = some inForce)
    (returned : decision.caps.get? gpu = some cap) :
    cap ≤ inForce ∧ cap ≤ max self.minCapW (inForce * (1 - self.derate)) := by
  obtain ⟨budget, answer⟩ := budget_of_decide call
  rw [(decide_ok answer call).1, Option.map_eq_some_iff] at returned
  obtain ⟨proposed, _, rfl⟩ := returned
  have bound : held state gpu proposed ≤ inForce := by
    rw [held, Dict.getD_of_some reported]
    exact min_le_right _ _
  have kept : 0 ≤ 1 - self.derate := sub_nonneg.mpr self.derate_lt_one.le
  rw [finalCap, if_pos flagged]
  constructor
  · exact (self.backedOff_le_held state gpu proposed).trans bound
  · refine (min_le_right _ _).trans (max_le_max le_rfl ?_)
    exact mul_le_mul_of_nonneg_right bound kept

/-- The caps of a run do not rise. -/
theorem ThrottledRun.descends {gpu : GpuIndex} {domainName : String} {self : ThermalAwarePRSBrain}
    {inForce : ℚ} {caps : List ℚ} (run : ThrottledRun gpu domainName self inForce caps) :
    (inForce :: caps).Pairwise (· ≥ ·) := by
  induction run with
  | done self inForce => exact List.pairwise_singleton _ _
  | @tick self next topology state decision inForce cap caps call flagged reported returned later ih =>
    have first : cap ≤ inForce := (backs_off call flagged reported returned).1
    refine List.Pairwise.cons (fun other member => ?_) ih
    rcases List.mem_cons.mp member with rfl | inside
    · exact first
    · exact (List.rel_of_pairwise_cons ih inside).trans first
  | elsewhere apart call later ih => exact ih

/-- From a cap in force below the floor or below a bound, every tick takes its part off the bound. -/
theorem ThrottledRun.decays {gpu : GpuIndex} {domainName : String} {self : ThermalAwarePRSBrain}
    {inForce : ℚ} {caps : List ℚ} (run : ThrottledRun gpu domainName self inForce caps) {bound : ℚ}
    (below : inForce ≤ max self.minCapW bound) (k : ℕ) {cap : ℚ} (kth : caps[k]? = some cap) :
    cap ≤ max self.minCapW ((1 - self.derate) ^ (k + 1) * bound) := by
  induction run generalizing bound k cap with
  | done self inForce => cases kth
  | @tick self next topology state decision inForce first caps call flagged reported returned later
      ih =>
    obtain ⟨budget, answer⟩ := budget_of_decide call
    obtain ⟨sameDerate, sameFloor⟩ := (decide_ok answer call).2.1
    obtain ⟨lower, reduced⟩ := backs_off call flagged reported returned
    have now : first ≤ max self.minCapW ((1 - self.derate) * bound) := by
      rcases le_max_iff.mp below with atFloor | under
      · exact (lower.trans atFloor).trans (le_max_left _ _)
      · refine reduced.trans (max_le_max le_rfl ?_)
        rw [mul_comm]
        exact mul_le_mul_of_nonneg_left under (sub_nonneg.mpr self.derate_lt_one.le)
    cases k with
    | zero =>
      cases kth
      rwa [zero_add, pow_one]
    | succ k =>
      have rest := ih (sameDerate ▸ sameFloor ▸ now) k kth
      rwa [sameDerate, sameFloor, ← mul_assoc, ← pow_succ] at rest
  | elsewhere apart call later ih =>
    obtain ⟨budget, answer⟩ := budget_of_decide call
    obtain ⟨sameDerate, sameFloor⟩ := (decide_ok answer call).2.1
    rw [← sameDerate, ← sameFloor]
    exact ih (sameFloor ▸ below) k kth

/-- **A GPU that stays flagged only backs off.** From any brain, while a GPU is flagged at each tick
and each returned cap is the one in force at the next tick, the returned caps do not rise, none is above
the cap in force at the start, and the `k`-th is at most the floor or that cap with the derating applied
`k` times. Draws, budgets and the other GPUs are arbitrary. -/
theorem throttled_only_backs_off {self : ThermalAwarePRSBrain} {gpu : GpuIndex}
    {domainName : String} {reported : ℚ} {caps : List ℚ}
    (run : ThrottledRun gpu domainName self reported caps) :
    caps.Pairwise (· ≥ ·) ∧ (∀ cap ∈ caps, cap ≤ reported) ∧
      ∀ k cap, caps[k]? = some cap →
        cap ≤ max self.minCapW ((1 - self.derate) ^ (k + 1) * reported) := by
  have descends := run.descends
  refine ⟨descends.of_cons, fun cap member => List.rel_of_pairwise_cons descends member, ?_⟩
  intro k cap kth
  exact run.decays (le_max_right _ _) k kth

/-! ### A flagged GPU next to one with room

GPU 0 runs hot at 500 W and is flagged. It is backed off by 75 W, which GPU 1 takes. -/

/-- A freshly built brain. -/
def coolingBrain : ThermalAwarePRSBrain where
  prs := { params := defaultParams }
  derate := 15 / 100
  minCapW := 200
  derate_nonneg := defaultPart_nonneg
  derate_lt_one := defaultPart_lt_one

def overheatedState : DomainState where
  domainName := "domain-0"
  gpuDraws := .ofList [(0, 475), (1, 100)]
  gpuCaps := .ofList [(0, 500), (1, 500)]
  gpuMaxCaps := .ofList [(0, 500), (1, 500)]
  ts := 0
  gpuThermalThrottled := .ofList [(0, true)]

/-- The total stays what PRS proposes. -/
theorem thermal_conserves_watts_overheated :
    ∃ inner prs decision next,
      coolingBrain.prs.decide skewedTopology "domain-0" overheatedState = .ok (inner, prs) ∧
        coolingBrain.decide skewedTopology "domain-0" overheatedState = .ok (decision, next) ∧
        inner.total = 700 ∧ takenW overheatedState inner.caps decision.caps = 75 ∧
        decision.total = inner.total := by
  obtain ⟨inner, prs, innerCall⟩ := coolingBrain.prs.decide_isOk overheatedState domainBudgetW_skewed
  obtain ⟨decision, next, call⟩ := coolingBrain.decide_isOk overheatedState domainBudgetW_skewed
  have innerCaps := (PRSBrain.decide_ok domainBudgetW_skewed innerCall).1
  have taken : takenW overheatedState inner.caps decision.caps = 75 := by
    have flagged : throttledGpus overheatedState inner.caps = [0] := by
      rw [innerCaps]
      decide +kernel
    have after : decision.caps.get? 0 = some 425 := by
      rw [(decide_ok domainBudgetW_skewed call).1]
      decide +kernel
    have before : inner.caps.get? 0 = some 500 := by
      rw [innerCaps]
      decide +kernel
    rw [takenW, flagged, List.map_singleton, List.sum_singleton, Dict.getD_of_some after,
      Dict.getD_of_some before]
    norm_num
  have room : roomW overheatedState inner.caps = 300 := by
    rw [innerCaps]
    decide +kernel
  refine ⟨inner, prs, decision, next, innerCall, call, ?_, taken, ?_⟩
  · rw [BrainDecision.total, innerCaps]
    decide +kernel
  · exact (thermal_conserves_watts innerCall call).2.2.2.1.mpr (by rw [taken, room]; norm_num)

/-- GPU 0 is still hot, at the cap it was given. -/
def stillHot (inForce : ℚ) : DomainState :=
  { overheatedState with gpuCaps := .ofList [(0, inForce), (1, 500)] }

/-- The cap of GPU 0 while it is hot, and the brain after that. -/
def hotCall (self : ThermalAwarePRSBrain) (inForce : ℚ) : Option (ℚ × ThermalAwarePRSBrain) := do
  let (decision, next) ← (self.decide skewedTopology "domain-0" (stillHot inForce)).toOption
  let cap ← decision.caps.get? 0
  return (cap, next)

/-- The caps of GPU 0 over some ticks at which it is hot. -/
def hotCaps (self : ThermalAwarePRSBrain) (inForce : ℚ) : ℕ → List ℚ
  | 0 => []
  | ticks + 1 => match self.hotCall inForce with
    | none => []
    | some (cap, next) => cap :: next.hotCaps cap ticks

theorem throttledRun_hotCaps (ticks : ℕ) : ∀ (self : ThermalAwarePRSBrain) (inForce : ℚ),
    ThrottledRun 0 "domain-0" self inForce (self.hotCaps inForce ticks) := by
  induction ticks with
  | zero => exact ThrottledRun.done
  | succ ticks ih =>
    intro self inForce
    unfold hotCaps
    split
    · exact .done self inForce
    · next cap next called =>
      obtain ⟨⟨decision, after⟩, ran, rest⟩ := Option.bind_eq_some_iff.mp called
      obtain ⟨_, returned, same⟩ := Option.bind_eq_some_iff.mp rest
      cases same
      have flagged : isThrottled (stillHot inForce) 0 := rfl
      exact .tick (ok_of_toOption ran) flagged rfl returned (ih next cap)

/-- Three ticks: from 500 W to 307 W, as far as the derating goes each time. -/
theorem throttled_only_backs_off_overheated :
    ∃ caps : List ℚ, ThrottledRun 0 "domain-0" coolingBrain 500 caps ∧
      caps = [425, 1445 / 4, 4913 / 16] ∧ (∀ cap ∈ caps, cap ≤ 500) ∧
      ∀ k cap, caps[k]? = some cap →
        cap ≤ max coolingBrain.minCapW ((1 - coolingBrain.derate) ^ (k + 1) * 500) := by
  have run : ThrottledRun 0 "domain-0" coolingBrain 500 (coolingBrain.hotCaps 500 3) :=
    throttledRun_hotCaps 3 coolingBrain 500
  exact ⟨_, run, by decide +kernel, (throttled_only_backs_off run).2⟩

end ThermalAwarePRSBrain

end Opendps.Brain
