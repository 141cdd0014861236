/-
**The fallback next to a PRS brain that sees every tick.**

Over all runs of one shape, the failing ticks have the caps of a PRS brain with the same parameters that
has seen every tick, exactly when the shape misses nothing (`CVXPYBrain.fallback_follows_prs_iff`). For
the one direction every shape is run with probes: at each tick all GPUs draw the same, on a domain
without watts to split. A constant draw between the two thresholds shows a threshold of its own
(`CVXPYBrain.threshold_eq_of_followsPrs`), a larger draw at the solved ticks shows what the fallback has
not seen (`CVXPYBrain.unseen_of_followsPrs`).
-/

import Opendps.Brain.FallbackHistory

namespace Opendps.Brain

open Opendps.Lib Opendps.Pdn

/-! ### Runs of a given shape -/

/-- A topology with one domain, whose budget its node uses up. -/
def emptyTopology (domainName : String) : PDNTopology where
  pdus := .ofKeys ["pdu-A"] fun name => { name := name, capacityW := 10000 }
  domains := .ofKeys [domainName] fun name =>
    { name := name, budgetW := 1000, gpuIndices := [], pduName := "pdu-A", nodeOverheadW := 1000 }

theorem domain_emptyTopology (domainName : String) :
    (emptyTopology domainName).domain domainName = .ok
      { name := domainName, budgetW := 1000, gpuIndices := [], pduName := "pdu-A"
        nodeOverheadW := 1000 } := by
  unfold PDNTopology.domain emptyTopology
  rw [Dict.get?_ofKeys_of_mem _ (List.mem_singleton_self domainName)]

theorem domainBudgetW_emptyTopology (domainName : String) :
    (emptyTopology domainName).domainBudgetW domainName = .ok 0 := by
  unfold PDNTopology.domainBudgetW
  rw [domain_emptyTopology]
  norm_num [emptyTopology, bind, Except.bind, pure, Except.pure, PDNTopology.rackScaledBudgetW,
    PDNTopology.rackOf]

/-- A tick of a shape at which every GPU draws the same. The solver answers every program, or is
missing. -/
def probe (draw : TickShape → ℚ) (cap hwMax : ℚ) (tick : TickShape) : LpCall where
  topology := emptyTopology tick.domainName
  domainName := tick.domainName
  state := {
    domainName := tick.domainName
    gpuDraws := .ofKeys tick.gpus fun _ => draw tick
    gpuCaps := .ofKeys tick.gpus fun _ => cap
    gpuMaxCaps := .ofKeys tick.gpus fun _ => hwMax
    ts := 0 }
  cp := if tick.solved then
    some fun _ => .ok { status := "optimal", value := some fun _ => 0, solveMs := 0 }
    else none

section Probes

variable {draw : TickShape → ℚ} {cap hwMax : ℚ} {ticks : List TickShape}

theorem solves_probe (self : CVXPYBrain) (tick : TickShape) :
    self.solves (probe draw cap hwMax tick) = tick.solved := by
  unfold CVXPYBrain.solves
  cases solved : tick.solved with
  | false =>
    have missing : (probe draw cap hwMax tick).cp = none := by simp [probe, solved]
    rw [missing]
  | true =>
    have installed : (probe draw cap hwMax tick).cp = some fun _ =>
        .ok { status := "optimal", value := some fun _ => 0, solveMs := 0 } := by simp [probe, solved]
    have present := domain_emptyTopology tick.domainName
    rw [installed, show (probe draw cap hwMax tick).topology.domain
      (probe draw cap hwMax tick).domainName = _ from present]
    simp only [Bool.and_eq_true, List.all_eq_true]
    refine ⟨fun gpu listed => ?_, rfl⟩
    have reported := LpTick.mem_gpus.mp listed
    have known : gpu ∈ tick.gpus := Dict.mem_keys_ofKeys.mp reported
    exact Dict.contains_iff.mpr (Dict.mem_keys_ofKeys.mpr known)

theorem marked_probes (self : CVXPYBrain) (ticks : List TickShape) :
    self.marked (ticks.map (probe draw cap hwMax)) =
      ticks.map fun tick => (probe draw cap hwMax tick, tick.solved) := by
  induction ticks generalizing self with
  | nil => rfl
  | cons tick rest ih => rw [List.map_cons, CVXPYBrain.marked, solves_probe, ih, List.map_cons]

/-- The probes have the shape they are made for. -/
theorem shape_probes (self : CVXPYBrain) (nodup : ∀ tick ∈ ticks, tick.gpus.Nodup) :
    self.Shape (ticks.map (probe draw cap hwMax)) = ticks := by
  rw [CVXPYBrain.Shape, marked_probes, List.map_map]
  refine (List.map_congr_left fun tick member => ?_).trans ticks.map_id
  have gpus : (Dict.ofKeys tick.gpus fun _ => draw tick).keys = tick.gpus :=
    Dict.keys_ofKeys (nodup tick member) _
  simp only [Function.comp_apply, shapeOf, probe, gpus]
  rfl

theorem failing_probes (self : CVXPYBrain) (ticks : List TickShape) :
    self.failing (ticks.map (probe draw cap hwMax)) =
      (ticks.filter fun tick => !tick.solved).map (probe draw cap hwMax) := by
  rw [CVXPYBrain.failing, marked_probes, List.filter_map, List.map_map]
  rfl

/-- What was drawn at the probes. -/
theorem mem_drawsOf_probes {domainName : String} {gpu : GpuIndex} {watts : ℚ} :
    watts ∈ drawsOf domainName gpu (ticks.map (probe draw cap hwMax)) ↔
      ∃ tick ∈ ticks, tick.domainName = domainName ∧ gpu ∈ tick.gpus ∧ draw tick = watts := by
  rw [drawsOf, List.mem_filterMap]
  simp only [List.mem_map, exists_exists_and_eq_and, probe]
  refine exists_congr fun tick => and_congr_right fun _ => ?_
  have contained : (emptyTopology tick.domainName).domains.contains tick.domainName = true :=
    Dict.contains_iff.mpr (Dict.mem_keys_ofKeys.mpr (List.mem_singleton_self _))
  by_cases here : tick.domainName = domainName
  · subst here
    rw [if_pos ⟨rfl, contained⟩]
    by_cases listed : gpu ∈ tick.gpus
    · simp [Dict.get?_ofKeys_of_mem _ listed, listed]
    · have absent : (Dict.ofKeys tick.gpus fun _ => draw tick).get? gpu = none :=
        Dict.get?_eq_none_iff.mpr fun member => listed (Dict.mem_keys_ofKeys.mp member)
      simp [absent, listed]
  · simp [here]

/-! What a PRS brain asks for at a probe -/

/-- The tick of a PRS brain at a probe, after the probes of a history. -/
def probeTick (params : PRSParams) (draw : TickShape → ℚ) (cap hwMax : ℚ) (history : List TickShape)
    (tick : TickShape) : Tick :=
  (run PRSBrain.step { params := params }
    ((history.map (probe draw cap hwMax)).map LpCall.prs)).tick 0 tick.domainName
      (probe draw cap hwMax tick).state

variable {params : PRSParams} {history : List TickShape} {tick : TickShape} {gpu : GpuIndex}

theorem params_probeTick (params : PRSParams) (history : List TickShape) :
    (probeTick params draw cap hwMax history tick).params = params :=
  PRSBrain.params_run params _

theorem mem_gpus_probeTick :
    gpu ∈ (probeTick params draw cap hwMax history tick).gpus ↔ gpu ∈ tick.gpus :=
  Dict.mem_keys_ofKeys

theorem smoothed_probeTick (listed : gpu ∈ tick.gpus) :
    (probeTick params draw cap hwMax history tick).smoothed gpu =
      blend params.ewmaAlpha (draw tick) ((blends params.ewmaAlpha
        (drawsOf tick.domainName gpu (history.map (probe draw cap hwMax)))).getD (draw tick)) :=
  PRSBrain.smoothed_calls params _ 0 tick.domainName (Dict.get?_ofKeys_of_mem _ listed)

/-- The smoothed draw has what all draws have and a blend keeps. -/
theorem smoothed_probeTick_induction (holds : ℚ → Prop)
    (kept : ∀ watts previous, holds watts → holds previous →
      holds (blend params.ewmaAlpha watts previous))
    (each : ∀ earlier ∈ history, holds (draw earlier)) (now : holds (draw tick))
    (listed : gpu ∈ tick.gpus) :
    holds ((probeTick params draw cap hwMax history tick).smoothed gpu) := by
  rw [smoothed_probeTick listed]
  refine kept _ _ now ?_
  cases found : blends params.ewmaAlpha
      (drawsOf tick.domainName gpu (history.map (probe draw cap hwMax))) with
  | none => exact now
  | some value =>
    refine blends_induction kept (fun watts member => ?_) found
    obtain ⟨earlier, inside, _, _, rfl⟩ := mem_drawsOf_probes.mp member
    exact each earlier inside

/-- Where all draws are the same, the smoothed draw is that draw. -/
theorem smoothed_probeTick_of_constant {watts : ℚ} (each : ∀ earlier ∈ history, draw earlier = watts)
    (now : draw tick = watts) (listed : gpu ∈ tick.gpus) :
    (probeTick params draw cap hwMax history tick).smoothed gpu = watts := by
  refine smoothed_probeTick_induction (· = watts) (fun new old same before => ?_) each now listed
  rw [same, before, blend_self]

theorem isHot_probeTick (capPos : 0 < cap) (listed : gpu ∈ tick.gpus) :
    (probeTick params draw cap hwMax history tick).isHot gpu = true ↔
      params.reclaimThreshold ≤
        (probeTick params draw cap hwMax history tick).smoothed gpu / cap := by
  have reported : (probeTick params draw cap hwMax history tick).state.gpuCaps.getD gpu
      (probeTick params draw cap hwMax history tick).fallbackMax = cap :=
    Dict.getD_of_some (Dict.get?_ofKeys_of_mem _ listed) _
  rw [Tick.isHot, reported, decide_eq_true_iff, params_probeTick]
  exact and_iff_right capPos

theorem hwMax_probeTick (listed : gpu ∈ tick.gpus) :
    (probeTick params draw cap hwMax history tick).hwMax gpu = hwMax :=
  Dict.getD_of_some (Dict.get?_ofKeys_of_mem _ listed) _

/-- An idle GPU is asked to stay at its smoothed draw with the margin. -/
theorem target_probeTick_of_idle (capPos : 0 < cap) (listed : gpu ∈ tick.gpus)
    (cold : (probeTick params draw cap hwMax history tick).smoothed gpu / cap <
      params.reclaimThreshold) :
    (probeTick params draw cap hwMax history tick).target gpu =
      min (max params.minCapW ((probeTick params draw cap hwMax history tick).smoothed gpu *
        (1 + params.idleFloorMargin))) hwMax := by
  rw [Tick.target, if_neg fun hot => absurd ((isHot_probeTick capPos listed).mp hot) (not_le.mpr cold),
    Tick.idleFloor, hwMax_probeTick listed, params_probeTick]

/-- Where all GPUs are hot there is nothing to split, and each is left at its floor. -/
theorem target_probeTick_of_hot (capPos : 0 < cap) (maximum : 0 ≤ hwMax) (listed : gpu ∈ tick.gpus)
    (hot : ∀ gpu ∈ tick.gpus, params.reclaimThreshold ≤
      (probeTick params draw cap hwMax history tick).smoothed gpu / cap) :
    (probeTick params draw cap hwMax history tick).target gpu = max params.minCapW 0 := by
  have noIdle : (probeTick params draw cap hwMax history tick).idle = [] := by
    rw [Tick.idle, List.filter_eq_nil_iff]
    intro other present
    have inTick := mem_gpus_probeTick.mp present
    rw [(isHot_probeTick capPos inTick).mpr (hot other inTick)]
    decide
  have nothing : (probeTick params draw cap hwMax history tick).hotBudget = 0 := by
    rw [Tick.hotBudget, Tick.idleTotal_eq, noIdle, List.map_nil, List.sum_nil, sub_zero]
    exact max_self 0
  rw [Tick.target, if_pos ((isHot_probeTick capPos listed).mpr (hot gpu listed)), Tick.hotCap,
    Tick.raw, nothing, mul_zero, hwMax_probeTick listed, clamp, min_eq_right maximum, params_probeTick]

end Probes

namespace CVXPYBrain

variable {minCapW ewmaAlpha reclaimThreshold idleReclaimCeil : ℚ} {self : CVXPYBrain}
  {reference : PRSBrain} {draw : TickShape → ℚ} {cap hwMax : ℚ} {past rest : List TickShape}
  {tick : TickShape} {gpu : GpuIndex} {pos : 0 < ewmaAlpha} {atMost : ewmaAlpha ≤ 1}

/-- Where the probes follow a PRS brain, both ask for the same. -/
theorem target_eq_of_followsPrs
    (fallback : self.fallback = { params := prsParams minCapW ewmaAlpha (6 / 10) pos atMost })
    (follows : self.FollowsPrs { params := prsParams minCapW ewmaAlpha reclaimThreshold pos atMost }
      ((past ++ tick :: rest).map (probe draw cap hwMax)))
    (unsolved : tick.solved = false) (listed : gpu ∈ tick.gpus) :
    (probeTick (prsParams minCapW ewmaAlpha (6 / 10) pos atMost) draw cap hwMax
        (past.filter fun tick => !tick.solved) tick).target gpu =
      (probeTick (prsParams minCapW ewmaAlpha reclaimThreshold pos atMost) draw cap hwMax past
        tick).target gpu := by
  have answer : (probe draw cap hwMax tick).topology.domainBudgetW
      (probe draw cap hwMax tick).domainName = .ok 0 := domainBudgetW_emptyTopology tick.domainName
  have now := follows (past.map (probe draw cap hwMax)) (probe draw cap hwMax tick)
    (rest.map (probe draw cap hwMax)) (by rw [List.map_append, List.map_cons])
    ((solves_probe _ _).trans unsolved)
  have remembers := fallback_run self (past.map (probe draw cap hwMax))
  rw [failing_probes, fallback] at remembers
  obtain ⟨decision, after, call⟩ := PRSBrain.decide_isOk
    (run step self (past.map (probe draw cap hwMax))).fallback (probe draw cap hwMax tick).state answer
  have falls : (run step self (past.map (probe draw cap hwMax))).decide
      (probe draw cap hwMax tick).topology (probe draw cap hwMax tick).domainName
      (probe draw cap hwMax tick).state (probe draw cap hwMax tick).cp =
        .ok (decision, { run step self (past.map (probe draw cap hwMax)) with fallback := after }) := by
    have missing : (probe draw cap hwMax tick).cp = none := by simp [probe, unsolved]
    rw [missing]
    unfold CVXPYBrain.decide fallBack
    rw [call]
    rfl
  obtain ⟨other, final, replied, same⟩ := now _ _ falls
  have caps := same gpu
  rw [(PRSBrain.decide_ok answer call).1, (PRSBrain.decide_ok answer replied).1, remembers] at caps
  have unlimited : ∀ threshold history, (probeTick
      (prsParams minCapW ewmaAlpha threshold pos atMost) draw cap hwMax history
        tick).params.capRaiseRateWPerTick = 0 := fun threshold history => by
    rw [params_probeTick]
    rfl
  have asked := (Tick.get?_caps_of_unlimited (unlimited _ _) (mem_gpus_probeTick.mpr listed)).symm.trans
    (caps.trans (Tick.get?_caps_of_unlimited (unlimited _ _) (mem_gpus_probeTick.mpr listed)))
  exact Option.some.inj asked

/-- **A threshold of its own shows.** At a constant draw between the thresholds one of the two brains
takes the GPUs for idle and the other for hot. -/
theorem threshold_eq_of_followsPrs
    (fallback : self.fallback = { params := prsParams minCapW ewmaAlpha (6 / 10) pos atMost })
    (follows : ∀ cap, self.FollowsPrs
      { params := prsParams minCapW ewmaAlpha reclaimThreshold pos atMost }
      ((past ++ tick :: rest).map (probe (fun _ => max 1 minCapW) cap (3 * max 1 minCapW))))
    (unsolved : tick.solved = false) (listed : gpu ∈ tick.gpus) : reclaimThreshold = 6 / 10 := by
  have positive : 0 < max 1 minCapW := lt_max_of_lt_left one_pos
  have floor : minCapW ≤ max 1 minCapW := le_max_right _ _
  generalize max 1 minCapW = watts at follows positive floor
  have constant : ∀ threshold cap history, ∀ gpu ∈ tick.gpus,
      (probeTick (prsParams minCapW ewmaAlpha threshold pos atMost) (fun _ => watts) cap (3 * watts)
        history tick).smoothed gpu = watts := fun threshold cap history gpu listed =>
    smoothed_probeTick_of_constant (fun _ _ => rfl) rfl listed
  -- the ratio of the draw to the cap is between the thresholds
  have shows : ∀ ratio idle hot idleHistory hotHistory, 0 < ratio → ratio < idle → hot ≤ ratio →
      (probeTick (prsParams minCapW ewmaAlpha idle pos atMost) (fun _ => watts) (watts / ratio)
          (3 * watts) idleHistory tick).target gpu ≠
        (probeTick (prsParams minCapW ewmaAlpha hot pos atMost) (fun _ => watts) (watts / ratio)
          (3 * watts) hotHistory tick).target gpu := by
    intro ratio idle hot idleHistory hotHistory ratioPos below above
    have capPos : 0 < watts / ratio := div_pos positive ratioPos
    have load : watts / (watts / ratio) = ratio := div_div_cancel₀ positive.ne'
    rw [target_probeTick_of_idle capPos listed (by rw [constant _ _ _ _ listed, load]; exact below),
      target_probeTick_of_hot capPos (by linarith) listed
        (fun gpu listed => by rw [constant _ _ _ _ listed, load]; exact above),
      constant _ _ _ _ listed]
    refine (lt_of_le_of_lt (max_le floor positive.le) (lt_min (lt_max_of_lt_right ?_) ?_)).ne'
    · show watts < watts * (1 + 3 / 10)
      linarith
    · linarith
  rcases lt_trichotomy reclaimThreshold (6 / 10) with below | equal | above
  · have agree := target_eq_of_followsPrs fallback (follows (watts / max reclaimThreshold (3 / 10)))
      unsolved listed
    exact absurd agree (shows _ _ _ _ _ (lt_max_of_lt_right (by norm_num))
      (max_lt below (by norm_num)) (le_max_left _ _))
  · exact equal
  · have agree := target_eq_of_followsPrs fallback (follows (watts / (6 / 10))) unsolved listed
    exact absurd agree.symm (shows _ _ _ _ _ (by norm_num) above le_rfl)

/-- **A solved tick shows.** Where draws are smoothed, a larger draw at a tick that the solver decided
raises the caps of a brain that has seen it. -/
theorem unseen_of_followsPrs (smooths : ewmaAlpha < 1)
    (fallback : self.fallback = { params := prsParams minCapW ewmaAlpha (6 / 10) pos atMost })
    (follows : self.FollowsPrs { params := prsParams minCapW ewmaAlpha (6 / 10) pos atMost }
      ((past ++ tick :: rest).map (probe
        (fun tick => if tick.solved then 2 * max 1 minCapW else max 1 minCapW)
        (4 * max 1 minCapW) (3 * max 1 minCapW))))
    (unsolved : tick.solved = false) (listed : gpu ∈ tick.gpus) {earlier : TickShape}
    (member : earlier ∈ past) (solved : earlier.solved = true)
    (here : earlier.domainName = tick.domainName) : gpu ∉ earlier.gpus := by
  intro seen
  have positive : 0 < max 1 minCapW := lt_max_of_lt_left one_pos
  have floor : minCapW ≤ max 1 minCapW := le_max_right _ _
  have agree := target_eq_of_followsPrs fallback follows unsolved listed
  generalize max 1 minCapW = watts at agree positive floor
  have capPos : 0 < 4 * watts := by linarith
  have draws : ∀ shape : TickShape, watts ≤ (if shape.solved then 2 * watts else watts) ∧
      (if shape.solved then 2 * watts else watts) ≤ 2 * watts := by
    intro shape
    split <;> constructor <;> linarith
  have drawn : (if tick.solved then 2 * watts else watts) = watts := by rw [unsolved]; rfl
  -- the fallback has seen the lower draw only
  have stale : (probeTick (prsParams minCapW ewmaAlpha (6 / 10) pos atMost)
      (fun tick => if tick.solved then 2 * watts else watts) (4 * watts) (3 * watts)
      (past.filter fun tick => !tick.solved) tick).smoothed gpu = watts := by
    refine smoothed_probeTick_of_constant (fun shape inside => ?_) drawn listed
    have declined := (List.mem_filter.mp inside).2
    rw [Bool.not_eq_true'] at declined
    rw [declined]
    rfl
  have fresh : watts < (probeTick (prsParams minCapW ewmaAlpha (6 / 10) pos atMost)
      (fun tick => if tick.solved then 2 * watts else watts) (4 * watts) (3 * watts) past
        tick).smoothed gpu := by
    have stored : 2 * watts ∈ drawsOf tick.domainName gpu (past.map (probe
        (fun tick => if tick.solved then 2 * watts else watts) (4 * watts) (3 * watts))) :=
      mem_drawsOf_probes.mpr ⟨earlier, member, here, seen, by rw [solved]; rfl⟩
    obtain ⟨value, found⟩ := blends_isSome ewmaAlpha stored
    have larger : watts < value := by
      refine lt_blends pos smooths (fun draw inside => ?_) stored (by linarith) found
      obtain ⟨shape, _, _, _, rfl⟩ := mem_drawsOf_probes.mp inside
      exact (draws shape).1
    rw [smoothed_probeTick listed]
    show watts < blend ewmaAlpha _ ((blends ewmaAlpha _).getD _)
    rw [found]
    exact lt_blend_of_previous pos smooths (draws tick).1 larger
  have bounded : (probeTick (prsParams minCapW ewmaAlpha (6 / 10) pos atMost)
      (fun tick => if tick.solved then 2 * watts else watts) (4 * watts) (3 * watts) past
        tick).smoothed gpu ≤ 2 * watts :=
    smoothed_probeTick_induction (· ≤ 2 * watts) (fun _ _ => blend_le pos atMost)
      (fun shape _ => (draws shape).2) (draws tick).2 listed
  generalize heldFresh : (probeTick (prsParams minCapW ewmaAlpha (6 / 10) pos atMost)
      (fun tick => if tick.solved then 2 * watts else watts) (4 * watts) (3 * watts) past
        tick).smoothed gpu = held at fresh bounded
  have cold : ∀ value, value ≤ 2 * watts → value / (4 * watts) < 6 / 10 := by
    intro value below
    rw [div_lt_iff₀ capPos]
    linarith
  rw [target_probeTick_of_idle capPos listed (by rw [stale]; exact cold _ (by linarith)),
    target_probeTick_of_idle capPos listed (by rw [heldFresh]; exact cold _ bounded), stale,
    heldFresh] at agree
  have margin : (prsParams minCapW ewmaAlpha (6 / 10) pos atMost).idleFloorMargin = 3 / 10 := rfl
  have floors : (prsParams minCapW ewmaAlpha (6 / 10) pos atMost).minCapW = minCapW := rfl
  rw [margin, floors, max_eq_right (by linarith), max_eq_right (by linarith),
    min_eq_left (by linarith), min_eq_left (by linarith)] at agree
  linarith

/-- The GPUs of a tick are distinct. -/
theorem nodup_shape (self : CVXPYBrain) (calls : List LpCall) :
    ∀ tick ∈ self.Shape calls, tick.gpus.Nodup := by
  intro tick member
  obtain ⟨marked, _, rfl⟩ := List.mem_map.mp member
  exact marked.1.state.gpuDraws.keys_nodup

/-- **The fallback is a PRS brain that sees every tick, exactly when it misses nothing.** For every new
brain and every shape of a run: over all runs of the shape, with any topologies, telemetry and solvers,
every tick that the solver path does not decide has the caps of a PRS brain with the same parameters that
has seen all ticks so far, if and only if the shape misses nothing. -/
theorem fallback_follows_prs_iff
    (built : CVXPYBrain.init minCapW ewmaAlpha reclaimThreshold idleReclaimCeil = .ok self)
    (same : PRSBrain.init minCapW ewmaAlpha reclaimThreshold = .ok reference) (calls : List LpCall) :
    (∀ others, self.Shape others = self.Shape calls → self.FollowsPrs reference others) ↔
      NothingMissed ewmaAlpha reclaimThreshold (self.Shape calls) := by
  constructor
  · intro follows
    obtain ⟨pos, atMost, fallback⟩ := eq_of_init built
    obtain ⟨_, _, rfl⟩ := PRSBrain.eq_of_init same
    have probes : ∀ draw cap hwMax, self.FollowsPrs
        { params := prsParams minCapW ewmaAlpha reclaimThreshold pos atMost }
        ((self.Shape calls).map (probe draw cap hwMax)) := fun draw cap hwMax =>
      follows _ (shape_probes self (nodup_shape self calls))
    have threshold : ∀ tick ∈ self.Shape calls, tick.solved = false → tick.gpus ≠ [] →
        reclaimThreshold = 6 / 10 := by
      intro tick member unsolved reports
      obtain ⟨past, rest, split⟩ := List.append_of_mem member
      obtain ⟨gpu, listed⟩ := List.exists_mem_of_ne_nil _ reports
      exact threshold_eq_of_followsPrs fallback (fun cap => split ▸ probes _ cap _) unsolved listed
    refine ⟨threshold, ?_⟩
    rcases atMost.eq_or_lt with unsmoothed | smooths
    · exact .inl unsmoothed
    · refine .inr fun past tick rest split unsolved earlier member solved here gpu listed => ?_
      have default := threshold tick (split ▸ List.mem_append_right _ List.mem_cons_self) unsolved
        (List.ne_nil_of_mem listed)
      subst default
      exact unseen_of_followsPrs smooths fallback (split ▸ probes _ _ _) unsolved listed member solved
        here
  · intro nothing others shape
    exact followsPrs_of_nothingMissed built same (shape ▸ nothing)

end CVXPYBrain

/-! ### A solver that answers once

A GPU draws 100 W at a tick that the solver decides, and 400 W at one where the library is missing. -/

namespace CVXPYBrain

def quietState (draw : ℚ) : DomainState where
  domainName := "domain-0"
  gpuDraws := .ofList [(0, draw)]
  gpuCaps := .ofList [(0, 1000)]
  gpuMaxCaps := .ofList [(0, 1000)]
  ts := 0

/-- The only point of the program: the floor is the ceiling. -/
def floorPoint : GpuIndex → ℚ := fun _ => 200

theorem optimal_floorPoint :
    (newBrain.tick sharedDomain "domain-0" (quietState 100)).problem.Optimal floorPoint := by
  have objective : (newBrain.tick sharedDomain "domain-0" (quietState 100)).problem.objective =
      .sum [0] := by decide +kernel
  refine ⟨by decide +kernel, fun other feasible => ?_⟩
  have bounds := ((newBrain.tick sharedDomain "domain-0" (quietState 100)).problem_isBox other).mp
    feasible
  rw [objective, Affine.eval_sum, Affine.eval_sum, List.map_singleton, List.map_singleton,
    List.sum_singleton, List.sum_singleton]
  exact (bounds.1 0 (by decide +kernel)).1

/-- The solver that answers it. -/
def floorSolver : Solver :=
  .only (newBrain.tick sharedDomain "domain-0" (quietState 100)).problem floorPoint

def solvedCall : LpCall where
  topology := sharedTopology
  domainName := "domain-0"
  state := quietState 100
  cp := floorSolver

def missingCall : LpCall where
  topology := sharedTopology
  domainName := "domain-0"
  state := quietState 400
  cp := none

/-- The second tick is decided as if the first had not been: with 520 W, where a PRS brain that has seen
both allows 247 W. -/
theorem fallback_forgets :
    CVXPYBrain.init 200 (3 / 10) (6 / 10) (13 / 10) = .ok newBrain ∧
      PRSBrain.init 200 (3 / 10) (6 / 10) = .ok { params := defaultParams } ∧ floorSolver.Optimal ∧
      newBrain.solves solvedCall = true ∧
      (run step newBrain [solvedCall]).solves missingCall = false ∧
      (∃ decision next, (run step newBrain [solvedCall]).decide sharedTopology "domain-0"
          (quietState 400) none = .ok (decision, next) ∧ decision.caps.get? 0 = some 520) ∧
      (∃ decision next, (run PRSBrain.step { params := defaultParams } [solvedCall.prs]).decide
          sharedTopology "domain-0" (quietState 400) = .ok (decision, next) ∧
        decision.caps.get? 0 = some 247) ∧
      ¬ newBrain.FollowsPrs { params := defaultParams } [solvedCall, missingCall] := by
  have solved : newBrain.solves solvedCall = true := by decide +kernel
  have missing : (run step newBrain [solvedCall]).solves missingCall = false := by decide +kernel
  have falls : ∃ decision next, (run step newBrain [solvedCall]).decide sharedTopology "domain-0"
      (quietState 400) none = .ok (decision, next) ∧ decision.caps.get? 0 = some 520 :=
    ⟨_, _, rfl, by decide +kernel⟩
  have smooths : ∃ decision next, (run PRSBrain.step { params := defaultParams }
      [solvedCall.prs]).decide sharedTopology "domain-0" (quietState 400) = .ok (decision, next) ∧
        decision.caps.get? 0 = some 247 := ⟨_, _, rfl, by decide +kernel⟩
  refine ⟨init_newBrain, ?_, Solver.optimal_only optimal_floorPoint, solved, missing, falls, smooths,
    fun follows => ?_⟩
  · rw [PRSBrain.init, dif_pos ⟨by norm_num, by norm_num⟩, dif_pos le_rfl]
    rfl
  · obtain ⟨decision, next, decided, high⟩ := falls
    obtain ⟨expected, _, replied, low⟩ := smooths
    obtain ⟨other, after, answered, same⟩ :=
      follows [solvedCall] missingCall [] rfl missing decision next decided
    cases answered.symm.trans replied
    have caps := same 0
    rw [high, low] at caps
    exact absurd caps (by decide)

theorem fallback_follows_prs_iff_missing :
    (∀ others, newBrain.Shape others = newBrain.Shape [solvedCall, missingCall] →
        newBrain.FollowsPrs { params := defaultParams } others) ↔
      NothingMissed (3 / 10) (6 / 10) (newBrain.Shape [solvedCall, missingCall]) :=
  fallback_follows_prs_iff init_newBrain
    (by rw [PRSBrain.init, dif_pos ⟨by norm_num, by norm_num⟩, dif_pos le_rfl]; rfl) _

end CVXPYBrain

end Opendps.Brain
