/-
**Budgets in force while the cluster runs.**

`ClusterCoordinator.rebalance` hands out no more than the cluster budget, but a node runs on a budget
from the tick that adopts it to the tick that adopts the next one, and between them the coordinators go
on. A coordinator is a program here: its calls to the store fall between those of other coordinators, the
reports of the nodes and the ticks of their controllers.

A node is handed its `peak` when all others are idle. `live_total_le_iff`: what all nodes can run on at
the same time is exactly the sum of what each can run on at its peak, however large a multiple of the
cluster budget this is.
-/

import Opendps.Controller.BudgetAdoption
import Opendps.Lib.Calls
import Mathlib.Algebra.BigOperators.Fin
import Mathlib.Algebra.Order.BigOperators.Group.Finset

namespace Opendps.Controller

open Opendps.Lib Opendps.Pdn

/-! ### A coordinator, one call at a time -/

/-- The calls of a coordinator to the store. -/
inductive StoreCall where
  | getAll
  | setAdoptedBudget (nodeId domainName : String) (budgetW : ℚ)

def StoreCall.Answer : StoreCall → Type
  | getAll => List NodeState
  | setAdoptedBudget _ _ _ => Unit

def InMemoryStore.handle : (call : StoreCall) → InMemoryStore → call.Answer × InMemoryStore
  | .getAll, store => (store.getAll, store)
  | .setAdoptedBudget nodeId domainName budgetW, store =>
    ((), store.setAdoptedBudget nodeId domainName budgetW)

namespace ClusterCoordinator

/-- The publishing at the end of a rebalance. -/
def publishCalls (budget : NodeState → ℚ) : List NodeState → Prog StoreCall.Answer Unit
  | [] => .ret ()
  | state :: rest =>
    .call (.setAdoptedBudget state.nodeId state.domainName (budget state)) fun _ =>
      publishCalls budget rest

/-- `rebalance`, one call at a time. -/
def rebalanceCalls (self : ClusterCoordinator) : Prog StoreCall.Answer ClusterCoordinator :=
  .call .getAll fun states =>
    if states.isEmpty then .ret self
    else
      let newBudgets := self.newBudgets states
      (publishCalls (fun state => newBudgets.getD state.nodeId 0) states).bind fun _ =>
        .ret { self with nodeBudgets := newBudgets }

/-- A coordinator that rebalances so many times. -/
def rebalancesCalls : ℕ → ClusterCoordinator → Prog StoreCall.Answer ClusterCoordinator
  | 0, self => .ret self
  | rounds + 1, self => self.rebalanceCalls.bind (rebalancesCalls rounds)

/-- A rebalance leaves the coordinator its budget. -/
theorem clusterBudget_rebalance {self : ClusterCoordinator} (store : InMemoryStore) :
    (self.rebalance store).2.1.clusterBudget = self.clusterBudget := by
  unfold rebalance
  simp only
  split <;> rfl

theorem run_publishCalls (budget : NodeState → ℚ) (states : List NodeState) (store : InMemoryStore) :
    (publishCalls budget states).run InMemoryStore.handle store =
      ((), states.foldl (fun current state =>
        current.setAdoptedBudget state.nodeId state.domainName (budget state)) store) := by
  induction states generalizing store with
  | nil => rfl
  | cons state rest ih => exact ih _

/-- With nobody else around the calls come to `rebalance`. -/
theorem run_rebalanceCalls (self : ClusterCoordinator) (store : InMemoryStore) :
    self.rebalanceCalls.run InMemoryStore.handle store = (self.rebalance store).2 := by
  rw [rebalanceCalls, Prog.run, rebalance]
  show Prog.run InMemoryStore.handle (if store.getAll.isEmpty then _ else _) store = _
  by_cases none : store.getAll.isEmpty = true
  · simp only [none, if_true]
    rfl
  · simp only [none]
    refine (Prog.run_bind _ _ _ _).trans ?_
    show Prog.run InMemoryStore.handle (.ret _) (Prog.run InMemoryStore.handle (publishCalls
      (fun state => (self.newBudgets store.getAll).getD state.nodeId 0) store.getAll) store).2 = _
    rw [run_publishCalls]
    rfl

end ClusterCoordinator

/-! ### The peak -/

namespace ClusterCoordinator

/-- What a node among `n` is handed when only it draws power. -/
def peak (clusterBudget : ℚ) (n : ℕ) : ℚ :=
  min (clusterBudget / (2 * n) + clusterBudget / 2) (2 * clusterBudget / n)

variable {self : ClusterCoordinator} {states : List NodeState}

/-- No node is handed more. -/
theorem nodeBudget_le_peak (positive : 0 < self.clusterBudget)
    (nonneg : ∀ state ∈ states, 0 ≤ state.drawW) {state : NodeState} (member : state ∈ states) :
    self.nodeBudget states state ≤ peak self.clusterBudget states.length := by
  have some := length_ne_zero (List.ne_nil_of_mem member)
  have drawn : state.drawW ≤ (states.map NodeState.drawW).sum :=
    List.single_le_sum (fun draw inside => by
      obtain ⟨other, present, rfl⟩ := List.mem_map.mp inside
      exact nonneg other present) _ (List.mem_map_of_mem member)
  have part : state.drawW / totalDraw states ≤ 1 :=
    (div_le_div_of_nonneg_right drawn (totalDraw_pos nonneg).le).trans (self_div_orOne_le_one _)
  refine min_le_min ?_ (ceil_eq self _).le
  rw [proportionalShare, floor_eq, surplus_eq self some]
  exact add_le_add le_rfl (mul_le_of_le_one_left (half_pos positive).le part)

/-- The only one that draws is handed its peak. -/
theorem nodeBudget_eq_peak (nonempty : states ≠ []) {state : NodeState} (draws : state.drawW ≠ 0)
    (alone : (states.map NodeState.drawW).sum = state.drawW) :
    self.nodeBudget states state = peak self.clusterBudget states.length := by
  have total : totalDraw states = state.drawW := by
    rw [totalDraw, alone, orOne, if_neg draws]
  rw [nodeBudget, proportionalShare, total, div_self draws, one_mul, floor_eq, ceil_eq,
    surplus_eq self (length_ne_zero nonempty), peak]

end ClusterCoordinator

/-! ### A node -/

/-- The numbers a node reports. -/
structure NodeReport where
  drawW : ℚ
  capW : ℚ
  budgetW : ℚ
  ts : ℚ
  draw_nonneg : 0 ≤ drawW

namespace ClusterNode

def state (node : ClusterNode) (report : NodeReport) : NodeState where
  nodeId := node.controller.nodeId
  domainName := node.domain.name
  drawW := report.drawW
  capW := report.capW
  budgetW := report.budgetW
  ts := report.ts

/-- What adoption makes of the topology, for what the store answers. A read that fails answers
nothing. -/
def adoptedTopology (node : ClusterNode) : Option ℚ → PDNTopology
  | some adopted =>
    if node.controller.adoptedBudgetMinW ≤ adopted then
      node.controller.topology.adoptBudget node.domain.name adopted
    else node.controller.topology.releaseBudget node.domain.name
  | none => node.controller.topology.releaseBudget node.domain.name

theorem domains_adoptedTopology (node : ClusterNode) (answer : Option ℚ) :
    (node.adoptedTopology answer).domains = node.controller.topology.domains := by
  unfold adoptedTopology
  split
  · split <;> rfl
  · rfl

/-- The node after the adoption of a tick. -/
def adopts (node : ClusterNode) (answer : Option ℚ) : ClusterNode where
  controller := { node.controller with topology := node.adoptedTopology answer }
  domain := node.domain
  manages := node.manages
  present := by rw [domains_adoptedTopology, node.present]
  overhead_nonneg := node.overhead_nonneg

/-- It is that of the controller. -/
theorem adoptedTopology_eq (node : ClusterNode) (store : InMemoryStore) :
    node.adoptedTopology (store.getAdoptedBudget node.controller.nodeId node.domain.name) =
      node.controller.adopt store node.domain.name := by
  unfold adoptedTopology StandaloneController.adopt
  cases store.getAdoptedBudget node.controller.nodeId node.domain.name <;> rfl

/-- The budget a node has adopted. -/
def adopted (node : ClusterNode) : Option ℚ :=
  node.controller.topology.adoptedBudgetW.get? node.domain.name

/-- The budget the brains of a node allocate against. -/
def budgetW (node : ClusterNode) : Except PyError ℚ :=
  node.controller.topology.domainBudgetW node.domain.name

/-- An adopted budget counts less the overhead, and without one the static budget counts. -/
theorem budgetW_eq (node : ClusterNode) : node.budgetW = .ok (match node.adopted with
    | some adopted => max 0 (adopted - node.domain.nodeOverheadW)
    | none => node.staticBudgetW) := by
  have found : node.controller.topology.domain node.domain.name = .ok node.domain := by
    rw [PDNTopology.domain, node.present]
  rw [budgetW, PDNTopology.domainBudgetW, found, adopted]
  cases node.controller.topology.adoptedBudgetW.get? node.domain.name <;> rfl

/-- It adopts what reaches its threshold. -/
theorem adopted_adopts (node : ClusterNode) (answer : Option ℚ) :
    (node.adopts answer).adopted =
      answer.filter fun adopted => node.controller.adoptedBudgetMinW ≤ adopted := by
  cases answer with
  | none => exact (Dict.get?_pop _ _ _).trans (if_pos rfl)
  | some budget =>
    show (node.adoptedTopology (some budget)).adoptedBudgetW.get? node.domain.name = _
    by_cases reached : node.controller.adoptedBudgetMinW ≤ budget
    · rw [adoptedTopology, if_pos reached, Option.filter_some, if_pos (decide_eq_true reached)]
      exact Dict.get?_set_self _ _ _
    · rw [adoptedTopology, if_neg reached, Option.filter_some,
        if_neg (by rw [decide_eq_true_iff]; exact reached)]
      exact (Dict.get?_pop _ _ _).trans (if_pos rfl)

/-- The most a node runs on, if it is handed no more than so much. -/
def topW (node : ClusterNode) (handedW : ℚ) : ℚ :=
  if node.controller.adoptedBudgetMinW ≤ handedW then
    max node.staticBudgetW (max 0 (handedW - node.domain.nodeOverheadW))
  else node.staticBudgetW

theorem staticBudgetW_le_topW (node : ClusterNode) (handedW : ℚ) :
    node.staticBudgetW ≤ node.topW handedW := by
  unfold topW
  split
  · exact le_max_left _ _
  · exact le_rfl

/-- It does not. -/
theorem budgetW_le_topW {node : ClusterNode} {handedW budget : ℚ}
    (held : ∀ adopted, node.adopted = some adopted →
      node.controller.adoptedBudgetMinW ≤ adopted ∧ adopted ≤ handedW)
    (inForce : node.budgetW = .ok budget) : budget ≤ node.topW handedW := by
  rw [budgetW_eq, Except.ok.injEq] at inForce
  subst inForce
  cases stored : node.adopted with
  | none => exact node.staticBudgetW_le_topW handedW
  | some adopted =>
    obtain ⟨reached, below⟩ := held adopted stored
    rw [topW, if_pos (reached.trans below)]
    exact le_max_of_le_right (max_le_max le_rfl (sub_le_sub_right below _))

/-- It is reached on the budget that is handed down, or on the static one. -/
theorem topW_cases (node : ClusterNode) (handedW : ℚ) :
    (node.controller.adoptedBudgetMinW ≤ handedW ∧
      node.topW handedW = max 0 (handedW - node.domain.nodeOverheadW)) ∨
      node.topW handedW = node.staticBudgetW := by
  unfold topW
  split
  · next reached =>
    rcases max_choice node.staticBudgetW (max 0 (handedW - node.domain.nodeOverheadW)) with own | handed
    · exact .inr own
    · exact .inl ⟨reached, handed⟩
  · exact .inr rfl

/-- What a tick leaves of a node as it is. -/
structure Same (first node : ClusterNode) : Prop where
  nodeId : node.controller.nodeId = first.controller.nodeId
  domain : node.domain = first.domain
  minW : node.controller.adoptedBudgetMinW = first.controller.adoptedBudgetMinW
  static : node.staticBudgetW = first.staticBudgetW

theorem Same.adopts {first node : ClusterNode} (same : Same first node) (answer : Option ℚ) :
    Same first (node.adopts answer) where
  nodeId := same.nodeId
  domain := same.domain
  minW := same.minW
  static := by
    rw [← same.static]
    show max 0 ((node.adoptedTopology answer).rackScaledBudgetW node.domain - _) = _
    unfold adoptedTopology
    split
    · split <;> rfl
    · rfl

theorem Same.topW_eq {first node : ClusterNode} (same : Same first node) (handedW : ℚ) :
    node.topW handedW = first.topW handedW := by
  rw [topW, topW, same.minW, same.static, same.domain]

end ClusterNode

/-! ### The cluster -/

/-- The store, and the nodes that report to it. -/
structure LiveCluster (n : ℕ) where
  store : InMemoryStore
  nodes : Fin n → ClusterNode

/-- A node reports, or its controller ticks; its read of the store may fail. -/
inductive NodeEvent (n : ℕ) where
  | report (i : Fin n) (report : NodeReport)
  | tick (i : Fin n) (fails : Bool)

namespace LiveCluster

variable {n : ℕ}

def handle (call : StoreCall) (cluster : LiveCluster n) : call.Answer × LiveCluster n :=
  ((InMemoryStore.handle call cluster.store).1,
    { cluster with store := (InMemoryStore.handle call cluster.store).2 })

def nodeStep (cluster : LiveCluster n) : NodeEvent n → LiveCluster n
  | .report i report => { cluster with store := cluster.store.publish ((cluster.nodes i).state report) }
  | .tick i fails =>
    let node := cluster.nodes i
    let answer := if fails then none
      else cluster.store.getAdoptedBudget node.controller.nodeId node.domain.name
    { cluster with nodes := Function.update cluster.nodes i (node.adopts answer) }

/-- Next to coordinators of the same budget, each of which rebalances so many times. -/
def pool (cluster : LiveCluster n) (clusterBudget : ℚ) (rounds : ℕ → ℕ) :
    Pool StoreCall.Answer ℕ ClusterCoordinator (LiveCluster n) where
  world := cluster
  progs k := ClusterCoordinator.rebalancesCalls (rounds k) { clusterBudget := clusterBudget }

/-- The cluster and its coordinators, whose calls fall in any order between the events of the nodes. -/
def reached (cluster : LiveCluster n) (clusterBudget : ℚ) (rounds : ℕ → ℕ)
    (schedule : List (PoolEvent ℕ (NodeEvent n))) :
    Pool StoreCall.Answer ℕ ClusterCoordinator (LiveCluster n) :=
  Lib.run (Pool.step handle nodeStep) (cluster.pool clusterBudget rounds) schedule

def after (cluster : LiveCluster n) (clusterBudget : ℚ) (rounds : ℕ → ℕ)
    (schedule : List (PoolEvent ℕ (NodeEvent n))) : LiveCluster n :=
  (cluster.reached clusterBudget rounds schedule).world

theorem run_handle {α : Type} (prog : Prog StoreCall.Answer α) (cluster : LiveCluster n) :
    prog.run handle cluster = ((prog.run InMemoryStore.handle cluster.store).1,
      { cluster with store := (prog.run InMemoryStore.handle cluster.store).2 }) := by
  induction prog generalizing cluster with
  | ret value => rfl
  | call req resume ih => exact ih _ _

/-- All nodes have reported, and no budget has been handed down. -/
structure Joined (cluster : LiveCluster n) : Prop where
  distinct : Function.Injective fun i => (cluster.nodes i).controller.nodeId
  listed : ∀ nodeId, nodeId ∈ cluster.store.states.keys ↔
    ∃ i, (cluster.nodes i).controller.nodeId = nodeId
  draws : ∀ state ∈ cluster.store.getAll, 0 ≤ state.drawW
  fresh : cluster.store.adopted = .empty
  free : ∀ i, (cluster.nodes i).adopted = none

/-! ### What is in force -/

open ClusterCoordinator (peak)

/-- What stays true of a cluster: nobody is handed more than the peak, and nobody holds more. -/
structure Fits (first : LiveCluster n) (clusterBudget : ℚ) (cluster : LiveCluster n) : Prop where
  same : ∀ i, ClusterNode.Same (first.nodes i) (cluster.nodes i)
  listed : ∀ nodeId, nodeId ∈ cluster.store.states.keys ↔
    ∃ i, (first.nodes i).controller.nodeId = nodeId
  draws : ∀ state ∈ cluster.store.getAll, 0 ≤ state.drawW
  handed : ∀ pair budget, cluster.store.adopted.get? pair = some budget → budget ≤ peak clusterBudget n
  held : ∀ i adopted, (cluster.nodes i).adopted = some adopted →
    (first.nodes i).controller.adoptedBudgetMinW ≤ adopted ∧ adopted ≤ peak clusterBudget n

variable {first cluster : LiveCluster n} {clusterBudget : ℚ}

theorem Joined.fits (joined : first.Joined) : Fits first clusterBudget first where
  same _ := ⟨rfl, rfl, rfl, rfl⟩
  listed := joined.listed
  draws := joined.draws
  handed pair budget stored := by
    rw [joined.fresh] at stored
    cases stored
  held i adopted stored := by
    rw [joined.free i] at stored
    cases stored

/-- The reports are those of the nodes, in some order. -/
theorem Fits.perm_nodeIds (joined : first.Joined) (fits : Fits first clusterBudget cluster) :
    (cluster.store.getAll.map NodeState.nodeId).Perm
      ((List.finRange n).map fun i => (first.nodes i).controller.nodeId) := by
  rw [InMemoryStore.map_nodeId_getAll]
  refine (List.perm_ext_iff_of_nodup cluster.store.states.keys_nodup
    ((List.nodup_finRange n).map joined.distinct)).mpr fun nodeId => ?_
  rw [fits.listed, List.mem_map]
  exact exists_congr fun i => (and_iff_right (List.mem_finRange i)).symm

theorem Fits.length_getAll (joined : first.Joined) (fits : Fits first clusterBudget cluster) :
    cluster.store.getAll.length = n := by
  have same := (fits.perm_nodeIds joined).length_eq
  rwa [List.length_map, List.length_map, List.length_finRange] at same

theorem Fits.nodeStep (fits : Fits first clusterBudget cluster) (event : NodeEvent n) :
    Fits first clusterBudget (cluster.nodeStep event) := by
  cases event with
  | report i report =>
    have nodeId := (fits.same i).nodeId
    refine ⟨fits.same, fun other => ?_, fun state member => ?_, fits.handed, fits.held⟩
    · rw [← fits.listed, Dict.mem_keys_iff, Dict.mem_keys_iff]
      show (∃ value, (cluster.store.states.set (cluster.nodes i).controller.nodeId _).get? other =
        some value) ↔ _
      by_cases own : other = (cluster.nodes i).controller.nodeId
      · rw [own, Dict.get?_set_self, ← Dict.mem_keys_iff, fits.listed]
        exact ⟨fun _ => ⟨i, nodeId.symm⟩, fun _ => ⟨_, rfl⟩⟩
      · rw [Dict.get?_set_of_ne _ _ own]
    · have stored : (cluster.store.states.set (cluster.nodes i).controller.nodeId
          ((cluster.nodes i).state report)).get? state.nodeId = some state :=
        InMemoryStore.mem_getAll.mp member
      rw [Dict.get?_set] at stored
      split at stored
      · cases stored
        exact report.draw_nonneg
      · exact fits.draws state (InMemoryStore.mem_getAll.mpr stored)
  | tick i fails =>
    refine ⟨fun j => ?_, fits.listed, fits.draws, fits.handed, fun j adopted stored => ?_⟩
    · by_cases own : j = i
      · subst own
        show ClusterNode.Same _ (Function.update cluster.nodes j _ j)
        rw [Function.update_self]
        exact (fits.same j).adopts _
      · show ClusterNode.Same _ (Function.update cluster.nodes i _ j)
        rw [Function.update_of_ne own]
        exact fits.same j
    · by_cases own : j = i
      · subst own
        change (Function.update cluster.nodes j _ j).adopted = some adopted at stored
        rw [Function.update_self, ClusterNode.adopted_adopts, Option.filter_eq_some_iff,
          decide_eq_true_iff, (fits.same j).minW] at stored
        obtain ⟨answered, reached⟩ := stored
        refine ⟨reached, ?_⟩
        cases fails with
        | true => cases answered
        | false => exact fits.handed _ _ answered
      · change (Function.update cluster.nodes i _ j).adopted = some adopted at stored
        rw [Function.update_of_ne own] at stored
        exact fits.held j adopted stored

/-- A budget within the peak is handed down. -/
theorem Fits.setAdoptedBudget (fits : Fits first clusterBudget cluster) (nodeId domainName : String)
    {budgetW : ℚ} (within : budgetW ≤ peak clusterBudget n) :
    Fits first clusterBudget (handle (.setAdoptedBudget nodeId domainName budgetW) cluster).2 := by
  refine ⟨fits.same, fits.listed, fits.draws, fun pair budget stored => ?_, fits.held⟩
  change (cluster.store.adopted.set (nodeId, domainName) budgetW).get? pair = some budget at stored
  rw [Dict.get?_set] at stored
  split at stored
  · cases stored
    exact within
  · exact fits.handed pair budget stored

section Safe

variable {post : ClusterCoordinator → LiveCluster n → Prop}

/-- Publishing budgets within the peak. -/
theorem safe_publishCalls {budget : NodeState → ℚ} {states : List NodeState} {after : Unit →
    LiveCluster n → Prop} (within : ∀ state ∈ states, budget state ≤ peak clusterBudget n)
    (fits : Fits first clusterBudget cluster)
    (reaches : ∀ later, Fits first clusterBudget later → after () later) :
    (ClusterCoordinator.publishCalls budget states).Safe handle
      (fun earlier later => Fits first clusterBudget earlier → Fits first clusterBudget later)
      (fun earlier later _ => Fits first clusterBudget earlier → Fits first clusterBudget later)
      after cluster := by
  induction states generalizing cluster with
  | nil => exact fun later changed => reaches later (changed fits)
  | cons state rest ih =>
    intro later changed
    have handed : Fits first clusterBudget
        (handle (.setAdoptedBudget state.nodeId state.domainName (budget state)) later).2 :=
      (changed fits).setAdoptedBudget state.nodeId state.domainName (within state List.mem_cons_self)
    exact ⟨fun _ => handed, ih (fun other inside => within other (List.mem_cons_of_mem _ inside)) handed⟩

/-- A rebalance, whatever others do between its calls. -/
theorem safe_rebalanceCalls (joined : first.Joined) (positive : 0 < clusterBudget)
    {self : ClusterCoordinator} (own : self.clusterBudget = clusterBudget)
    (fits : Fits first clusterBudget cluster)
    (reaches : ∀ (coordinator : ClusterCoordinator) later, coordinator.clusterBudget = clusterBudget →
      Fits first clusterBudget later → post coordinator later) :
    self.rebalanceCalls.Safe handle
      (fun earlier later => Fits first clusterBudget earlier → Fits first clusterBudget later)
      (fun earlier later _ => Fits first clusterBudget earlier → Fits first clusterBudget later)
      post cluster := by
  intro later changed
  have still := changed fits
  refine ⟨fun _ => still, ?_⟩
  show Prog.Safe handle _ _ post (if later.store.getAll.isEmpty then _ else _) later
  split
  · exact fun last more => reaches self last own (more still)
  · refine Prog.Safe.bind (fun _ stays => stays) ?_
    refine safe_publishCalls (fun state member => ?_) still fun last fitsLast final more =>
      reaches _ final own (more fitsLast)
    change state ∈ later.store.getAll at member
    show (self.newBudgets later.store.getAll).getD state.nodeId 0 ≤ _
    have atMost := ClusterCoordinator.nodeBudget_le_peak (own ▸ positive) still.draws member
    rw [still.length_getAll joined, own] at atMost
    rw [Dict.getD_of_some (ClusterCoordinator.get?_newBudgets member)]
    exact atMost

theorem safe_rebalancesCalls (joined : first.Joined) (positive : 0 < clusterBudget) (rounds : ℕ)
    {self : ClusterCoordinator} (own : self.clusterBudget = clusterBudget)
    (fits : Fits first clusterBudget cluster) :
    (self.rebalancesCalls rounds).Safe handle
      (fun earlier later => Fits first clusterBudget earlier → Fits first clusterBudget later)
      (fun earlier later _ => Fits first clusterBudget earlier → Fits first clusterBudget later)
      (fun _ _ => True) cluster := by
  induction rounds generalizing self cluster with
  | zero => exact fun _ _ => trivial
  | succ rounds ih =>
    refine Prog.Safe.bind (fun _ stays => stays) ?_
    exact safe_rebalanceCalls joined positive own fits fun coordinator later same fitsLater =>
      ih same fitsLater

end Safe

/-- Whatever the order of the calls, the reports and the ticks. -/
theorem fits_after (joined : first.Joined) (positive : 0 < clusterBudget) (rounds : ℕ → ℕ)
    (schedule : List (PoolEvent ℕ (NodeEvent n))) :
    Fits first clusterBudget (first.after clusterBudget rounds schedule) :=
  Pool.invariant_of_safe (fun _ event fits => fits.nodeStep event)
    (fun k => safe_rebalancesCalls joined positive (rounds k) rfl joined.fits) joined.fits schedule

/-! ### All peaks at the same time -/

/-- The report of a node when only `hot` draws power. -/
def oneHot (hot i : Fin n) : NodeReport where
  drawW := if i = hot then 1 else 0
  capW := 0
  budgetW := 0
  ts := 0
  draw_nonneg := by split <;> norm_num

def reports (hot : Fin n) (nodes : List (Fin n)) : List (PoolEvent ℕ (NodeEvent n)) :=
  nodes.map fun i => .change (.report i (oneHot hot i))

theorem run_reports (hot : Fin n) (nodes : List (Fin n))
    (pool : Pool StoreCall.Answer ℕ ClusterCoordinator (LiveCluster n)) :
    Lib.run (Pool.step handle nodeStep) pool (reports hot nodes) =
      { pool with world := { pool.world with store := nodes.foldl (fun store i =>
        store.publish ((pool.world.nodes i).state (oneHot hot i))) pool.world.store } } := by
  induction nodes generalizing pool with
  | nil => rfl
  | cons i rest ih =>
    rw [reports, List.map_cons, run_cons]
    exact ih _

theorem states_foldl_publish (stateOf : Fin n → NodeState) (nodes : List (Fin n))
    (store : InMemoryStore) :
    (nodes.foldl (fun store i => store.publish (stateOf i)) store).states =
      store.states.setAll (nodes.map fun i => ((stateOf i).nodeId, stateOf i)) := by
  induction nodes generalizing store with
  | nil => rfl
  | cons i rest ih => exact ih _

/-- Once all nodes have reported, the store has these reports and no others. -/
theorem getAll_reports (joined : first.Joined) (fits : Fits first clusterBudget cluster)
    {stateOf : Fin n → NodeState}
    (own : ∀ i, (stateOf i).nodeId = (first.nodes i).controller.nodeId) :
    ((List.finRange n).foldl (fun store i => store.publish (stateOf i)) cluster.store).getAll.Perm
      ((List.finRange n).map stateOf) := by
  have nodup : (((List.finRange n).map fun i => ((stateOf i).nodeId, stateOf i)).map Prod.fst).Nodup := by
    rw [List.map_map]
    refine (List.nodup_finRange n).map fun i j same => joined.distinct ?_
    show (first.nodes i).controller.nodeId = (first.nodes j).controller.nodeId
    rw [← own, ← own]
    exact same
  have items : (Dict.ofList ((List.finRange n).map fun i => ((stateOf i).nodeId, stateOf i))).items =
      (List.finRange n).map fun i => ((stateOf i).nodeId, stateOf i) := by
    rw [Dict.ofList, Dict.items_setAll_of_disjoint _ nodup (by simp), Dict.items_empty,
      List.nil_append]
  have perm := Dict.perm_of_get?_eq fun key => show
      (cluster.store.states.setAll ((List.finRange n).map fun i =>
        ((stateOf i).nodeId, stateOf i))).get? key =
      (Dict.ofList ((List.finRange n).map fun i => ((stateOf i).nodeId, stateOf i))).get? key by
    rw [Dict.get?_setAll _ nodup, Dict.get?_ofList nodup]
    cases found : ((List.finRange n).map fun i => ((stateOf i).nodeId, stateOf i)).lookup key with
    | some state => rfl
    | none =>
      rw [Option.none_or, Dict.get?_eq_none_iff, fits.listed]
      rintro ⟨i, rfl⟩
      have member : ((first.nodes i).controller.nodeId, stateOf i) ∈
          (List.finRange n).map fun i => ((stateOf i).nodeId, stateOf i) :=
        List.mem_map.mpr ⟨i, List.mem_finRange i, by rw [own]⟩
      rw [(Dict.lookup_eq_some_iff nodup).mpr member] at found
      cases found
  rw [items] at perm
  have values := perm.map Prod.snd
  rw [List.map_map] at values
  rw [InMemoryStore.getAll, states_foldl_publish]
  exact values

/-- The draws of a cluster in which one node draws power. -/
theorem sum_oneHot (hot : Fin n) : ((List.finRange n).map fun i => (oneHot hot i).drawW).sum = 1 := by
  rw [← Fin.sum_univ_def]
  show ∑ i, (if i = hot then (1 : ℚ) else 0) = 1
  rw [Finset.sum_ite_eq' Finset.univ hot, if_pos (Finset.mem_univ hot)]

/-- The store when all nodes have reported and only `hot` draws power. -/
def hotStore (cluster : LiveCluster n) (hot : Fin n) : InMemoryStore :=
  (List.finRange n).foldl (fun store i => store.publish ((cluster.nodes i).state (oneHot hot i)))
    cluster.store

/-- So that one is handed its peak. -/
theorem getAdoptedBudget_hot (joined : first.Joined) (fits : Fits first clusterBudget cluster)
    {self : ClusterCoordinator} (own : self.clusterBudget = clusterBudget) (hot : Fin n) :
    (self.rebalance (cluster.hotStore hot)).2.2.getAdoptedBudget
      (cluster.nodes hot).controller.nodeId (cluster.nodes hot).domain.name =
        some (peak clusterBudget n) := by
  have perm : (cluster.hotStore hot).getAll.Perm
      ((List.finRange n).map fun i => (cluster.nodes i).state (oneHot hot i)) :=
    getAll_reports joined fits fun i => (fits.same i).nodeId
  have listed : (cluster.nodes hot).state (oneHot hot hot) ∈ (cluster.hotStore hot).getAll :=
    perm.mem_iff.mpr (List.mem_map.mpr ⟨hot, List.mem_finRange hot, rfl⟩)
  have draw : ((cluster.nodes hot).state (oneHot hot hot)).drawW = 1 := if_pos rfl
  have alone := (perm.map NodeState.drawW).sum_eq
  rw [List.map_map] at alone
  have handed := @ClusterCoordinator.getAdoptedBudget_rebalance self _ _ listed
  rw [ClusterCoordinator.nodeBudget_eq_peak (List.ne_nil_of_mem listed)
    (by rw [draw]; exact one_ne_zero) (by rw [alone, draw]; exact sum_oneHot hot), perm.length_eq,
    List.length_map, List.length_finRange, own] at handed
  exact handed

/-- The coordinator may hand a node its peak in its next rebalance. -/
theorem exists_hot_round (joined : first.Joined) (positive : 0 < clusterBudget) {rounds : ℕ → ℕ}
    {past : List (PoolEvent ℕ (NodeEvent n))} {self : ClusterCoordinator}
    (own : self.clusterBudget = clusterBudget) {left : ℕ}
    (here : (first.reached clusterBudget rounds past).progs 0 = self.rebalancesCalls (left + 1))
    (hot : Fin n) : ∃ more,
      (first.after clusterBudget rounds (past ++ more)).nodes =
          (first.after clusterBudget rounds past).nodes ∧
        (∃ coordinator : ClusterCoordinator, coordinator.clusterBudget = clusterBudget ∧
          (first.reached clusterBudget rounds (past ++ more)).progs 0 =
            coordinator.rebalancesCalls left) ∧
        (first.after clusterBudget rounds (past ++ more)).store.getAdoptedBudget
          (first.nodes hot).controller.nodeId (first.nodes hot).domain.name =
            some (peak clusterBudget n) := by
  have fits : Fits first clusterBudget (first.reached clusterBudget rounds past).world :=
    fits_after joined positive rounds past
  have reported := run_reports hot (List.finRange n) (first.reached clusterBudget rounds past)
  obtain ⟨count, alone⟩ := @Pool.exists_alone _ _ _ _ (NodeEvent n) _ _ _ handle nodeStep 0
    self.rebalanceCalls (ClusterCoordinator.rebalancesCalls left)
    (Lib.run (Pool.step handle nodeStep) (first.reached clusterBudget rounds past)
      (reports hot (List.finRange n))) (by rw [reported]; exact here)
  refine ⟨reports hot (List.finRange n) ++ List.replicate count (.thread 0), ?_⟩
  have next : first.reached clusterBudget rounds
      (past ++ (reports hot (List.finRange n) ++ List.replicate count (.thread 0))) =
      ⟨{ (first.reached clusterBudget rounds past).world with
          store := (self.rebalance ((first.reached clusterBudget rounds past).world.hotStore hot)).2.2 },
        Function.update (first.reached clusterBudget rounds past).progs 0
          (ClusterCoordinator.rebalancesCalls left
            (self.rebalance ((first.reached clusterBudget rounds past).world.hotStore hot)).2.1)⟩ := by
    refine List.foldl_append.trans (List.foldl_append.trans (alone.trans ?_))
    rw [reported, run_handle, ClusterCoordinator.run_rebalanceCalls]
    rfl
  have handed := getAdoptedBudget_hot joined fits own hot
  rw [(fits.same hot).nodeId, (fits.same hot).domain] at handed
  refine ⟨congrArg (fun pool => pool.world.nodes) next,
    ⟨(self.rebalance ((first.reached clusterBudget rounds past).world.hotStore hot)).2.1,
      (ClusterCoordinator.clusterBudget_rebalance _).trans own, ?_⟩, ?_⟩
  · rw [next]
    simp only [Function.update_self]
  · rw [after, next]
    exact handed

/-- A tick that adopts the peak. -/
theorem after_tick {rounds : ℕ → ℕ} {past : List (PoolEvent ℕ (NodeEvent n))} {hot : Fin n} {budget : ℚ}
    (fits : Fits first clusterBudget (first.after clusterBudget rounds past))
    (handed : (first.after clusterBudget rounds past).store.getAdoptedBudget
      (first.nodes hot).controller.nodeId (first.nodes hot).domain.name = some budget) :
    (first.after clusterBudget rounds (past ++ [.change (.tick hot false)])).nodes =
      Function.update (first.after clusterBudget rounds past).nodes hot
        (((first.after clusterBudget rounds past).nodes hot).adopts (some budget)) := by
  have next : first.after clusterBudget rounds (past ++ [.change (.tick hot false)]) =
      (first.after clusterBudget rounds past).nodeStep (.tick hot false) :=
    congrArg Pool.world (run_append_singleton past _)
  rw [next]
  show Function.update (first.after clusterBudget rounds past).nodes hot
    (((first.after clusterBudget rounds past).nodes hot).adopts
    ((first.after clusterBudget rounds past).store.getAdoptedBudget
      ((first.after clusterBudget rounds past).nodes hot).controller.nodeId
      ((first.after clusterBudget rounds past).nodes hot).domain.name)) = _
  rw [(fits.same hot).nodeId, (fits.same hot).domain, handed]

/-- One node after another gets to the most it runs on, and stays there. -/
theorem exists_raised (joined : first.Joined) (positive : 0 < clusterBudget) {rounds : ℕ → ℕ}
    (raised : List (Fin n)) (nodup : raised.Nodup) (left : ℕ)
    (enough : rounds 0 = raised.length + left) : ∃ schedule,
      (∃ coordinator : ClusterCoordinator, coordinator.clusterBudget = clusterBudget ∧
        (first.reached clusterBudget rounds schedule).progs 0 = coordinator.rebalancesCalls left) ∧
      (∀ i ∈ raised, ((first.after clusterBudget rounds schedule).nodes i).budgetW =
        .ok ((first.nodes i).topW (peak clusterBudget n))) ∧
      ∀ i ∉ raised, ((first.after clusterBudget rounds schedule).nodes i).adopted = none := by
  induction raised generalizing left with
  | nil =>
    refine ⟨[], ⟨{ clusterBudget := clusterBudget }, rfl, ?_⟩, ?_, fun i _ => joined.free i⟩
    · show ClusterCoordinator.rebalancesCalls (rounds 0) _ = _
      rw [enough, List.length_nil, Nat.zero_add]
    · exact fun i member => absurd member List.not_mem_nil
  | cons hot rest ih =>
    obtain ⟨later, restNodup⟩ := List.nodup_cons.mp nodup
    obtain ⟨past, ⟨self, own, here⟩, top, free⟩ := ih restNodup (left + 1)
      (by rw [enough, List.length_cons]; omega)
    obtain ⟨more, nodes, coordinator, handed⟩ := exists_hot_round joined positive own here hot
    have fits := fits_after joined positive rounds (past ++ more)
    have same := fits.same hot
    rcases ((first.after clusterBudget rounds (past ++ more)).nodes hot).topW_cases
        (peak clusterBudget n) with ⟨reaches, most⟩ | most
    · -- the node adopts its peak
      have ticked := after_tick fits handed
      refine ⟨past ++ more ++ [.change (.tick hot false)], ?_, fun i member => ?_, fun i other => ?_⟩
      · obtain ⟨last, budget, prog⟩ := coordinator
        refine ⟨last, budget, ?_⟩
        rw [reached, run_append_singleton]
        exact prog
      · rw [ticked]
        by_cases own : i = hot
        · subst own
          rw [Function.update_self, ClusterNode.budgetW_eq, ClusterNode.adopted_adopts,
            Option.filter_some, if_pos (decide_eq_true reaches), ← same.topW_eq, most]
          rfl
        · rw [Function.update_of_ne own, nodes]
          exact top i ((List.mem_cons.mp member).resolve_left own)
      · rw [ticked, Function.update_of_ne (fun own => other (by rw [own]; exact List.mem_cons_self)), nodes]
        exact free i fun member => other (List.mem_cons_of_mem _ member)
    · -- the node does best on its static budget, which it runs on from the start
      refine ⟨past ++ more, coordinator, fun i member => ?_, fun i other => ?_⟩
      · by_cases own : i = hot
        · subst own
          rw [ClusterNode.budgetW_eq, show ((first.after clusterBudget rounds (past ++ more)).nodes
            i).adopted = none by rw [nodes]; exact free i later, ← same.topW_eq, most]
        · rw [nodes]
          exact top i ((List.mem_cons.mp member).resolve_left own)
      · rw [nodes]
        exact free i fun member => other (List.mem_cons_of_mem _ member)

/-- At no time do the nodes run on more than so much, all together. -/
def Within (cluster : LiveCluster n) (clusterBudget limit : ℚ) : Prop :=
  ∀ rounds schedule, ∀ budgets : Fin n → ℚ,
    (∀ i, ((cluster.after clusterBudget rounds schedule).nodes i).budgetW = .ok (budgets i)) →
      ∑ i, budgets i ≤ limit

/-- **What is in force at the same time.** In every order of the calls of all coordinators, the reports
of the nodes and the ticks of their controllers, and whatever the nodes draw: all nodes together run on
no more than each runs on at its peak, added up; and nothing less bounds them. -/
theorem live_total_le_iff (cluster : LiveCluster n) (joined : cluster.Joined) {clusterBudget : ℚ}
    (positive : 0 < clusterBudget) (limit : ℚ) : cluster.Within clusterBudget limit ↔
      ∑ i, (cluster.nodes i).topW (peak clusterBudget n) ≤ limit := by
  constructor
  · intro within
    obtain ⟨schedule, _, top, _⟩ := @exists_raised _ _ _ joined positive (fun _ => n)
      (List.finRange n) (List.nodup_finRange n) 0 (by rw [List.length_finRange]; rfl)
    exact within _ schedule _ fun i => top i (List.mem_finRange i)
  · intro below rounds schedule budgets inForce
    refine le_trans (Finset.sum_le_sum fun i _ => ?_) below
    have fits := fits_after joined positive rounds schedule
    rw [← (fits.same i).topW_eq]
    refine ClusterNode.budgetW_le_topW (fun adopted stored => ?_) (inForce i)
    rw [(fits.same i).minW]
    exact fits.held i adopted stored

end LiveCluster

/-! ### Three nodes -/

/-- Three nodes that have reported, with a static kilowatt each. -/
def trio : LiveCluster 3 where
  store := reports [("node0", 0), ("node1", 0), ("node2", 0)]
  nodes i := plainNode (["node0", "node1", "node2"].get i) 1000 100

theorem joined_trio : trio.Joined where
  distinct i j same := by
    revert i j
    decide
  listed nodeId := by
    have keys : trio.store.states.keys = ["node0", "node1", "node2"] := rfl
    rw [keys]
    constructor
    · intro member
      simp only [List.mem_cons, List.not_mem_nil, or_false] at member
      rcases member with rfl | rfl | rfl
      · exact ⟨0, rfl⟩
      · exact ⟨1, rfl⟩
      · exact ⟨2, rfl⟩
    · rintro ⟨i, rfl⟩
      exact List.get_mem ["node0", "node1", "node2"] i
  draws := by decide +kernel
  fresh := rfl
  free _ := rfl

/-- They share 3000 W, and run on 6000 W. -/
theorem live_total_le_iff_three : ¬ trio.Within 3000 5999 := by
  rw [LiveCluster.live_total_le_iff trio joined_trio (by norm_num) 5999]
  decide +kernel

end Opendps.Controller
