/-
**Budget adoption against the cluster's bound.**

A node's controller reads the budget the coordinator handed down and adopts it when it reaches the
threshold `adopted_budget_min_w`; below it the node runs on its static budget
(`StandaloneController.adopt`). Whatever else a tick does, it reads the topology and leaves it as it
is, so it is a parameter that may raise.

`tick_eq` says which budget a node runs on after a tick, and `adopted_within_cluster` adds the nodes
up: the cluster's bound survives adoption as long as no node falls back to a static budget above its
share.
-/

import Opendps.Controller.ClusterCoordinator
import Opendps.Pdn.Model

namespace Opendps.Controller

open Opendps.Lib Opendps.Pdn

/-- A controller, as far as it adopts budgets. `control` is the rest of a tick for one domain:
telemetry, brain and actuator. -/
structure StandaloneController where
  topology : PDNTopology
  managedDomains : List String
  control : PDNTopology → String → Except PyError Unit
  nodeId : String := "node0"
  adoptedBudgetMinW : ℚ := 100

namespace StandaloneController

/-- Adopt the budget handed down for a domain; without one, or below the threshold, release it. -/
def adopt (self : StandaloneController) (store : InMemoryStore) (domainName : String) :
    PDNTopology :=
  match store.getAdoptedBudget self.nodeId domainName with
  | some adopted =>
    if self.adoptedBudgetMinW ≤ adopted then self.topology.adoptBudget domainName adopted
    else self.topology.releaseBudget domainName
  | none => self.topology.releaseBudget domainName

/-- One control tick of a controller linked to a store. -/
def runOnce (self : StandaloneController) (store : InMemoryStore) :
    Except PyError StandaloneController :=
  self.managedDomains.foldlM (fun (current : StandaloneController) domainName => do
    let _ ← current.topology.domain domainName
    current.control (current.adopt store domainName) domainName
    pure { current with topology := current.adopt store domainName }) self

end StandaloneController

/-! ### The budget a node runs on -/

/-- A node with one domain of its own. -/
structure ClusterNode where
  controller : StandaloneController
  domain : PowerDomain
  manages : controller.managedDomains = [domain.name]
  present : controller.topology.domains.get? domain.name = some domain
  overhead_nonneg : 0 ≤ domain.nodeOverheadW

namespace ClusterNode

/-- The budget of the node's domain without an adopted one. -/
def staticBudgetW (node : ClusterNode) : ℚ :=
  max 0 (node.controller.topology.rackScaledBudgetW node.domain - node.domain.nodeOverheadW)

/-- The budget the brains of a node allocate against, after one tick of its controller. -/
def budgetAfterTick (store : InMemoryStore) (node : ClusterNode) : Except PyError ℚ := do
  let after ← node.controller.runOnce store
  after.topology.domainBudgetW node.domain.name

variable {node : ClusterNode} {store : InMemoryStore} {budget : ℚ}

/-- An adopted budget counts less the overhead. -/
theorem domainBudgetW_adoptBudget (node : ClusterNode) (adopted : ℚ) :
    (node.controller.topology.adoptBudget node.domain.name adopted).domainBudgetW
      node.domain.name = .ok (max 0 (adopted - node.domain.nodeOverheadW)) := by
  have found : (node.controller.topology.adoptBudget node.domain.name adopted).domain
      node.domain.name = .ok node.domain := by
    simp only [PDNTopology.domain, PDNTopology.adoptBudget, node.present]
  have stored : (node.controller.topology.adoptBudget node.domain.name adopted).adoptedBudgetW.get?
      node.domain.name = some adopted := Dict.get?_set_self _ _ _
  rw [PDNTopology.domainBudgetW, found]
  simp only [stored, bind, Except.bind, pure, Except.pure]

/-- Without an adopted budget the static one counts. -/
theorem domainBudgetW_releaseBudget (node : ClusterNode) :
    (node.controller.topology.releaseBudget node.domain.name).domainBudgetW node.domain.name =
      .ok node.staticBudgetW := by
  have found : (node.controller.topology.releaseBudget node.domain.name).domain
      node.domain.name = .ok node.domain := by
    simp only [PDNTopology.domain, PDNTopology.releaseBudget, node.present]
  have released : (node.controller.topology.releaseBudget node.domain.name).adoptedBudgetW.get?
      node.domain.name = none := by
    simp [PDNTopology.releaseBudget]
  rw [PDNTopology.domainBudgetW, found]
  simp only [released, bind, Except.bind, pure, Except.pure]
  rfl

/-- A completed tick leaves the topology that adoption left. -/
theorem budgetAfterTick_ok (ran : node.budgetAfterTick store = .ok budget) :
    (node.controller.adopt store node.domain.name).domainBudgetW node.domain.name = .ok budget := by
  have found : node.controller.topology.domain node.domain.name = .ok node.domain := by
    rw [PDNTopology.domain, node.present]
  rw [budgetAfterTick, StandaloneController.runOnce, node.manages] at ran
  simp only [List.foldlM_cons, List.foldlM_nil, found, bind, Except.bind, pure, Except.pure] at ran
  cases controlled : node.controller.control
      (node.controller.adopt store node.domain.name) node.domain.name with
  | error exc =>
    rw [controlled] at ran
    cases ran
  | ok _ =>
    rw [controlled] at ran
    exact ran

/-- **The budget a node runs on**: the one handed down, when it reaches the threshold. -/
theorem tick_eq {share : ℚ}
    (handedDown : store.getAdoptedBudget node.controller.nodeId node.domain.name = some share)
    (ran : node.budgetAfterTick store = .ok budget) :
    budget = if node.controller.adoptedBudgetMinW ≤ share then
      max 0 (share - node.domain.nodeOverheadW) else node.staticBudgetW := by
  have answer := budgetAfterTick_ok ran
  rw [StandaloneController.adopt, handedDown] at answer
  simp only at answer
  split at answer
  · next reached =>
    rw [domainBudgetW_adoptBudget, Except.ok.injEq] at answer
    rw [if_pos reached, answer]
  · next short =>
    rw [domainBudgetW_releaseBudget, Except.ok.injEq] at answer
    rw [if_neg short, answer]

/-- A node that does not fall back to more than its share runs on at most its share. -/
theorem budget_le_share {share : ℚ} (nonneg : 0 ≤ share)
    (fallsBack : share < node.controller.adoptedBudgetMinW → node.staticBudgetW ≤ share)
    (handedDown : store.getAdoptedBudget node.controller.nodeId node.domain.name = some share)
    (ran : node.budgetAfterTick store = .ok budget) : budget ≤ share := by
  rw [tick_eq handedDown ran]
  split
  · exact max_le nonneg (sub_le_self share node.overhead_nonneg)
  · next short => exact fallsBack (not_le.mp short)

end ClusterNode

/-! ### All nodes of a cluster -/

section Cluster

variable {coordinator : ClusterCoordinator} {store : InMemoryStore} {nodes : List ClusterNode}

/-- The rebalance covers a node: its state in the store is one of the node and its domain. -/
def ClusterNode.ReportedAs (node : ClusterNode) (state : NodeState) : Prop :=
  state.nodeId = node.controller.nodeId ∧ state.domainName = node.domain.name

/-- Every node of the list has reported. -/
def Covers (store : InMemoryStore) (nodes : List ClusterNode) : Prop :=
  ∀ node ∈ nodes, ∃ state ∈ store.getAll, node.ReportedAs state

/-- The budgets of distinct nodes that have reported add up to at most those of all. -/
theorem sum_shares_le (covers : Covers store nodes)
    (distinct : (nodes.map fun node => node.controller.nodeId).Nodup)
    (nonneg : ∀ state ∈ store.getAll, 0 ≤ coordinator.nodeBudget store.getAll state) :
    ∃ shares : ClusterNode → ℚ,
      (∀ node ∈ nodes, 0 ≤ shares node ∧
        (coordinator.rebalance store).2.2.getAdoptedBudget node.controller.nodeId
          node.domain.name = some (shares node)) ∧
      (nodes.map shares).sum ≤
        (store.getAll.map (coordinator.nodeBudget store.getAll)).sum := by
  have : Nonempty NodeState := ⟨ClusterCoordinator.nodeReport "" "" 0⟩
  choose! stateOf listed reported using covers
  refine ⟨fun node => coordinator.nodeBudget store.getAll (stateOf node), fun node member => ?_, ?_⟩
  · obtain ⟨sameId, sameDomain⟩ := reported node member
    rw [← sameId, ← sameDomain]
    exact ⟨nonneg _ (listed node member),
      ClusterCoordinator.getAdoptedBudget_rebalance (listed node member)⟩
  · have ids : (nodes.map stateOf).map NodeState.nodeId =
        nodes.map fun node => node.controller.nodeId := by
      rw [List.map_map]
      exact List.map_congr_left fun node member => (reported node member).1
    have nodup : (nodes.map stateOf).Nodup := by
      refine List.Nodup.of_map NodeState.nodeId ?_
      rwa [ids]
    have subset : nodes.map stateOf ⊆ store.getAll := by
      intro state member
      obtain ⟨node, inside, rfl⟩ := List.mem_map.mp member
      exact listed node inside
    obtain ⟨part, perm, sublist⟩ := List.subperm_of_subset nodup subset
    calc (nodes.map fun node => coordinator.nodeBudget store.getAll (stateOf node)).sum
        = ((nodes.map stateOf).map (coordinator.nodeBudget store.getAll)).sum := by
          rw [List.map_map]
          rfl
      _ = (part.map (coordinator.nodeBudget store.getAll)).sum :=
          ((perm.map _).sum_eq).symm
      _ ≤ (store.getAll.map (coordinator.nodeBudget store.getAll)).sum := by
          refine (sublist.map _).sum_le_sum fun share member => ?_
          obtain ⟨state, inside, rfl⟩ := List.mem_map.mp member
          exact nonneg state inside

/-- Budgets that are each at most a share add up to at most the shares. -/
theorem sum_budgets_le {shares : ClusterNode → ℚ} {budgets : List ℚ}
    (atMost : ∀ node ∈ nodes, ∀ budget, node.budgetAfterTick store = .ok budget →
      budget ≤ shares node)
    (ran : nodes.mapM (ClusterNode.budgetAfterTick store) = .ok budgets) :
    budgets.sum ≤ (nodes.map shares).sum := by
  induction nodes generalizing budgets with
  | nil =>
    cases ran
    exact le_rfl
  | cons node rest ih =>
    rw [List.mapM_cons] at ran
    cases first : node.budgetAfterTick store with
    | error exc =>
      rw [first] at ran
      cases ran
    | ok budget =>
      cases others : rest.mapM (ClusterNode.budgetAfterTick store) with
      | error exc =>
        rw [first, others] at ran
        cases ran
      | ok more =>
        rw [first, others] at ran
        cases ran
        rw [List.sum_cons, List.map_cons, List.sum_cons]
        exact add_le_add (atMost node List.mem_cons_self budget first)
          (ih (fun other member => atMost other (List.mem_cons_of_mem _ member)) others)

/-- Draws that are not negative give shares that are not. -/
theorem share_nonneg (positive : 0 < coordinator.clusterBudget)
    (draws : ∀ state ∈ store.getAll, 0 ≤ state.drawW) {nodeId : String} {share : ℚ}
    (found : (coordinator.rebalance store).1.get? nodeId = some share) : 0 ≤ share := by
  by_cases nonempty : store.getAll = []
  · simp [ClusterCoordinator.rebalance, nonempty] at found
  · rw [ClusterCoordinator.rebalance_eq nonempty] at found
    obtain ⟨state, listed, _, rfl⟩ := ClusterCoordinator.get?_newBudgets_eq_some found
    have count : (0 : ℚ) < 2 * store.getAll.length :=
      mul_pos two_pos (Nat.cast_pos.mpr (List.length_pos_of_ne_nil nonempty))
    exact (div_pos positive count).le.trans
      (ClusterCoordinator.nodeBudget_mem_range positive nonempty draws listed).1

/-- **Adoption stays within the cluster.** After a rebalance that covers all nodes and hands out no
negative share, and one tick of every controller, the nodes run on budgets that add up to at most the
cluster's, provided that no node whose share is below the threshold has a static budget above it. -/
theorem adopted_within_cluster (positive : 0 < coordinator.clusterBudget)
    (covers : Covers store nodes)
    (distinct : (nodes.map fun node => node.controller.nodeId).Nodup)
    (nonneg : ∀ nodeId share, (coordinator.rebalance store).1.get? nodeId = some share → 0 ≤ share)
    (fallsBack : ∀ node ∈ nodes, ∀ share,
      (coordinator.rebalance store).1.get? node.controller.nodeId = some share →
        share < node.controller.adoptedBudgetMinW → node.staticBudgetW ≤ share)
    {budgets : List ℚ}
    (ran : nodes.mapM (ClusterNode.budgetAfterTick (coordinator.rebalance store).2.2) =
      .ok budgets) :
    budgets.sum ≤ coordinator.clusterBudget := by
  by_cases nonempty : store.getAll = []
  · -- no node is covered
    have none : nodes = [] := by
      refine List.eq_nil_iff_forall_not_mem.mpr fun node member => ?_
      obtain ⟨state, listed, _⟩ := covers node member
      rw [nonempty] at listed
      cases listed
    subst none
    cases ran
    exact positive.le
  · have lookup : ∀ state ∈ store.getAll, (coordinator.rebalance store).1.get? state.nodeId =
        some (coordinator.nodeBudget store.getAll state) := fun state listed => by
      rw [ClusterCoordinator.rebalance_eq nonempty]
      exact ClusterCoordinator.get?_newBudgets listed
    obtain ⟨shares, handedDown, total⟩ := sum_shares_le covers distinct fun state listed =>
      nonneg state.nodeId _ (lookup state listed)
    calc budgets.sum ≤ (nodes.map shares).sum := by
          refine sum_budgets_le (fun node member budget ticked => ?_) ran
          obtain ⟨atLeastZero, answered⟩ := handedDown node member
          refine ClusterNode.budget_le_share atLeastZero (fallsBack node member _ ?_) answered ticked
          obtain ⟨state, listed, sameId, sameDomain⟩ := covers node member
          rw [← sameId, ← sameDomain,
            ClusterCoordinator.getAdoptedBudget_rebalance listed] at answered
          rw [← sameId, lookup state listed, answered]
      _ ≤ (store.getAll.map (coordinator.nodeBudget store.getAll)).sum := total
      _ ≤ coordinator.clusterBudget := ClusterCoordinator.sum_nodeBudget_le positive nonempty

end Cluster

/-! ### Shares below the threshold, and below zero -/

def plainDomain (staticW : ℚ) : PowerDomain where
  name := "d0"
  budgetW := staticW
  gpuIndices := []
  pduName := "pdu0"

theorem plainDomain_overhead (staticW : ℚ) : 0 ≤ (plainDomain staticW).nodeOverheadW := le_rfl

/-- A node with a static budget for its only domain. -/
def plainNode (nodeId : String) (staticW minW : ℚ) : ClusterNode where
  controller :=
    { topology :=
        { pdus := .empty
          domains := ⟨[("d0", plainDomain staticW)], List.nodup_singleton _⟩ }
      managedDomains := ["d0"]
      control := fun _ _ => .ok ()
      nodeId := nodeId
      adoptedBudgetMinW := minW }
  domain := plainDomain staticW
  manages := rfl
  present := rfl
  overhead_nonneg := plainDomain_overhead staticW

def reports (draws : List (String × ℚ)) : InMemoryStore :=
  draws.foldl (fun store draw =>
    store.publish (ClusterCoordinator.nodeReport draw.1 "d0" draw.2)) .init

/-- A rebalance covers all nodes, and a tick of each leaves them on more than the cluster budget. -/
def Exceeds (clusterBudget : ℚ) (draws : List (String × ℚ)) (nodes : List ClusterNode) : Prop :=
  Covers (reports draws) nodes ∧ (nodes.map fun node => node.controller.nodeId).Nodup ∧
    ∃ budgets, nodes.mapM (ClusterNode.budgetAfterTick
      (ClusterCoordinator.rebalance { clusterBudget := clusterBudget } (reports draws)).2.2) =
        .ok budgets ∧ clusterBudget < budgets.sum

theorem covers_plain {draws : List (String × ℚ)} {nodes : List ClusterNode}
    (listed : ∀ node ∈ nodes, ∃ draw, (reports draws).states.get? node.controller.nodeId =
      some (ClusterCoordinator.nodeReport node.controller.nodeId node.domain.name draw)) :
    Covers (reports draws) nodes := by
  intro node member
  obtain ⟨draw, found⟩ := listed node member
  exact ⟨ClusterCoordinator.nodeReport node.controller.nodeId node.domain.name draw,
    InMemoryStore.mem_getAll.mpr found, rfl, rfl⟩

/-- **Falling back exceeds the cluster.** Of 150 W two nodes get 75 W each, below the default
threshold, and both run on their static 1000 W. With a threshold below zero a node can also adopt a
negative share, which counts as zero while the others run on what it gave up. -/
theorem fallback_exceeds_cluster :
    Exceeds 150 [("node0", 1), ("node1", 1)]
        [plainNode "node0" 1000 100, plainNode "node1" 1000 100] ∧
      Exceeds 300 [("node0", -1), ("node1", 1), ("node2", 1)]
        [plainNode "node0" 0 (-1000), plainNode "node1" 0 (-1000), plainNode "node2" 0 (-1000)] := by
  refine ⟨⟨covers_plain ?_, by decide, [1000, 1000], ok_of_toOption (by decide +kernel),
    by norm_num⟩, covers_plain ?_, by decide, [0, 200, 200], ok_of_toOption (by decide +kernel),
    by norm_num⟩
  · simp only [List.mem_cons, List.not_mem_nil, or_false, forall_eq_or_imp, forall_eq]
    exact ⟨⟨1, rfl⟩, 1, rfl⟩
  · simp only [List.mem_cons, List.not_mem_nil, or_false, forall_eq_or_imp, forall_eq]
    exact ⟨⟨-1, rfl⟩, ⟨1, rfl⟩, 1, rfl⟩

/-- Two nodes share 3000 W; one has a threshold above its share and a small static budget. -/
theorem adopted_within_cluster_two_nodes :
    ([1500, 400] : List ℚ).sum ≤
      ({ clusterBudget := 3000 } : ClusterCoordinator).clusterBudget := by
  have shares : (ClusterCoordinator.rebalance { clusterBudget := 3000 }
      (reports [("node0", 1), ("node1", 1)])).1.items = [("node0", 1500), ("node1", 1500)] := by
    decide +kernel
  refine @adopted_within_cluster { clusterBudget := 3000 } (reports [("node0", 1), ("node1", 1)])
    [plainNode "node0" 1000 100, plainNode "node1" 400 2000] (by norm_num) (covers_plain ?_)
    (by decide) ?_ ?_ [1500, 400] (ok_of_toOption (by decide +kernel))
  · simp only [List.mem_cons, List.not_mem_nil, or_false, forall_eq_or_imp, forall_eq]
    exact ⟨⟨1, rfl⟩, 1, rfl⟩
  · intro nodeId share found
    have listed := Dict.get?_eq_some_iff.mp found
    rw [shares] at listed
    simp only [List.mem_cons, Prod.mk.injEq, List.not_mem_nil, or_false] at listed
    rcases listed with ⟨_, rfl⟩ | ⟨_, rfl⟩ <;> norm_num
  · intro node member share found short
    have listed := Dict.get?_eq_some_iff.mp found
    rw [shares] at listed
    simp only [List.mem_cons, Prod.mk.injEq, List.not_mem_nil, or_false] at listed member
    rcases member with rfl | rfl
    · rcases listed with ⟨_, rfl⟩ | ⟨clash, _⟩
      · revert short
        decide +kernel
      · exact absurd clash (by decide)
    · rcases listed with ⟨clash, _⟩ | ⟨_, rfl⟩
      · exact absurd clash (by decide)
      · decide +kernel

end Opendps.Controller
