/-
**What the store still answers after a rebalance.**

Node states are filed under the node id alone, adopted budgets under node id and domain, and nothing
removes an adopted budget. So a node that reports another domain than before leaves a budget behind,
and the budgets the store answers can add up to more than the cluster.

A history is a list of publishes and rebalances. Its *shape* forgets the numbers: which node
reports which domain when, and where the rebalances are. `adopted_le_budget_iff` says exactly which
shapes are safe whatever the draws: those in which every node, at each rebalance, reports the domain
it reported at the earlier ones (`SteadyDomains`).
-/

import Opendps.Controller.ClusterCoordinator
import Opendps.Lib.Run

namespace Opendps.Controller

open Opendps.Lib

/-- One call on the store or on the coordinator. -/
inductive ClusterEvent where
  | publish (state : NodeState)
  | rebalance

/-- The in-memory store and the coordinator that reads it. -/
structure Cluster where
  store : InMemoryStore
  coordinator : ClusterCoordinator

namespace Cluster

def start (clusterBudget : ℚ) : Cluster := ⟨.init, { clusterBudget := clusterBudget }⟩

def step (cluster : Cluster) : ClusterEvent → Cluster
  | .publish state => { cluster with store := cluster.store.publish state }
  | .rebalance =>
    let (_, coordinator, store) := cluster.coordinator.rebalance cluster.store
    ⟨store, coordinator⟩

def run (clusterBudget : ℚ) (events : List ClusterEvent) : Cluster :=
  Lib.run step (start clusterBudget) events

/-- The sum of the budgets the store answers, over all pairs it has an answer for. -/
def adoptedTotal (cluster : Cluster) : ℚ := cluster.store.adopted.values.sum

theorem run_append (clusterBudget : ℚ) (events : List ClusterEvent) (event : ClusterEvent) :
    run clusterBudget (events ++ [event]) = (run clusterBudget events).step event :=
  run_append_singleton events event

/-- The coordinator keeps its budget. -/
theorem clusterBudget_run (clusterBudget : ℚ) (events : List ClusterEvent) :
    (run clusterBudget events).coordinator.clusterBudget = clusterBudget := by
  refine run_invariant (fun _ (cluster : Cluster) =>
    cluster.coordinator.clusterBudget = clusterBudget) rfl ?_
    events
  intro past event cluster before
  cases event with
  | publish state => exact before
  | rebalance =>
    unfold step ClusterCoordinator.rebalance
    simp only
    split <;> exact before

/-- A rebalance leaves the states alone. -/
theorem states_step_rebalance (cluster : Cluster) :
    (cluster.step .rebalance).store.states = cluster.store.states := by
  by_cases nonempty : cluster.store.getAll = []
  · simp [step, ClusterCoordinator.rebalance, nonempty]
  · rw [step, ClusterCoordinator.rebalance_eq nonempty]

/-- What a rebalance does to the adopted budgets, also when no node has reported. -/
theorem adopted_step_rebalance (cluster : Cluster) :
    (cluster.step .rebalance).store.adopted =
      cluster.store.adopted.setAll (cluster.coordinator.published cluster.store) := by
  by_cases nonempty : cluster.store.getAll = []
  · simp [step, ClusterCoordinator.rebalance, ClusterCoordinator.published, nonempty, Dict.setAll]
  · rw [step, ClusterCoordinator.rebalance_eq nonempty]

/-- Every state in the store was published. -/
theorem published_of_mem {clusterBudget : ℚ} {events : List ClusterEvent} {state : NodeState}
    (member : state ∈ (run clusterBudget events).store.getAll) :
    ClusterEvent.publish state ∈ events := by
  induction events using List.reverseRecOn with
  | nil => cases member
  | append_singleton events event ih =>
    rw [run_append, InMemoryStore.mem_getAll] at member
    rw [List.mem_append]
    cases event with
    | publish latest =>
      have stored : (((run clusterBudget events).store.states).set latest.nodeId latest).get?
          state.nodeId = some state := member
      rw [Dict.get?_set] at stored
      split at stored
      · cases stored
        exact .inr (List.mem_singleton_self _)
      · exact .inl (ih (InMemoryStore.mem_getAll.mpr stored))
    | rebalance =>
      rw [states_step_rebalance] at member
      exact .inl (ih (InMemoryStore.mem_getAll.mpr member))

end Cluster

/-! ### Shapes -/

/-- A history without its numbers: a report of a node and its domain, or `none` for a rebalance. -/
abbrev Shape := List (Option (String × String))

def ClusterEvent.shape : ClusterEvent → Option (String × String)
  | .publish state => some (state.nodeId, state.domainName)
  | .rebalance => none

namespace Shape

/-- The domain a node reported last. -/
def lastDomain (shape : Shape) (nodeId : String) : Option String :=
  shape.foldl (fun last report => match report with
    | some (reporter, domainName) => if nodeId = reporter then some domainName else last
    | none => last) none

/-- A node that has reported keeps a domain. -/
theorem exists_lastDomain_append {first : Shape} {nodeId domainName : String}
    (reported : lastDomain first nodeId = some domainName) (more : Shape) :
    ∃ latest, lastDomain (first ++ more) nodeId = some latest := by
  induction more using List.reverseRecOn with
  | nil => exact ⟨domainName, by rwa [List.append_nil]⟩
  | append_singleton more report ih =>
    obtain ⟨latest, last⟩ := ih
    rw [← List.append_assoc, lastDomain, List.foldl_append]
    rcases report with _ | ⟨reporter, reportedName⟩
    · exact ⟨latest, last⟩
    · by_cases same : nodeId = reporter
      · exact ⟨reportedName, if_pos same⟩
      · exact ⟨latest, (if_neg same).trans last⟩

/-- At each rebalance every node reports the domain it reported at every earlier rebalance. -/
def SteadyDomains (shape : Shape) : Prop :=
  ∀ first between rest, shape = first ++ none :: between ++ none :: rest →
    ∀ nodeId domainName, lastDomain first nodeId = some domainName →
      lastDomain (first ++ none :: between) nodeId = some domainName

end Shape

namespace Cluster

/-- The states of a run show the domain each node reported last. -/
theorem domain_of_run (clusterBudget : ℚ) (events : List ClusterEvent) (nodeId : String) :
    ((run clusterBudget events).store.states.get? nodeId).map NodeState.domainName =
      Shape.lastDomain (events.map ClusterEvent.shape) nodeId := by
  induction events using List.reverseRecOn with
  | nil => rfl
  | append_singleton events event ih =>
    rw [run_append, List.map_append, Shape.lastDomain, List.foldl_append]
    cases event with
    | publish state =>
      show (((run clusterBudget events).store.states.set state.nodeId state).get? nodeId).map _ =
        if nodeId = state.nodeId then some state.domainName
        else Shape.lastDomain (events.map ClusterEvent.shape) nodeId
      rw [Dict.get?_set]
      split
      · rfl
      · exact ih
    | rebalance =>
      rw [states_step_rebalance]
      exact ih

/-- The pairs a rebalance publishes are the nodes with the domains they reported last. -/
theorem mem_keys_published (clusterBudget : ℚ) (events : List ClusterEvent)
    (coordinator : ClusterCoordinator) (nodeId domainName : String) :
    (nodeId, domainName) ∈
        (coordinator.published (run clusterBudget events).store).map Prod.fst ↔
      Shape.lastDomain (events.map ClusterEvent.shape) nodeId = some domainName := by
  rw [ClusterCoordinator.keys_published, ← domain_of_run clusterBudget, List.mem_map,
    Option.map_eq_some_iff]
  constructor
  · rintro ⟨state, member, same⟩
    rw [Prod.mk.injEq] at same
    obtain ⟨rfl, rfl⟩ := same
    exact ⟨state, InMemoryStore.mem_getAll.mp member, rfl⟩
  · rintro ⟨state, found, rfl⟩
    have sameId := (run clusterBudget events).store.keyed nodeId state found
    subst sameId
    exact ⟨state, InMemoryStore.mem_getAll.mpr found, rfl⟩

/-- The store answers for exactly the pairs of some completed rebalance. -/
theorem mem_keys_adopted (clusterBudget : ℚ) (events : List ClusterEvent)
    (nodeId domainName : String) :
    (nodeId, domainName) ∈ (run clusterBudget events).store.adopted.keys ↔
      ∃ first rest, events = first ++ .rebalance :: rest ∧
        Shape.lastDomain (first.map ClusterEvent.shape) nodeId = some domainName := by
  induction events using List.reverseRecOn with
  | nil => simp [run, start, InMemoryStore.init]
  | append_singleton events event ih =>
    rw [run_append]
    simp only [split_append_singleton]
    cases event with
    | publish state =>
      have kept : ((run clusterBudget events).step (.publish state)).store.adopted =
        (run clusterBudget events).store.adopted := rfl
      rw [kept, ih]
      constructor
      · rintro ⟨first, rest, split, last⟩
        exact ⟨first, rest ++ [.publish state], .inr ⟨rest, rfl, split⟩, last⟩
      · rintro ⟨first, rest, ⟨clash, _⟩ | ⟨shorter, _, split⟩, last⟩
        · cases clash
        · exact ⟨first, shorter, split, last⟩
    | rebalance =>
      rw [adopted_step_rebalance, Dict.mem_keys_setAll, mem_keys_published, ih]
      constructor
      · rintro (⟨first, rest, split, last⟩ | last)
        · exact ⟨first, rest ++ [.rebalance], .inr ⟨rest, rfl, split⟩, last⟩
        · exact ⟨events, [], .inl ⟨rfl, rfl, rfl⟩, last⟩
      · rintro ⟨first, rest, ⟨_, rfl, _⟩ | ⟨shorter, _, split⟩, last⟩
        · exact .inr last
        · exact .inl ⟨first, shorter, split, last⟩

/-! ### The total after a rebalance -/

/-- The budgets of pairs no node reports any more. -/
def staleTotal (cluster : Cluster) : ℚ :=
  ((cluster.store.adopted.items.filter fun item =>
    item.1 ∉ (cluster.coordinator.published cluster.store).map Prod.fst).map Prod.snd).sum

/-- A rebalance answers the budgets it hands out and those of the pairs left behind. -/
theorem adoptedTotal_step_rebalance (cluster : Cluster) :
    (cluster.step .rebalance).adoptedTotal = cluster.staleTotal +
      (cluster.store.getAll.map
        (cluster.coordinator.nodeBudget cluster.store.getAll)).sum := by
  have perm := Dict.items_setAll_perm cluster.store.adopted
    (cluster.coordinator.keys_published_nodup cluster.store)
  have handedOut : (cluster.coordinator.published cluster.store).map Prod.snd =
      cluster.store.getAll.map (cluster.coordinator.nodeBudget cluster.store.getAll) := by
    rw [ClusterCoordinator.published, List.map_map]
    rfl
  rw [adoptedTotal, adopted_step_rebalance, Dict.values, (perm.map Prod.snd).sum_eq,
    List.map_append, List.sum_append, handedOut, staleTotal]
  -- the two membership tests are decided through different instances
  congr!

/-- The draws of a history are non-negative. -/
def DrawsNonneg (events : List ClusterEvent) : Prop :=
  ∀ state, ClusterEvent.publish state ∈ events → 0 ≤ state.drawW

theorem DrawsNonneg.states {clusterBudget : ℚ} {events : List ClusterEvent}
    (nonneg : DrawsNonneg events) :
    ∀ state ∈ (run clusterBudget events).store.getAll, 0 ≤ state.drawW :=
  fun state member => nonneg state (published_of_mem member)

/-- Every budget the store answers is positive. -/
theorem adopted_pos {clusterBudget : ℚ} (positive : 0 < clusterBudget)
    {events : List ClusterEvent} (nonneg : DrawsNonneg events) {pair : String × String} {budget : ℚ}
    (answer : (run clusterBudget events).store.adopted.get? pair = some budget) : 0 < budget := by
  induction events using List.reverseRecOn with
  | nil => cases answer
  | append_singleton events event ih =>
    have before : DrawsNonneg events := fun state member =>
      nonneg state (List.mem_append_left _ member)
    rw [run_append] at answer
    cases event with
    | publish state => exact ih before answer
    | rebalance =>
      have distinct := (run clusterBudget events).coordinator.keys_published_nodup
        (run clusterBudget events).store
      rw [adopted_step_rebalance, Dict.get?_setAll _ distinct, Option.or_eq_some_iff] at answer
      rcases answer with written | ⟨_, kept⟩
      · rw [Dict.lookup_eq_some_iff distinct] at written
        obtain ⟨state, member, same⟩ := List.mem_map.mp written
        rw [Prod.mk.injEq] at same
        have nonempty := List.ne_nil_of_mem member
        have budgetPositive : 0 < (run clusterBudget events).coordinator.clusterBudget := by
          rwa [clusterBudget_run]
        have range := ClusterCoordinator.nodeBudget_mem_range budgetPositive nonempty before.states
          member
        have count : (0 : ℚ) < (run clusterBudget events).store.getAll.length :=
          Nat.cast_pos.mpr (List.length_pos_of_ne_nil nonempty)
        rw [← same.2]
        exact (div_pos budgetPositive (by linarith)).trans_le range.1
      · exact ih before kept

/-- After every completed rebalance the store's answers add up to at most the cluster budget. -/
def Safe (clusterBudget : ℚ) (events : List ClusterEvent) : Prop :=
  ∀ first rest, events = first ++ .rebalance :: rest →
    (run clusterBudget (first ++ [.rebalance])).adoptedTotal ≤ clusterBudget

/-- In a steady history nothing is left behind. -/
theorem safe_of_steady {clusterBudget : ℚ} (positive : 0 < clusterBudget)
    {events : List ClusterEvent} (nonneg : DrawsNonneg events)
    (steady : Shape.SteadyDomains (events.map ClusterEvent.shape)) : Safe clusterBudget events := by
  rintro first rest rfl
  have before : DrawsNonneg first := fun state member =>
    nonneg state (List.mem_append_left _ member)
  have nothingStale : (run clusterBudget first).staleTotal = 0 := by
    have none : ((run clusterBudget first).store.adopted.items.filter fun item =>
        item.1 ∉ ((run clusterBudget first).coordinator.published
          (run clusterBudget first).store).map Prod.fst) = [] := by
      refine List.filter_eq_nil_iff.mpr ?_
      rintro ⟨⟨nodeId, domainName⟩, budget⟩ member free
      rw [decide_eq_true_eq] at free
      have answered : (nodeId, domainName) ∈ (run clusterBudget first).store.adopted.keys :=
        List.mem_map_of_mem (f := Prod.fst) member
      rw [mem_keys_adopted] at answered
      obtain ⟨earlier, between, rfl, last⟩ := answered
      rw [mem_keys_published] at free
      refine free ?_
      have still := steady (earlier.map ClusterEvent.shape) (between.map ClusterEvent.shape)
        (rest.map ClusterEvent.shape) (by simp [ClusterEvent.shape]) nodeId domainName last
      simpa [ClusterEvent.shape] using still
    rw [staleTotal, none]
    rfl
  rw [run_append, adoptedTotal_step_rebalance, nothingStale, zero_add]
  by_cases nonempty : (run clusterBudget first).store.getAll = []
  · rw [nonempty]
    exact positive.le
  · have budget := clusterBudget_run clusterBudget first
    have budgetPositive : 0 < (run clusterBudget first).coordinator.clusterBudget := by
      rwa [budget]
    have bound := ClusterCoordinator.sum_nodeBudget_le budgetPositive nonempty
    rwa [budget] at bound

/-! ### The sharp history of a shape -/

/-- The history of a shape in which every report draws one watt. -/
def busy (shape : Shape) : List ClusterEvent :=
  shape.map fun report => match report with
    | some (nodeId, domainName) => .publish (ClusterCoordinator.nodeReport nodeId domainName 1)
    | none => .rebalance

theorem shape_busy (shape : Shape) : (busy shape).map ClusterEvent.shape = shape := by
  rw [busy, List.map_map]
  refine (List.map_congr_left fun report _ => ?_).trans (List.map_id shape)
  rcases report with _ | ⟨nodeId, domainName⟩ <;> rfl

theorem drawW_of_mem_busy {shape : Shape} {state : NodeState}
    (member : ClusterEvent.publish state ∈ busy shape) : state.drawW = 1 := by
  obtain ⟨report, _, same⟩ := List.mem_map.mp member
  rcases report with _ | ⟨nodeId, domainName⟩
  · cases same
  · cases same
    rfl

/-- When every node draws the same, a rebalance hands the whole cluster budget out. -/
theorem sum_nodeBudget_busy {clusterBudget : ℚ} (positive : 0 < clusterBudget) {shape : Shape}
    (some : (run clusterBudget (busy shape)).store.getAll ≠ []) :
    ((run clusterBudget (busy shape)).store.getAll.map
      ((run clusterBudget (busy shape)).coordinator.nodeBudget
        (run clusterBudget (busy shape)).store.getAll)).sum = clusterBudget := by
  have budget := clusterBudget_run clusterBudget (busy shape)
  set coordinator := (run clusterBudget (busy shape)).coordinator
  set states := (run clusterBudget (busy shape)).store.getAll with statesDef
  have draws : ∀ state ∈ states, state.drawW = 1 := fun state member =>
    drawW_of_mem_busy (published_of_mem member)
  have count : (0 : ℚ) < states.length := Nat.cast_pos.mpr (List.length_pos_of_ne_nil some)
  have total : ClusterCoordinator.totalDraw states = states.length := by
    have ones : states.map NodeState.drawW = states.map fun _ => (1 : ℚ) :=
      List.map_congr_left draws
    rw [ClusterCoordinator.totalDraw, ones, List.map_const', List.sum_replicate, nsmul_eq_mul,
      mul_one, orOne_of_pos count]
  rw [ClusterCoordinator.sum_nodeBudget_eq, budget]
  · exact fun state member => (draws state member).symm ▸ zero_le_one
  · obtain ⟨state, member⟩ := List.exists_mem_of_ne_nil _ some
    exact ⟨state, member, (draws state member).symm ▸ one_pos⟩
  · intro state member
    refine ClusterCoordinator.proportionalShare_le_ceil_of_part (by rwa [budget]) some ?_
    have part : 0 < clusterBudget / states.length := div_pos positive count
    have single : state.drawW / ClusterCoordinator.totalDraw states * clusterBudget =
        clusterBudget / states.length := by
      rw [draws state member, total]
      ring
    have double : 2 * clusterBudget / states.length = 2 * (clusterBudget / states.length) := by ring
    rw [budget, single, double]
    linarith

/-- A node that changed its domain between two rebalances pushes the total over the budget. -/
theorem not_safe_busy {clusterBudget : ℚ} (positive : 0 < clusterBudget)
    {first between rest : Shape} {nodeId domainName : String}
    (before : Shape.lastDomain first nodeId = some domainName)
    (moved : Shape.lastDomain (first ++ none :: between) nodeId ≠ some domainName) :
    ¬ Safe clusterBudget (busy (first ++ none :: between ++ none :: rest)) := by
  intro safe
  have split : busy (first ++ none :: between ++ none :: rest) =
      busy (first ++ none :: between) ++ .rebalance :: busy rest := by
    simp [busy]
  have bound := safe _ _ split
  have nonneg : DrawsNonneg (busy (first ++ none :: between)) := fun state member =>
    (drawW_of_mem_busy member).symm ▸ zero_le_one
  have answered : (nodeId, domainName) ∈
      (run clusterBudget (busy (first ++ none :: between))).store.adopted.keys := by
    rw [mem_keys_adopted]
    exact ⟨busy first, busy between, by simp [busy], by rwa [shape_busy]⟩
  have stale : 0 < (run clusterBudget (busy (first ++ none :: between))).staleTotal := by
    obtain ⟨budget, answer⟩ := Dict.mem_keys_iff.mp answered
    have left : (nodeId, domainName) ∉ ((run clusterBudget
        (busy (first ++ none :: between))).coordinator.published
          (run clusterBudget (busy (first ++ none :: between))).store).map Prod.fst := by
      rwa [mem_keys_published, shape_busy]
    have kept : ((nodeId, domainName), budget) ∈ (run clusterBudget
        (busy (first ++ none :: between))).store.adopted.items.filter fun item =>
          item.1 ∉ ((run clusterBudget (busy (first ++ none :: between))).coordinator.published
            (run clusterBudget (busy (first ++ none :: between))).store).map Prod.fst :=
      List.mem_filter.mpr ⟨Dict.get?_eq_some_iff.mp answer, decide_eq_true left⟩
    refine (adopted_pos positive nonneg answer).trans_le
      (List.single_le_sum (fun other member => ?_) _ (List.mem_map_of_mem (f := Prod.snd) kept))
    obtain ⟨item, inside, rfl⟩ := List.mem_map.mp member
    exact (adopted_pos positive nonneg
      (Dict.get?_eq_some_iff.mpr (List.mem_filter.mp inside).1)).le
  have present : (run clusterBudget (busy (first ++ none :: between))).store.getAll ≠ [] := by
    obtain ⟨latest, last⟩ := Shape.exists_lastDomain_append before (none :: between)
    have reported := domain_of_run clusterBudget (busy (first ++ none :: between)) nodeId
    rw [shape_busy, last, Option.map_eq_some_iff] at reported
    obtain ⟨state, found, _⟩ := reported
    have sameId := (run clusterBudget (busy (first ++ none :: between))).store.keyed _ _ found
    subst sameId
    exact List.ne_nil_of_mem (InMemoryStore.mem_getAll.mpr found)
  rw [run_append, adoptedTotal_step_rebalance, sum_nodeBudget_busy positive present] at bound
  linarith

/-- **The store's answers stay within the cluster budget, exactly.** Over all histories of one
shape, whatever the draws, every completed rebalance leaves answers that add up to at most the
cluster budget if and only if every node reports, at each rebalance, the domain it reported at the
earlier ones. -/
theorem adopted_le_budget_iff {clusterBudget : ℚ} (positive : 0 < clusterBudget) (shape : Shape) :
    (∀ events : List ClusterEvent, events.map ClusterEvent.shape = shape → DrawsNonneg events →
      Safe clusterBudget events) ↔ shape.SteadyDomains := by
  constructor
  · rintro safe first between rest rfl nodeId domainName before
    by_contra moved
    refine not_safe_busy positive before moved (safe _ (shape_busy _) fun state member => ?_)
    exact (drawW_of_mem_busy member).symm ▸ zero_le_one
  · rintro steady events rfl nonneg
    exact safe_of_steady positive nonneg steady

/-! ### A node that moves

One node reports domain `d1`, then domain `d2`, with a rebalance after each report. -/

def movingShape : Shape := [some ("node0", "d1"), none, some ("node0", "d2"), none]

/-- With 1000 W for the cluster the store answers 1000 W for each of the two pairs. -/
theorem adopted_exceeds_budget :
    DrawsNonneg (busy movingShape) ∧ (run 1000 (busy movingShape)).adoptedTotal = 2000 ∧
      ¬ Safe 1000 (busy movingShape) := by
  refine ⟨fun state member => (drawW_of_mem_busy member).symm ▸ zero_le_one, by decide +kernel, ?_⟩
  intro safe
  have bound := safe (busy movingShape.dropLast) [] rfl
  revert bound
  decide +kernel

/-- The equivalence for the moving node. -/
theorem adopted_le_budget_iff_moving :
    (∀ events : List ClusterEvent, events.map ClusterEvent.shape = movingShape →
      DrawsNonneg events → Safe 1000 events) ↔ movingShape.SteadyDomains :=
  adopted_le_budget_iff (by norm_num) movingShape

end Cluster

end Opendps.Controller
