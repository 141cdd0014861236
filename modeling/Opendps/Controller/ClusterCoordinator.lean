/-
**The cluster coordinator and its in-memory store.**

Nodes publish their state, keyed by node id; `ClusterCoordinator.rebalance` reads every state,
reserves each node half of its fair share, hands the other half of the cluster budget out in
proportion to draw, cuts each budget at twice the fair share, and writes it back under the node and
the domain the node reports.

`rebalance_safe_and_fair` collects what one call guarantees: the bound on the sum, the range of each
budget, the order by draw, what raising one draw does to every budget, and what the store answers
afterwards.
-/

import Opendps.Lib.Dict
import Opendps.Lib.Shares
import Mathlib.Algebra.Order.Ring.Rat
import Mathlib.Tactic.FieldSimp
import Mathlib.Tactic.Ring

namespace Opendps.Controller

open Opendps.Lib

/-- What a node reports. -/
structure NodeState where
  nodeId : String
  domainName : String
  drawW : ℚ
  capW : ℚ
  budgetW : ℚ
  ts : ℚ

/-- The single-process store: the last state of each node, filed under its id, and the budgets
handed down for each node and domain. -/
structure InMemoryStore where
  states : Dict String NodeState := .empty
  adopted : Dict (String × String) ℚ := .empty
  keyed : ∀ nodeId state, states.get? nodeId = some state → state.nodeId = nodeId

namespace InMemoryStore

def init : InMemoryStore where
  keyed := by simp

def publish (store : InMemoryStore) (state : NodeState) : InMemoryStore where
  states := store.states.set state.nodeId state
  adopted := store.adopted
  keyed := by
    intro nodeId stored found
    rw [Dict.get?_set] at found
    split at found
    · next same =>
      cases found
      exact same.symm
    · exact store.keyed nodeId stored found

def getAll (store : InMemoryStore) : List NodeState := store.states.values

def setAdoptedBudget (store : InMemoryStore) (nodeId domainName : String) (budgetW : ℚ) :
    InMemoryStore :=
  { store with adopted := store.adopted.set (nodeId, domainName) budgetW }

def getAdoptedBudget (store : InMemoryStore) (nodeId domainName : String) : Option ℚ :=
  store.adopted.get? (nodeId, domainName)

/-- The states are exactly those filed under their own id. -/
theorem mem_getAll {store : InMemoryStore} {state : NodeState} :
    state ∈ store.getAll ↔ store.states.get? state.nodeId = some state := by
  simp only [getAll, Dict.values, List.mem_map, Prod.exists, exists_eq_right]
  constructor
  · rintro ⟨nodeId, member⟩
    have found := Dict.get?_eq_some_iff.mpr member
    rwa [store.keyed nodeId state found]
  · exact fun found => ⟨state.nodeId, Dict.get?_eq_some_iff.mp found⟩

/-- The ids, in order. -/
theorem map_nodeId_getAll (store : InMemoryStore) :
    store.getAll.map NodeState.nodeId = store.states.keys := by
  rw [getAll, Dict.values, Dict.keys, List.map_map]
  exact List.map_congr_left fun item member =>
    store.keyed item.1 item.2 (Dict.get?_eq_some_iff.mpr member)

theorem nodeIds_nodup (store : InMemoryStore) :
    (store.getAll.map NodeState.nodeId).Nodup := by
  rw [map_nodeId_getAll]
  exact store.states.keys_nodup

end InMemoryStore

/-- The coordinator: the cluster's budget, and the budgets of its last rebalance. -/
structure ClusterCoordinator where
  clusterBudget : ℚ
  nodeBudgets : Dict String ℚ := .empty

namespace ClusterCoordinator

/-! ### One rebalance -/

def fair (self : ClusterCoordinator) (n : ℕ) : ℚ := self.clusterBudget / n

def floor (self : ClusterCoordinator) (n : ℕ) : ℚ := self.fair n * (1 / 2)

def ceil (self : ClusterCoordinator) (n : ℕ) : ℚ := self.fair n * 2

/-- What the floors leave of the cluster budget. -/
def surplus (self : ClusterCoordinator) (n : ℕ) : ℚ := self.clusterBudget - self.floor n * n

/-- The draw of all nodes; zero is replaced by one, since it is a denominator. -/
def totalDraw (states : List NodeState) : ℚ := orOne (states.map NodeState.drawW).sum

/-- A node's floor and its part of the surplus, before the ceiling. -/
def proportionalShare (self : ClusterCoordinator) (states : List NodeState)
    (state : NodeState) : ℚ :=
  self.floor states.length + state.drawW / totalDraw states * self.surplus states.length

def nodeBudget (self : ClusterCoordinator) (states : List NodeState) (state : NodeState) : ℚ :=
  min (self.proportionalShare states state) (self.ceil states.length)

def newBudgets (self : ClusterCoordinator) (states : List NodeState) : Dict String ℚ :=
  .ofList (states.map fun state => (state.nodeId, self.nodeBudget states state))

/-- Redistribute the cluster budget: the new budgets, and the coordinator and store that hold
them. -/
def rebalance (self : ClusterCoordinator) (store : InMemoryStore) :
    Dict String ℚ × ClusterCoordinator × InMemoryStore :=
  let states := store.getAll
  if states.isEmpty then (.empty, self, store)
  else
    let newBudgets := self.newBudgets states
    -- every state's id was just written to `newBudgets`, so the lookup never misses
    let store := states.foldl (fun current state => current.setAdoptedBudget state.nodeId
      state.domainName (newBudgets.getD state.nodeId 0)) store
    (newBudgets, { self with nodeBudgets := newBudgets }, store)

/-! ### The numbers of a split -/

section Split

variable {self : ClusterCoordinator} {states : List NodeState}

theorem floor_eq (self : ClusterCoordinator) (n : ℕ) :
    self.floor n = self.clusterBudget / (2 * n) := by
  unfold floor fair
  ring

theorem ceil_eq (self : ClusterCoordinator) (n : ℕ) :
    self.ceil n = 2 * self.clusterBudget / n := by
  unfold ceil fair
  ring

/-- The floors take half of the cluster budget. -/
theorem surplus_eq (self : ClusterCoordinator) {n : ℕ} (some : n ≠ 0) :
    self.surplus n = self.clusterBudget / 2 := by
  have count : (n : ℚ) ≠ 0 := Nat.cast_ne_zero.mpr some
  unfold surplus floor fair
  field_simp
  ring

theorem surplus_nonneg (positive : 0 < self.clusterBudget) {n : ℕ} (some : n ≠ 0) :
    0 ≤ self.surplus n := by
  rw [surplus_eq self some]
  exact (half_pos positive).le

theorem length_ne_zero (nonempty : states ≠ []) : states.length ≠ 0 := fun zero =>
  nonempty (List.length_eq_zero_iff.mp zero)

theorem totalDraw_pos (nonneg : ∀ state ∈ states, 0 ≤ state.drawW) : 0 < totalDraw states := by
  refine orOne_pos (List.sum_nonneg fun draw member => ?_)
  obtain ⟨state, inside, rfl⟩ := List.mem_map.mp member
  exact nonneg state inside

/-- Before the ceiling, a split hands out the floors and the drawn part of the surplus. -/
theorem sum_proportionalShare (self : ClusterCoordinator) (states : List NodeState) :
    (states.map (self.proportionalShare states)).sum = states.length * self.floor states.length +
      (states.map NodeState.drawW).sum / totalDraw states * self.surplus states.length := by
  unfold proportionalShare
  rw [List.sum_map_add, List.map_const', List.sum_replicate, nsmul_eq_mul]
  simp only [div_eq_mul_inv]
  rw [List.sum_map_mul_right, List.sum_map_mul_right]

theorem floors_add_surplus (self : ClusterCoordinator) (n : ℕ) :
    n * self.floor n + self.surplus n = self.clusterBudget := by
  unfold surplus
  ring

/-- **The budgets never add up to more than the cluster's.** -/
theorem sum_nodeBudget_le (positive : 0 < self.clusterBudget) (nonempty : states ≠ []) :
    (states.map (self.nodeBudget states)).sum ≤ self.clusterBudget := by
  have surplus := surplus_nonneg positive (length_ne_zero nonempty)
  calc (states.map (self.nodeBudget states)).sum
      ≤ (states.map (self.proportionalShare states)).sum :=
        List.sum_le_sum fun state _ => min_le_left _ _
    _ = states.length * self.floor states.length +
          (states.map NodeState.drawW).sum / totalDraw states * self.surplus states.length :=
        self.sum_proportionalShare states
    _ ≤ states.length * self.floor states.length + 1 * self.surplus states.length :=
        add_le_add le_rfl (mul_le_mul_of_nonneg_right (self_div_orOne_le_one _) surplus)
    _ = self.clusterBudget := by rw [one_mul, floors_add_surplus]

/-- With some draw and no budget cut at the ceiling, the cluster budget is handed out in full. -/
theorem sum_nodeBudget_eq (nonneg : ∀ state ∈ states, 0 ≤ state.drawW)
    (drawn : ∃ state ∈ states, 0 < state.drawW)
    (uncut : ∀ state ∈ states, self.proportionalShare states state ≤ self.ceil states.length) :
    (states.map (self.nodeBudget states)).sum = self.clusterBudget := by
  have total : 0 < (states.map NodeState.drawW).sum := by
    obtain ⟨state, member, positive⟩ := drawn
    refine positive.trans_le (List.single_le_sum ?_ _ (List.mem_map_of_mem member))
    intro draw inside
    obtain ⟨other, present, rfl⟩ := List.mem_map.mp inside
    exact nonneg other present
  have same : states.map (self.nodeBudget states) = states.map (self.proportionalShare states) :=
    List.map_congr_left fun state member => min_eq_left (uncut state member)
  rw [same, sum_proportionalShare, totalDraw, orOne_of_pos total, div_self total.ne', one_mul,
    floors_add_surplus]

/-- A part of the cluster budget below the ceiling keeps the node's share below it. -/
theorem proportionalShare_le_ceil_of_part (positive : 0 < self.clusterBudget)
    (nonempty : states ≠ []) {state : NodeState}
    (part : state.drawW / totalDraw states * self.clusterBudget <
      2 * self.clusterBudget / states.length) :
    self.proportionalShare states state ≤ self.ceil states.length := by
  have count : (0 : ℚ) < states.length :=
    Nat.cast_pos.mpr (Nat.pos_of_ne_zero (length_ne_zero nonempty))
  have fair : 0 < self.clusterBudget / states.length := div_pos positive count
  have double : 2 * self.clusterBudget / states.length =
      2 * (self.clusterBudget / states.length) := by ring
  have half : self.clusterBudget / (2 * states.length) =
      self.clusterBudget / states.length / 2 := by
    field_simp
  rw [proportionalShare, floor_eq, ceil_eq, surplus_eq self (length_ne_zero nonempty), double, half]
  rw [double] at part
  linarith

/-- Every budget is at least half and at most twice the fair share. -/
theorem nodeBudget_mem_range (positive : 0 < self.clusterBudget) (nonempty : states ≠ [])
    (nonneg : ∀ state ∈ states, 0 ≤ state.drawW) {state : NodeState} (member : state ∈ states) :
    self.clusterBudget / (2 * states.length) ≤ self.nodeBudget states state ∧
      self.nodeBudget states state ≤ 2 * self.clusterBudget / states.length := by
  have count : (0 : ℚ) < states.length :=
    Nat.cast_pos.mpr (Nat.pos_of_ne_zero (length_ne_zero nonempty))
  have fair : 0 < self.clusterBudget / states.length := div_pos positive count
  have extra : 0 ≤ state.drawW / totalDraw states * self.surplus states.length :=
    mul_nonneg (div_nonneg (nonneg state member) (totalDraw_pos nonneg).le)
      (surplus_nonneg positive (length_ne_zero nonempty))
  rw [← floor_eq, ← ceil_eq]
  refine ⟨le_min (le_add_of_nonneg_right extra) ?_, min_le_right _ _⟩
  unfold floor ceil ClusterCoordinator.fair
  linarith

/-- A larger draw never gets a smaller budget. -/
theorem nodeBudget_mono (positive : 0 < self.clusterBudget) (nonempty : states ≠ [])
    (nonneg : ∀ state ∈ states, 0 ≤ state.drawW) {state other : NodeState}
    (more : state.drawW ≤ other.drawW) :
    self.nodeBudget states state ≤ self.nodeBudget states other := by
  refine min_le_min_right _ (add_le_add le_rfl (mul_le_mul_of_nonneg_right ?_
    (surplus_nonneg positive (length_ne_zero nonempty))))
  exact div_le_div_of_nonneg_right more (totalDraw_pos nonneg).le

end Split

/-! ### The tables a rebalance writes -/

section Tables

variable {self : ClusterCoordinator} {store : InMemoryStore}

/-- The budgets a rebalance publishes, under the pairs it files them under. -/
def published (self : ClusterCoordinator) (store : InMemoryStore) : List ((String × String) × ℚ) :=
  store.getAll.map fun state =>
    ((state.nodeId, state.domainName), self.nodeBudget store.getAll state)

theorem keys_published (self : ClusterCoordinator) (store : InMemoryStore) :
    (self.published store).map Prod.fst =
      store.getAll.map fun state => (state.nodeId, state.domainName) := by
  rw [published, List.map_map]
  rfl

theorem keys_published_nodup (self : ClusterCoordinator) (store : InMemoryStore) :
    ((self.published store).map Prod.fst).Nodup := by
  rw [keys_published]
  refine List.Nodup.of_map Prod.fst ?_
  rw [List.map_map]
  exact store.nodeIds_nodup

theorem items_newBudgets (self : ClusterCoordinator) (store : InMemoryStore) :
    (self.newBudgets store.getAll).items =
      store.getAll.map fun state => (state.nodeId, self.nodeBudget store.getAll state) := by
  have distinct : ((store.getAll.map fun state =>
      (state.nodeId, self.nodeBudget store.getAll state)).map Prod.fst).Nodup := by
    rw [List.map_map]
    exact store.nodeIds_nodup
  rw [newBudgets, Dict.ofList, Dict.items_setAll_of_disjoint _ distinct (by simp),
    Dict.items_empty, List.nil_append]

theorem get?_newBudgets {state : NodeState} (member : state ∈ store.getAll) :
    (self.newBudgets store.getAll).get? state.nodeId =
      some (self.nodeBudget store.getAll state) := by
  rw [Dict.get?_eq_some_iff, items_newBudgets]
  exact List.mem_map_of_mem (f := fun state =>
    (state.nodeId, self.nodeBudget store.getAll state)) member

theorem get?_newBudgets_eq_some {nodeId : String} {budget : ℚ}
    (found : (self.newBudgets store.getAll).get? nodeId = some budget) :
    ∃ state ∈ store.getAll, state.nodeId = nodeId ∧ self.nodeBudget store.getAll state = budget := by
  rw [Dict.get?_eq_some_iff, items_newBudgets] at found
  obtain ⟨state, member, same⟩ := List.mem_map.mp found
  rw [Prod.mk.injEq] at same
  exact ⟨state, member, same⟩

theorem sum_newBudgets (self : ClusterCoordinator) (store : InMemoryStore) :
    (self.newBudgets store.getAll).values.sum =
      (store.getAll.map (self.nodeBudget store.getAll)).sum := by
  rw [Dict.values, items_newBudgets, List.map_map]
  rfl

theorem adopted_foldl (budget : NodeState → ℚ) (states : List NodeState) (store : InMemoryStore) :
    states.foldl (fun current state => current.setAdoptedBudget state.nodeId state.domainName
      (budget state)) store =
      { store with adopted := store.adopted.setAll (states.map fun state =>
          ((state.nodeId, state.domainName), budget state)) } := by
  induction states generalizing store with
  | nil => rfl
  | cons state rest ih =>
    rw [List.foldl_cons, ih]
    rfl

/-- **What one call of `rebalance` does**, when some node has reported. -/
theorem rebalance_eq (nonempty : store.getAll ≠ []) :
    self.rebalance store = (self.newBudgets store.getAll,
      { self with nodeBudgets := self.newBudgets store.getAll },
      { store with adopted := store.adopted.setAll (self.published store) }) := by
  have some : store.getAll.isEmpty = false := by
    rwa [List.isEmpty_eq_false_iff]
  have budgets : (store.getAll.map fun state => ((state.nodeId, state.domainName),
      (self.newBudgets store.getAll).getD state.nodeId 0)) = self.published store := by
    refine List.map_congr_left fun state member => ?_
    rw [Dict.getD_of_some (get?_newBudgets member)]
  unfold rebalance
  simp only [some, Bool.false_eq_true, if_false]
  rw [adopted_foldl fun state => (self.newBudgets store.getAll).getD state.nodeId 0, budgets]

/-- After a rebalance the store answers each node its new budget. -/
theorem getAdoptedBudget_rebalance {state : NodeState} (member : state ∈ store.getAll) :
    (self.rebalance store).2.2.getAdoptedBudget state.nodeId state.domainName =
      some (self.nodeBudget store.getAll state) := by
  have distinct := self.keys_published_nodup store
  have listed : ((state.nodeId, state.domainName), self.nodeBudget store.getAll state) ∈
      self.published store :=
    List.mem_map.mpr ⟨state, member, rfl⟩
  rw [rebalance_eq (List.ne_nil_of_mem member), InMemoryStore.getAdoptedBudget,
    Dict.get?_setAll _ distinct, (Dict.lookup_eq_some_iff distinct).mpr listed]
  rfl

end Tables

/-! ### Raising one draw -/

section Raise

variable {self : ClusterCoordinator} {store : InMemoryStore} {state : NodeState}

/-- The store after one node reports the same again with another draw. -/
def withDraw (store : InMemoryStore) (state : NodeState) (draw : ℚ) : InMemoryStore :=
  store.publish { state with drawW := draw }

theorem getAll_perm (member : state ∈ store.getAll) :
    store.getAll.Perm (state :: (store.states.pop state.nodeId).values) :=
  Dict.values_perm_cons_pop (InMemoryStore.mem_getAll.mp member)

theorem getAll_withDraw_perm (store : InMemoryStore) (state : NodeState) (draw : ℚ) :
    (withDraw store state draw).getAll.Perm
      ({ state with drawW := draw } :: (store.states.pop state.nodeId).values) :=
  Dict.values_set_perm_cons_pop _ _ _

theorem length_getAll_withDraw (member : state ∈ store.getAll) (draw : ℚ) :
    (withDraw store state draw).getAll.length = store.getAll.length := by
  rw [(getAll_withDraw_perm store state draw).length_eq, (getAll_perm member).length_eq]
  rfl

/-- The draw of every node but one. -/
def otherDraw (store : InMemoryStore) (state : NodeState) : ℚ :=
  ((store.states.pop state.nodeId).values.map NodeState.drawW).sum

theorem totalDraw_eq (member : state ∈ store.getAll) :
    totalDraw store.getAll = orOne (state.drawW + otherDraw store state) := by
  rw [totalDraw, ((getAll_perm member).map NodeState.drawW).sum_eq]
  rfl

theorem totalDraw_withDraw (store : InMemoryStore) (state : NodeState) (draw : ℚ) :
    totalDraw (withDraw store state draw).getAll = orOne (draw + otherDraw store state) := by
  rw [totalDraw, ((getAll_withDraw_perm store state draw).map NodeState.drawW).sum_eq]
  rfl

theorem otherDraw_nonneg (nonneg : ∀ other ∈ store.getAll, 0 ≤ other.drawW)
    (member : state ∈ store.getAll) : 0 ≤ otherDraw store state := by
  refine List.sum_nonneg fun draw inside => ?_
  obtain ⟨other, present, rfl⟩ := List.mem_map.mp inside
  exact nonneg other ((getAll_perm member).mem_iff.mpr (List.mem_cons_of_mem _ present))

/-- The other nodes are as before. -/
theorem mem_getAll_withDraw {other : NodeState} {draw : ℚ} (different : other.nodeId ≠ state.nodeId)
    (present : other ∈ store.getAll) : other ∈ (withDraw store state draw).getAll := by
  rw [InMemoryStore.mem_getAll] at present ⊢
  exact (Dict.get?_set_of_ne _ _ different).trans present

theorem le_otherDraw {other : NodeState} (nonneg : ∀ other ∈ store.getAll, 0 ≤ other.drawW)
    (member : state ∈ store.getAll) (different : other.nodeId ≠ state.nodeId)
    (present : other ∈ store.getAll) : other.drawW ≤ otherDraw store state := by
  have rest : other ∈ (store.states.pop state.nodeId).values := by
    have split := (getAll_perm member).mem_iff.mp present
    rcases List.mem_cons.mp split with same | inside
    · exact absurd (congrArg NodeState.nodeId same) different
    · exact inside
  refine List.single_le_sum (fun draw inside => ?_) _ (List.mem_map_of_mem rest)
  obtain ⟨third, inRest, rfl⟩ := List.mem_map.mp inside
  exact nonneg third ((getAll_perm member).mem_iff.mpr (List.mem_cons_of_mem _ inRest))

theorem mem_withDraw (store : InMemoryStore) (state : NodeState) (draw : ℚ) :
    { state with drawW := draw } ∈ (withDraw store state draw).getAll := by
  rw [InMemoryStore.mem_getAll]
  exact Dict.get?_set_self _ _ _

theorem get?_newBudgets_withDraw (self : ClusterCoordinator) (store : InMemoryStore)
    (state : NodeState) (draw : ℚ) :
    (self.newBudgets (withDraw store state draw).getAll).get? state.nodeId =
      some (self.nodeBudget (withDraw store state draw).getAll { state with drawW := draw }) :=
  get?_newBudgets (mem_withDraw store state draw)

/-- A node that draws more does not get less. -/
theorem nodeBudget_le_of_raise (positive : 0 < self.clusterBudget)
    (nonneg : ∀ other ∈ store.getAll, 0 ≤ other.drawW) (member : state ∈ store.getAll) {draw : ℚ}
    (raise : state.drawW ≤ draw) :
    self.nodeBudget store.getAll state ≤
      self.nodeBudget (withDraw store state draw).getAll { state with drawW := draw } := by
  have ratio := ratio_le_ratio_of_raise (nonneg state member) raise (otherDraw_nonneg nonneg member)
  unfold nodeBudget proportionalShare
  rw [totalDraw_eq member, totalDraw_withDraw, length_getAll_withDraw member]
  exact min_le_min_right _ (add_le_add le_rfl (mul_le_mul_of_nonneg_right ratio
    (surplus_nonneg positive (length_ne_zero (List.ne_nil_of_mem member)))))

/-- When one node draws more, no other node gets more. -/
theorem nodeBudget_le_of_other (positive : 0 < self.clusterBudget)
    (nonneg : ∀ other ∈ store.getAll, 0 ≤ other.drawW) (member : state ∈ store.getAll) {draw : ℚ}
    (raise : state.drawW ≤ draw) {other : NodeState} (different : other.nodeId ≠ state.nodeId)
    (present : other ∈ store.getAll) :
    self.nodeBudget (withDraw store state draw).getAll other ≤
      self.nodeBudget store.getAll other := by
  have counted : other.drawW ≤ state.drawW + otherDraw store state :=
    (le_otherDraw nonneg member different present).trans
      (le_add_of_nonneg_left (nonneg state member))
  have ratio := ratio_le_ratio_of_other (nonneg other present) counted
    (add_le_add raise (le_refl (otherDraw store state)))
  unfold nodeBudget proportionalShare
  rw [totalDraw_eq member, totalDraw_withDraw, length_getAll_withDraw member]
  exact min_le_min_right _ (add_le_add le_rfl (mul_le_mul_of_nonneg_right ratio
    (surplus_nonneg positive (length_ne_zero (List.ne_nil_of_mem member)))))

end Raise

/-! ### The guarantees of one call -/

/-- **A rebalance is a safe and fair split.** -/
theorem rebalance_safe_and_fair {self : ClusterCoordinator} {store : InMemoryStore}
    (positive : 0 < self.clusterBudget) (nonempty : store.getAll ≠ [])
    (nonneg : ∀ state ∈ store.getAll, 0 ≤ state.drawW) :
    -- every node gets a budget, and no one else
    (self.rebalance store).1.keys = store.getAll.map NodeState.nodeId ∧
    -- the sum
    (self.rebalance store).1.values.sum ≤ self.clusterBudget ∧
    ((∃ state ∈ store.getAll, 0 < state.drawW) →
      (∀ state ∈ store.getAll, self.proportionalShare store.getAll state <
          2 * self.clusterBudget / store.getAll.length ∨
        state.drawW / totalDraw store.getAll * self.clusterBudget <
          2 * self.clusterBudget / store.getAll.length) →
      (self.rebalance store).1.values.sum = self.clusterBudget) ∧
    -- the range
    (∀ nodeId budget, (self.rebalance store).1.get? nodeId = some budget →
      self.clusterBudget / (2 * store.getAll.length) ≤ budget ∧
        budget ≤ 2 * self.clusterBudget / store.getAll.length) ∧
    -- the order by draw
    (∀ state ∈ store.getAll, ∀ other ∈ store.getAll, state.drawW ≤ other.drawW →
      (self.rebalance store).1.getD state.nodeId 0 ≤ (self.rebalance store).1.getD other.nodeId 0) ∧
    -- one raised draw
    (∀ state ∈ store.getAll, ∀ draw, state.drawW ≤ draw →
      (self.rebalance store).1.getD state.nodeId 0 ≤
          (self.rebalance (withDraw store state draw)).1.getD state.nodeId 0 ∧
        ∀ other ∈ store.getAll, other.nodeId ≠ state.nodeId →
          (self.rebalance (withDraw store state draw)).1.getD other.nodeId 0 ≤
            (self.rebalance store).1.getD other.nodeId 0) ∧
    -- the store's answers
    ∀ state ∈ store.getAll, ∃ budget, (self.rebalance store).1.get? state.nodeId = some budget ∧
      (self.rebalance store).2.2.getAdoptedBudget state.nodeId state.domainName = some budget := by
  have budgets : (self.rebalance store).1 = self.newBudgets store.getAll := by
    rw [rebalance_eq nonempty]
  have budgetOf : ∀ state ∈ store.getAll, (self.newBudgets store.getAll).getD state.nodeId 0 =
      self.nodeBudget store.getAll state := fun state member => by
    rw [Dict.getD_of_some (get?_newBudgets member)]
  rw [budgets]
  refine ⟨?_, ?_, ?_, ?_, ?_, ?_, ?_⟩
  · rw [Dict.keys, items_newBudgets, List.map_map]
    rfl
  · rw [sum_newBudgets]
    exact sum_nodeBudget_le positive nonempty
  · intro drawn uncut
    rw [sum_newBudgets]
    refine sum_nodeBudget_eq nonneg drawn fun state member => ?_
    rcases uncut state member with share | part
    · rw [ceil_eq]
      exact share.le
    · exact proportionalShare_le_ceil_of_part positive nonempty part
  · intro nodeId budget found
    obtain ⟨state, member, _, rfl⟩ := get?_newBudgets_eq_some found
    exact nodeBudget_mem_range positive nonempty nonneg member
  · intro state member other present more
    rw [budgetOf state member, budgetOf other present]
    exact nodeBudget_mono positive nonempty nonneg more
  · intro state member draw raise
    have after : (self.rebalance (withDraw store state draw)).1 =
        self.newBudgets (withDraw store state draw).getAll := by
      rw [rebalance_eq (List.ne_nil_of_mem (mem_withDraw store state draw))]
    rw [after, budgetOf state member]
    constructor
    · rw [Dict.getD_of_some (get?_newBudgets_withDraw self store state draw)]
      exact nodeBudget_le_of_raise positive nonneg member raise
    · intro other present different
      rw [budgetOf other present,
        Dict.getD_of_some (get?_newBudgets (mem_getAll_withDraw different present))]
      exact nodeBudget_le_of_other positive nonneg member raise different present
  · intro state member
    exact ⟨_, get?_newBudgets member, getAdoptedBudget_rebalance member⟩

/-! ### A busy node and two light ones -/

def nodeReport (nodeId domainName : String) (drawW : ℚ) : NodeState where
  nodeId := nodeId
  domainName := domainName
  drawW := drawW
  capW := 0
  budgetW := 0
  ts := 0

def unevenStore : InMemoryStore :=
  ((InMemoryStore.init.publish (nodeReport "node0" "d0" 8000)).publish
    (nodeReport "node1" "d0" 500)).publish (nodeReport "node2" "d0" 500)

/-- A 12000 W cluster is handed out in full: 7333 W, 2333 W and 2333 W. -/
theorem rebalance_safe_and_fair_uneven :
    ClusterCoordinator.rebalance ⟨12000, .empty⟩ unevenStore |>.1.values.sum = 12000 := by
  have states : unevenStore.getAll =
      [nodeReport "node0" "d0" 8000, nodeReport "node1" "d0" 500, nodeReport "node2" "d0" 500] := by
    rfl
  refine (rebalance_safe_and_fair (by norm_num) ?_ ?_).2.2.1 ?_ ?_
  · rw [states]
    exact List.cons_ne_nil _ _
  · rw [states]
    decide +kernel
  · rw [states]
    decide +kernel
  · rw [states]
    decide +kernel

end ClusterCoordinator

end Opendps.Controller
