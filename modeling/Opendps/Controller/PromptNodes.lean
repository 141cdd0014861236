/-
**Nodes that keep up with the coordinator.**

Where one coordinator begins a rebalance only when every node runs on what the store answers it, a node
is at most one rebalance behind. The budgets of two rebalances share their floors, half of the cluster
budget, so `prompt_total_le`: in every such run the nodes never run on more than one and a half times the
cluster budget, but for what their static budgets are above the floor.
-/

import Opendps.Controller.LiveBudgets

namespace Opendps.Controller

open Opendps.Lib Opendps.Pdn

/-- Whether the next call is the read that begins a rebalance. -/
def aboutToRead {α : Type} : Prog StoreCall.Answer α → Bool
  | .call .getAll _ => true
  | _ => false

namespace LiveCluster

variable {n : ℕ}

/-- Every node runs on what the store answers it. -/
def Settled (cluster : LiveCluster n) : Prop :=
  ∀ i, (cluster.nodes i).adopted = (cluster.store.getAdoptedBudget
    (cluster.nodes i).controller.nodeId (cluster.nodes i).domain.name).filter
      fun adopted => (cluster.nodes i).controller.adoptedBudgetMinW ≤ adopted

/-- The nodes have kept up when the coordinator begins a rebalance. -/
def KeptUp (pool : Pool StoreCall.Answer ℕ ClusterCoordinator (LiveCluster n))
    (event : PoolEvent ℕ (NodeEvent n)) : Prop :=
  event = .thread 0 → aboutToRead (pool.progs 0) = true → pool.world.Settled

/-- The rounds of the coordinators, if only one of them has any. -/
def soleRounds (rounds k : ℕ) : ℕ := if k = 0 then rounds else 0

/-! ### Two rebalances -/

/-- Budgets as a rebalance hands them out. -/
structure Split (clusterBudget : ℚ) (share : Fin n → ℚ) : Prop where
  floor : ∀ i, clusterBudget / (2 * n) ≤ share i
  most : ∀ i, share i ≤ ClusterCoordinator.peak clusterBudget n
  total : ∑ i, share i ≤ clusterBudget

variable {first cluster : LiveCluster n} {clusterBudget : ℚ}
  {pool : Pool StoreCall.Answer ℕ ClusterCoordinator (LiveCluster n)}

/-- The floors of all nodes are half of the cluster budget. -/
theorem sum_floor (some : n ≠ 0) :
    ∑ _i : Fin n, clusterBudget / (2 * n) = clusterBudget / 2 := by
  have count : (n : ℚ) ≠ 0 := Nat.cast_ne_zero.mpr some
  rw [Finset.sum_const, Finset.card_univ, Fintype.card_fin, nsmul_eq_mul]
  field_simp

theorem split_floor (positive : 0 < clusterBudget) :
    Split clusterBudget fun _ : Fin n => clusterBudget / (2 * n) where
  floor _ := le_rfl
  most _ := by
    have fair : 0 ≤ clusterBudget / n := div_nonneg positive.le (Nat.cast_nonneg n)
    refine le_min (le_add_of_nonneg_right (half_pos positive).le) ?_
    rw [show clusterBudget / (2 * n) = clusterBudget / n / 2 by rw [mul_comm, div_mul_eq_div_div],
      mul_div_assoc]
    linarith
  total := by
    by_cases none : n = 0
    · subst none
      exact positive.le
    · rw [sum_floor none]
      exact half_le_self positive.le

/-- What a rebalance hands out is such a split. -/
theorem split_newBudgets (joined : first.Joined) (positive : 0 < clusterBudget)
    (fits : Fits first clusterBudget cluster) {self : ClusterCoordinator}
    (own : self.clusterBudget = clusterBudget) (nonempty : cluster.store.getAll ≠ []) :
    Split clusterBudget fun i =>
      (self.newBudgets cluster.store.getAll).getD (first.nodes i).controller.nodeId 0 := by
  have handed : ∀ state ∈ cluster.store.getAll,
      (self.newBudgets cluster.store.getAll).getD state.nodeId 0 =
        self.nodeBudget cluster.store.getAll state := fun state member =>
    Dict.getD_of_some (ClusterCoordinator.get?_newBudgets member) 0
  have listed : ∀ i, ∃ state ∈ cluster.store.getAll,
      state.nodeId = (first.nodes i).controller.nodeId := fun i =>
    List.mem_map.mp ((fits.perm_nodeIds joined).mem_iff.mpr
      (List.mem_map.mpr ⟨i, List.mem_finRange i, rfl⟩))
  refine ⟨fun i => ?_, fun i => ?_, ?_⟩
  · obtain ⟨state, member, same⟩ := listed i
    have range := (ClusterCoordinator.nodeBudget_mem_range (own ▸ positive) nonempty fits.draws
      member).1
    rw [fits.length_getAll joined, own] at range
    rw [← same, handed state member]
    exact range
  · obtain ⟨state, member, same⟩ := listed i
    have atMost := ClusterCoordinator.nodeBudget_le_peak (own ▸ positive) fits.draws member
    rw [fits.length_getAll joined, own] at atMost
    rw [← same, handed state member]
    exact atMost
  · have sums := ((fits.perm_nodeIds joined).map fun nodeId =>
      (self.newBudgets cluster.store.getAll).getD nodeId 0).sum_eq
    rw [List.map_map, List.map_map] at sums
    rw [Fin.sum_univ_def]
    refine (sums.symm.trans ?_).trans_le
      ((ClusterCoordinator.sum_nodeBudget_le (own ▸ positive) nonempty).trans_eq own)
    exact congrArg List.sum (List.map_congr_left fun state member => handed state member)

/-- Where a coordinator is: it has `rest` of the split `next` to publish, and the nodes hold budgets of
`next` or of `last`. -/
structure Publishing (first : LiveCluster n) (clusterBudget : ℚ)
    (pool : Pool StoreCall.Answer ℕ ClusterCoordinator (LiveCluster n)) (last next : Fin n → ℚ)
    (coordinator : ClusterCoordinator) (left : ℕ) (budget : NodeState → ℚ) (rest : List NodeState) :
    Prop where
  fits : Fits first clusterBudget pool.world
  lastSplit : Split clusterBudget last
  nextSplit : Split clusterBudget next
  reported : ∀ state ∈ pool.world.store.getAll, ∃ i, (first.nodes i).ReportedAs state
  prog : pool.progs 0 =
    (ClusterCoordinator.publishCalls budget rest).bind fun _ => coordinator.rebalancesCalls left
  own : coordinator.clusterBudget = clusterBudget
  others : ∀ k, k ≠ 0 → ∃ done, pool.progs k = .ret done
  planned : ∀ state ∈ rest, ∃ i, (first.nodes i).ReportedAs state ∧ budget state = next i
  answers : ∀ i answer, pool.world.store.getAdoptedBudget (first.nodes i).controller.nodeId
    (first.nodes i).domain.name = some answer →
      answer = next i ∨ (answer = last i ∧ ∃ state ∈ rest, (first.nodes i).ReportedAs state)
  held : ∀ i adopted, (pool.world.nodes i).adopted = some adopted →
    adopted = last i ∨ adopted = next i

variable {last next : Fin n → ℚ} {coordinator : ClusterCoordinator} {left : ℕ}
  {budget : NodeState → ℚ} {rest : List NodeState}

/-- A report. -/
theorem Publishing.report
    (here : Publishing first clusterBudget pool last next coordinator left budget rest) (i : Fin n)
    (report : NodeReport) :
    Publishing first clusterBudget (pool.step handle nodeStep (.change (.report i report))) last next
      coordinator left budget rest where
  fits := here.fits.nodeStep (.report i report)
  lastSplit := here.lastSplit
  nextSplit := here.nextSplit
  reported state member := by
    have stored : (pool.world.store.states.set (pool.world.nodes i).controller.nodeId
        ((pool.world.nodes i).state report)).get? state.nodeId = some state :=
      InMemoryStore.mem_getAll.mp member
    rw [Dict.get?_set] at stored
    split at stored
    · cases stored
      have same := here.fits.same i
      exact ⟨i, same.nodeId, congrArg PowerDomain.name same.domain⟩
    · exact here.reported state (InMemoryStore.mem_getAll.mpr stored)
  prog := here.prog
  own := here.own
  others := here.others
  planned := here.planned
  answers := here.answers
  held := here.held

/-- A tick: the node adopts what it is answered. -/
theorem Publishing.tick
    (here : Publishing first clusterBudget pool last next coordinator left budget rest) (i : Fin n)
    (fails : Bool) :
    Publishing first clusterBudget (pool.step handle nodeStep (.change (.tick i fails))) last next
      coordinator left budget rest where
  fits := here.fits.nodeStep (.tick i fails)
  lastSplit := here.lastSplit
  nextSplit := here.nextSplit
  reported := here.reported
  prog := here.prog
  own := here.own
  others := here.others
  planned := here.planned
  answers := here.answers
  held j adopted stored := by
    by_cases ticks : j = i
    · subst ticks
      change (Function.update pool.world.nodes j _ j).adopted = some adopted at stored
      rw [Function.update_self, ClusterNode.adopted_adopts, Option.filter_eq_some_iff] at stored
      cases fails with
      | true => cases stored.1
      | false =>
        have answered : pool.world.store.getAdoptedBudget (pool.world.nodes j).controller.nodeId
          (pool.world.nodes j).domain.name = some adopted := stored.1
        rw [(here.fits.same j).nodeId, (here.fits.same j).domain] at answered
        rcases here.answers j adopted answered with new | ⟨old, _⟩
        · exact .inr new
        · exact .inl old
    · change (Function.update pool.world.nodes i _ j).adopted = some adopted at stored
      rw [Function.update_of_ne ticks] at stored
      exact here.held j adopted stored

/-- A state that is reported as one node's is not another one's. -/
theorem Joined.unique (joined : first.Joined) {i j : Fin n} {state other : NodeState}
    (mine : (first.nodes i).ReportedAs state) (yours : (first.nodes j).ReportedAs other)
    (same : state.nodeId = other.nodeId) : i = j :=
  joined.distinct (mine.1.symm.trans (same.trans yours.1))

/-- A budget is published. -/
theorem Publishing.publish (joined : first.Joined) {state : NodeState}
    (here : Publishing first clusterBudget pool last next coordinator left budget (state :: rest)) :
    Publishing first clusterBudget (pool.step handle nodeStep (.thread 0)) last next coordinator left
      budget rest := by
  obtain ⟨i, mine, plan⟩ := here.planned state List.mem_cons_self
  have world : (pool.step handle nodeStep (.thread 0)).world =
      (handle (.setAdoptedBudget state.nodeId state.domainName (budget state)) pool.world).2 := by
    rw [Pool.step_thread, here.prog]
    rfl
  refine ⟨?_, here.lastSplit, here.nextSplit, ?_, ?_, here.own, fun k other => ?_,
    fun later member => here.planned later (List.mem_cons_of_mem state member), ?_, ?_⟩
  · rw [world]
    exact here.fits.setAdoptedBudget _ _ (plan ▸ here.nextSplit.most i)
  · rw [world]
    exact here.reported
  · rw [Pool.progs_step_thread_self, here.prog]
    rfl
  · rw [Pool.progs_step_thread_of_ne other]
    exact here.others k other
  · rw [world]
    intro j answer stored
    change (pool.world.store.adopted.set (state.nodeId, state.domainName) (budget state)).get?
      ((first.nodes j).controller.nodeId, (first.nodes j).domain.name) = some answer at stored
    by_cases own : ((first.nodes j).controller.nodeId, (first.nodes j).domain.name) =
        (state.nodeId, state.domainName)
    · rw [own, Dict.get?_set_self, Option.some.injEq] at stored
      have yours : (first.nodes j).ReportedAs state :=
        ⟨(congrArg Prod.fst own).symm, (congrArg Prod.snd own).symm⟩
      rw [← joined.unique mine yours rfl, ← plan]
      exact .inl stored.symm
    · rw [Dict.get?_set_of_ne _ _ own] at stored
      rcases here.answers j answer stored with new | ⟨old, other, member, yours⟩
      · exact .inl new
      · rcases List.mem_cons.mp member with rfl | inRest
        · exact absurd (Prod.ext yours.1.symm yours.2.symm) own
        · exact .inr ⟨old, other, inRest, yours⟩
  · rw [world]
    exact here.held

/-- A rebalance begins, once all nodes run on the split before it. -/
theorem Publishing.begin (joined : first.Joined) (positive : 0 < clusterBudget)
    (here : Publishing first clusterBudget pool last next coordinator (left + 1) budget [])
    (settled : pool.world.Settled) : ∃ last next coordinator budget rest,
      Publishing first clusterBudget (pool.step handle nodeStep (.thread 0)) last next coordinator left
        budget rest := by
  have start : pool.progs 0 = coordinator.rebalanceCalls.bind
    (ClusterCoordinator.rebalancesCalls left) := here.prog
  have world : (pool.step handle nodeStep (.thread 0)).world = pool.world := by
    rw [Pool.step_thread, start]
    rfl
  have others : ∀ k, k ≠ 0 →
      ∃ done, (pool.step handle nodeStep (.thread 0)).progs k = .ret done := fun k other => by
    rw [Pool.progs_step_thread_of_ne other]
    exact here.others k other
  have prog : (pool.step handle nodeStep (.thread 0)).progs 0 =
      (if pool.world.store.getAll.isEmpty then .ret coordinator
        else (ClusterCoordinator.publishCalls (fun state =>
          (coordinator.newBudgets pool.world.store.getAll).getD state.nodeId 0)
            pool.world.store.getAll).bind fun _ =>
          .ret { coordinator with nodeBudgets := coordinator.newBudgets pool.world.store.getAll }).bind
        (ClusterCoordinator.rebalancesCalls left) := by
    rw [Pool.progs_step_thread_self, start]
    rfl
  by_cases none : pool.world.store.getAll.isEmpty = true
  · rw [if_pos none] at prog
    refine ⟨last, next, coordinator, budget, [], ?_, here.lastSplit, here.nextSplit, ?_, prog,
      here.own, others, here.planned, ?_, ?_⟩
    all_goals rw [world]
    · exact here.fits
    · exact here.reported
    · exact here.answers
    · exact here.held
  · rw [if_neg none, Prog.bind_bind] at prog
    have nonempty : pool.world.store.getAll ≠ [] := fun empty => none (List.isEmpty_iff.mpr empty)
    refine ⟨next, _, _, _, pool.world.store.getAll, ?_, here.nextSplit,
      split_newBudgets joined positive here.fits here.own nonempty, ?_, prog, here.own, others,
      fun state member => ?_, ?_, ?_⟩
    · rw [world]
      exact here.fits
    · rw [world]
      exact here.reported
    · obtain ⟨i, mine⟩ := here.reported state member
      exact ⟨i, mine, by rw [mine.1]⟩
    · rw [world]
      intro i answer stored
      rcases here.answers i answer stored with old | ⟨_, state, member, _⟩
      · have listed : (first.nodes i).controller.nodeId ∈
            pool.world.store.getAll.map NodeState.nodeId :=
          (here.fits.perm_nodeIds joined).mem_iff.mpr (List.mem_map.mpr ⟨i, List.mem_finRange i, rfl⟩)
        obtain ⟨state, member, same⟩ := List.mem_map.mp listed
        obtain ⟨j, yours⟩ := here.reported state member
        have one : i = j := joined.distinct (same.symm.trans yours.1)
        exact .inr ⟨old, state, member, one ▸ yours⟩
      · exact absurd member List.not_mem_nil
    · rw [world]
      intro i adopted stored
      rw [settled i, Option.filter_eq_some_iff, (here.fits.same i).nodeId,
        (here.fits.same i).domain] at stored
      rcases here.answers i adopted stored.1 with old | ⟨_, state, member, _⟩
      · exact .inl old
      · exact absurd member List.not_mem_nil

/-- The coordinator makes its next call, if it has one left. -/
theorem Publishing.thread (joined : first.Joined) (positive : 0 < clusterBudget)
    (here : Publishing first clusterBudget pool last next coordinator left budget rest)
    (keptUp : KeptUp pool (.thread 0)) : ∃ last next coordinator left budget rest,
      Publishing first clusterBudget (pool.step handle nodeStep (.thread 0)) last next coordinator left
        budget rest := by
  cases rest with
  | cons state rest => exact ⟨_, _, _, _, _, _, here.publish joined⟩
  | nil =>
    cases left with
    | zero =>
      rw [Pool.step_thread_of_returned here.prog]
      exact ⟨_, _, _, _, _, _, here⟩
    | succ left =>
      have settled : pool.world.Settled := keptUp rfl (by rw [here.prog]; rfl)
      obtain ⟨last, next, coordinator, budget, rest, later⟩ := here.begin joined positive settled
      exact ⟨last, next, coordinator, left, budget, rest, later⟩

theorem publishing_reached (joined : first.Joined) (positive : 0 < clusterBudget)
    (reported : ∀ state ∈ first.store.getAll, ∃ i, (first.nodes i).ReportedAs state) (rounds : ℕ)
    {schedule : List (PoolEvent ℕ (NodeEvent n))}
    (prompt : Along (Pool.step handle nodeStep) (first.pool clusterBudget (soleRounds rounds))
      (fun _ => KeptUp) schedule) : ∃ last next coordinator left budget rest,
      Publishing first clusterBudget (first.reached clusterBudget (soleRounds rounds) schedule) last next
        coordinator left budget rest := by
  refine run_invariant_of_along (fun _ pool => ∃ last next coordinator left budget rest,
    Publishing first clusterBudget pool last next coordinator left budget rest) ?_
    (fun _ event pool before keptUp => ?_) prompt
  · refine ⟨_, _, { clusterBudget := clusterBudget }, rounds, fun _ => 0, [], joined.fits,
      split_floor positive, split_floor positive, reported, rfl, rfl, fun k other => ?_,
      fun _ member => absurd member List.not_mem_nil, fun i answer stored => ?_, fun i adopted stored => ?_⟩
    · refine ⟨{ clusterBudget := clusterBudget }, ?_⟩
      show ClusterCoordinator.rebalancesCalls (soleRounds rounds k) _ = _
      rw [soleRounds, if_neg other]
      rfl
    · change first.store.adopted.get? _ = some answer at stored
      rw [joined.fresh] at stored
      cases stored
    · change (first.nodes i).adopted = some adopted at stored
      rw [joined.free i] at stored
      cases stored
  · obtain ⟨last, next, coordinator, left, budget, rest, here⟩ := before
    cases event with
    | thread k =>
      by_cases sole : k = 0
      · subst sole
        exact here.thread joined positive keptUp
      · obtain ⟨done, returned⟩ := here.others k sole
        rw [Pool.step_thread_of_returned returned]
        exact ⟨_, _, _, _, _, _, here⟩
    | change event =>
      cases event with
      | report i report => exact ⟨_, _, _, _, _, _, here.report i report⟩
      | tick i fails => exact ⟨_, _, _, _, _, _, here.tick i fails⟩

/-- **Nodes that keep up run on at most one and a half times the cluster budget**, but for what their
static budgets are above the floor. -/
theorem prompt_total_le (cluster : LiveCluster n) (joined : cluster.Joined) {clusterBudget : ℚ}
    (positive : 0 < clusterBudget)
    (reported : ∀ state ∈ cluster.store.getAll, ∃ i, (cluster.nodes i).ReportedAs state) (rounds : ℕ)
    {schedule : List (PoolEvent ℕ (NodeEvent n))}
    (prompt : Along (Pool.step handle nodeStep) (cluster.pool clusterBudget (soleRounds rounds))
      (fun _ => KeptUp) schedule) {budgets : Fin n → ℚ}
    (inForce : ∀ i, ((cluster.after clusterBudget (soleRounds rounds) schedule).nodes i).budgetW =
      .ok (budgets i)) :
    ∑ i, budgets i ≤ 3 / 2 * clusterBudget +
      ∑ i, max 0 ((cluster.nodes i).staticBudgetW - clusterBudget / (2 * n)) := by
  obtain ⟨last, next, coordinator, left, budget, rest, here⟩ :=
    publishing_reached joined positive reported rounds prompt
  have each : ∀ i, budgets i ≤ last i + next i - clusterBudget / (2 * n) +
      max 0 ((cluster.nodes i).staticBudgetW - clusterBudget / (2 * n)) := fun i => by
    have nonneg : 0 ≤ clusterBudget / (2 * n) :=
      div_nonneg positive.le (mul_nonneg two_pos.le (Nat.cast_nonneg n))
    have floorLast := here.lastSplit.floor i
    have floorNext := here.nextSplit.floor i
    have above := le_max_right 0 ((cluster.nodes i).staticBudgetW - clusterBudget / (2 * n))
    have atLeast := le_max_left 0 ((cluster.nodes i).staticBudgetW - clusterBudget / (2 * n))
    have runs := inForce i
    rw [ClusterNode.budgetW_eq, Except.ok.injEq] at runs
    have static := (here.fits.same i).static
    have overhead := ((cluster.after clusterBudget (soleRounds rounds) schedule).nodes i).overhead_nonneg
    rw [← runs]
    cases stored : ((cluster.after clusterBudget (soleRounds rounds) schedule).nodes i).adopted with
    | none =>
      show ((cluster.after clusterBudget (soleRounds rounds) schedule).nodes i).staticBudgetW ≤ _
      rw [show ((cluster.after clusterBudget (soleRounds rounds) schedule).nodes i).staticBudgetW =
        (cluster.nodes i).staticBudgetW from static]
      linarith
    | some adopted =>
      rcases here.held i adopted stored with rfl | rfl
      · exact max_le (by linarith) (by linarith)
      · exact max_le (by linarith) (by linarith)
  by_cases none : n = 0
  · subst none
    rw [Fin.sum_univ_zero, Fin.sum_univ_zero, add_zero]
    exact mul_nonneg (by norm_num) positive.le
  · have sums := Finset.sum_le_sum fun i (_ : i ∈ Finset.univ) => each i
    rw [Finset.sum_add_distrib, Finset.sum_sub_distrib, Finset.sum_add_distrib, sum_floor none] at sums
    have lastTotal := here.lastSplit.total
    have nextTotal := here.nextSplit.total
    linarith

end LiveCluster

/-! ### Three nodes that keep up -/

/-- A rebalance of three kilowatts, and a tick of each of three nodes: one cannot read its budget. -/
theorem prompt_total_le_three : ∑ i : Fin 3, (if i = 2 then (1000 : ℚ) else 500) ≤ 6000 := by
  have inForce : ∀ i, ((trio.after 3000 (LiveCluster.soleRounds 1) [.thread 0, .thread 0, .thread 0,
      .thread 0, .change (.tick 0 false), .change (.tick 1 false),
      .change (.tick 2 true)]).nodes i).budgetW = .ok (if i = 2 then (1000 : ℚ) else 500) := fun i =>
    ok_of_toOption (by revert i; decide +kernel)
  have settled : trio.Settled := by
    intro i
    rfl
  have reported : ∀ state ∈ trio.store.getAll, ∃ i, (trio.nodes i).ReportedAs state := by
    intro state member
    have listed : trio.store.getAll = [ClusterCoordinator.nodeReport "node0" "d0" 0,
        ClusterCoordinator.nodeReport "node1" "d0" 0, ClusterCoordinator.nodeReport "node2" "d0" 0] := rfl
    rw [listed] at member
    simp only [List.mem_cons, List.not_mem_nil, or_false] at member
    rcases member with rfl | rfl | rfl
    · exact ⟨0, rfl, rfl⟩
    · exact ⟨1, rfl, rfl⟩
    · exact ⟨2, rfl, rfl⟩
  have bounded := LiveCluster.prompt_total_le trio joined_trio (by norm_num) reported 1 (by
    refine along_cons.mpr ⟨fun _ _ => settled, along_cons.mpr ⟨fun _ reads => (by cases reads),
      along_cons.mpr ⟨fun _ reads => (by cases reads), along_cons.mpr ⟨fun _ reads => (by cases reads),
      along_cons.mpr ⟨fun own => (by cases own), along_cons.mpr ⟨fun own => (by cases own),
      along_cons.mpr ⟨fun own => (by cases own), along_nil⟩⟩⟩⟩⟩⟩⟩) inForce
  refine bounded.trans ?_
  decide +kernel

end Opendps.Controller
