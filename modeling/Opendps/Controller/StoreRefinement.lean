/-
**Redis as the in-memory store under encoded keys.**

Both stores keep the last write, so the Redis client holds what the in-memory store holds, under the code
of each key (`client_run`). The code of a node id is its own, so `get_all` reads the same states
(`getAll_redis`). The code of a budget is not: `("a:b", "c")` and `("a", "b:c")` share one.

`redis_refines_iff` states this over every sequence of operations: the stores agree exactly when pairs
that share a code were last given the same budget. Names without colons never share one
(`budgetsApart_of_clean`).
-/

import Opendps.Controller.RedisStore
import Opendps.Lib.Encoding

namespace Opendps.Controller

open Opendps.Lib

/-! ### What is filed under which key -/

/-- What a text is filed under: a node, or a node and a domain. -/
inductive StoreKey where
  | node (nodeId : String)
  | budget (nodeId domainName : String)
  deriving DecidableEq

def StoreKey.encode : StoreKey → String
  | .node nodeId => RedisStore.nodeKey nodeId
  | .budget nodeId domainName => RedisStore.budgetKey nodeId domainName

/-- The key and the text of an operation. -/
def StoreOperation.write (codec : Codec) : StoreOperation → StoreKey × String
  | .publish state => (.node state.nodeId, codec.dumps state.asdict)
  | .setAdoptedBudget nodeId domainName budgetW =>
    (.budget nodeId domainName, codec.str (.float (.finite budgetW)))

/-- A node id shares its code with no other key. -/
theorem StoreKey.eq_node_of_encode {key : StoreKey} {nodeId : String}
    (sameCode : key.encode = RedisStore.nodeKey nodeId) : key = .node nodeId := by
  cases key with
  | node other =>
    rw [(String.append_right_inj _).mp sameCode]
  | budget other domainName =>
    have texts := congrArg String.toList sameCode
    simp [encode, RedisStore.budgetKey, RedisStore.nodeKey, RedisStore.nodeKeys,
      RedisStore.budgetKeys] at texts

/-- The texts of the operations, each under the key of its last write. -/
def texts (codec : Codec) (operations : List StoreOperation) : Dict StoreKey String :=
  .ofList (operations.map (StoreOperation.write codec))

theorem texts_append_singleton (codec : Codec) (operations : List StoreOperation)
    (operation : StoreOperation) :
    texts codec (operations ++ [operation]) =
      (texts codec operations).set (operation.write codec).1 (operation.write codec).2 := by
  rw [texts, List.map_append, List.map_singleton, Dict.ofList_append_singleton]
  rfl

/-- The client holds the same writes under the codes of their keys. -/
theorem client_run (codec : Codec) (float : String → Except PyError ℚ)
    (operations : List StoreOperation) :
    ((redisStore codec float).run operations).client =
      .encoded StoreKey.encode (operations.map (StoreOperation.write codec)) := by
  refine run_invariant (fun past (store : RedisStore) =>
    store.client = .encoded StoreKey.encode (past.map (StoreOperation.write codec))) rfl ?_ operations
  intro past operation store held
  rw [List.map_append, List.map_singleton, Dict.encoded_append_singleton, ← held]
  cases operation <;> rfl

/-- Under a node id stands the text of the state the in-memory store has there. -/
theorem get?_texts_node (codec : Codec) (operations : List StoreOperation) (nodeId : String) :
    (texts codec operations).get? (.node nodeId) =
      ((inMemoryStore.run operations).states.get? nodeId).map fun state =>
        codec.dumps state.asdict := by
  refine run_invariant (fun past (store : InMemoryStore) =>
    (texts codec past).get? (.node nodeId) =
      (store.states.get? nodeId).map fun state => codec.dumps state.asdict) rfl ?_ operations
  intro past operation store held
  rw [texts_append_singleton]
  cases operation with
  | publish state =>
    show ((texts codec past).set (.node state.nodeId) (codec.dumps state.asdict)).get? _ =
      ((store.states.set state.nodeId state).get? nodeId).map _
    rw [Dict.get?_set, Dict.get?_set]
    by_cases same : nodeId = state.nodeId
    · rw [if_pos same, if_pos (congrArg StoreKey.node same)]
      rfl
    · rw [if_neg same, if_neg fun equal => same (StoreKey.node.inj equal)]
      exact held
  | setAdoptedBudget node domain budgetW =>
    have other : StoreKey.node nodeId ≠ .budget node domain := nofun
    exact (Dict.get?_set_of_ne _ _ other).trans held

/-- Under a node and a domain stands the text of the budget the in-memory store has there. -/
theorem get?_texts_budget (codec : Codec) (operations : List StoreOperation)
    (nodeId domainName : String) :
    (texts codec operations).get? (.budget nodeId domainName) =
      ((inMemoryStore.run operations).getAdoptedBudget nodeId domainName).map fun budgetW =>
        codec.str (.float (.finite budgetW)) := by
  refine run_invariant (fun past (store : InMemoryStore) =>
    (texts codec past).get? (.budget nodeId domainName) =
      (store.getAdoptedBudget nodeId domainName).map fun budgetW =>
        codec.str (.float (.finite budgetW))) rfl ?_ operations
  intro past operation store held
  rw [texts_append_singleton]
  cases operation with
  | publish state =>
    have other : StoreKey.budget nodeId domainName ≠ .node state.nodeId := nofun
    exact (Dict.get?_set_of_ne _ _ other).trans held
  | setAdoptedBudget node domain budgetW =>
    show ((texts codec past).set (.budget node domain)
        (codec.str (.float (.finite budgetW)))).get? _ =
      ((store.adopted.set (node, domain) budgetW).get? (nodeId, domainName)).map _
    rw [Dict.get?_set, Dict.get?_set]
    by_cases same : nodeId = node ∧ domainName = domain
    · obtain ⟨rfl, rfl⟩ := same
      rw [if_pos rfl, if_pos rfl]
      rfl
    · rw [if_neg fun equal => same (StoreKey.budget.inj equal),
        if_neg fun equal => same (Prod.mk.inj equal)]
      exact held

/-- What the in-memory store holds was written to it. -/
structure Written (operations : List StoreOperation) (store : InMemoryStore) : Prop where
  states : ∀ nodeId state, store.states.get? nodeId = some state → .publish state ∈ operations
  budgets : ∀ nodeId domainName budgetW,
    store.getAdoptedBudget nodeId domainName = some budgetW →
      .setAdoptedBudget nodeId domainName budgetW ∈ operations

theorem written_of_run (operations : List StoreOperation) :
    Written operations (inMemoryStore.run operations) := by
  have empty : Written [] .init :=
    ⟨fun _ _ found => (nomatch found), fun _ _ _ found => (nomatch found)⟩
  refine run_invariant Written empty ?_ operations
  intro past operation store held
  refine ⟨fun nodeId state found => ?_, fun nodeId domainName budgetW found => ?_⟩
  · rw [List.mem_append, List.mem_singleton]
    cases operation with
    | publish latest =>
      have stored : (store.states.set latest.nodeId latest).get? nodeId = some state := found
      rw [Dict.get?_set] at stored
      split at stored
      · cases stored
        exact .inr rfl
      · exact .inl (held.states nodeId state stored)
    | setAdoptedBudget node domain latest => exact .inl (held.states nodeId state found)
  · rw [List.mem_append, List.mem_singleton]
    cases operation with
    | publish latest => exact .inl (held.budgets nodeId domainName budgetW found)
    | setAdoptedBudget node domain latest =>
      have stored : (store.adopted.set (node, domain) latest).get? (nodeId, domainName) =
        some budgetW := found
      rw [Dict.get?_set] at stored
      split at stored
      · next same =>
        cases stored
        cases same
        exact .inr rfl
      · exact .inl (held.budgets nodeId domainName budgetW stored)

/-! ### What the Redis store answers -/

section Answers

variable {codec : Codec} {float : String → Except PyError ℚ} {operations : List StoreOperation}

/-- A text that is read back is not empty. -/
theorem ne_empty_of_read {α : Type} {read : String → Except PyError α} {text : String} {value : α}
    (noText : ∃ exc, read "" = .error exc) (reads : read text = .ok value) : text ≠ "" := by
  rintro rfl
  obtain ⟨exc, raises⟩ := noText
  rw [raises] at reads
  cases reads

/-- Under the code of a node id stands the text of the state the in-memory store has there. -/
theorem client_nodeKey (nodeId : String) :
    ((redisStore codec float).run operations).client.get? (RedisStore.nodeKey nodeId) =
      ((inMemoryStore.run operations).states.get? nodeId).map fun state =>
        codec.dumps state.asdict := by
  have alike : ∀ other : StoreKey, other.encode = (StoreKey.node nodeId).encode →
      (texts codec operations).get? other = (texts codec operations).get? (.node nodeId) :=
    fun other sameCode => by rw [StoreKey.eq_node_of_encode sameCode]
  rw [client_run, ← get?_texts_node]
  exact Dict.get?_encoded_of_alike alike

/-- Under the code of a node id the Redis store reads the state the in-memory store has. -/
theorem readState_nodeKey (readable : TextsRoundTrip codec float operations) (nodeId : String) :
    ((redisStore codec float).run operations).readState codec (RedisStore.nodeKey nodeId) =
      .ok ((inMemoryStore.run operations).states.get? nodeId) := by
  rw [RedisStore.readState, client_nodeKey]
  cases found : (inMemoryStore.run operations).states.get? nodeId with
  | none => rfl
  | some state =>
    have reads := readable.state state ((written_of_run operations).states nodeId state found)
    have nonempty := ne_empty_of_read readable.noJson reads
    rw [Codec.RoundTrips] at reads
    simp only [Option.map_some, nonempty, if_false, reads, NodeState.ofDict_asdict, bind, Except.bind]
    rfl

/-- The scan finds the codes of the nodes the in-memory store has a state of. -/
theorem mem_scan {key : String} :
    key ∈ ((redisStore codec float).run operations).scan RedisStore.nodeKeys ↔
      ∃ nodeId state, (inMemoryStore.run operations).states.get? nodeId = some state ∧
        RedisStore.nodeKey nodeId = key := by
  rw [RedisStore.scan, List.mem_filter, List.isPrefixOf_iff_prefix, Dict.mem_keys_iff]
  constructor
  · rintro ⟨⟨raw, stored⟩, rest, split⟩
    have named : RedisStore.nodeKey (String.ofList rest) = key := by
      rw [← String.toList_inj, RedisStore.nodeKey, String.toList_append, String.toList_ofList, split]
    rw [← named, client_nodeKey, Option.map_eq_some_iff] at stored
    obtain ⟨state, found, _⟩ := stored
    exact ⟨_, state, found, named⟩
  · rintro ⟨nodeId, state, found, rfl⟩
    refine ⟨⟨codec.dumps state.asdict, ?_⟩, nodeId.toList, ?_⟩
    · rw [client_nodeKey, found]
      rfl
    · rw [RedisStore.nodeKey, String.toList_append]

/-- A walk over keys that each hold a state returns those states. -/
theorem readStates_ok {store : RedisStore} {keys : List String}
    (reads : ∀ key ∈ keys, ∃ state, store.readState codec key = .ok (some state)) :
    ∃ states, store.readStates codec keys = .ok states ∧
      ∀ state, state ∈ states ↔ ∃ key ∈ keys, store.readState codec key = .ok (some state) := by
  induction keys with
  | nil => exact ⟨[], rfl, by simp⟩
  | cons key rest ih =>
    obtain ⟨first, here⟩ := reads key List.mem_cons_self
    obtain ⟨states, later, listed⟩ := ih fun other member => reads other (List.mem_cons_of_mem _ member)
    refine ⟨first :: states, ?_, fun state => ?_⟩
    · rw [RedisStore.readStates, here, later]
      rfl
    · rw [List.mem_cons, listed, List.exists_mem_cons_iff, here, Except.ok.injEq, Option.some.injEq,
        eq_comm]

/-- `get_all` reads the states the in-memory store has. -/
theorem getAll_redis (readable : TextsRoundTrip codec float operations) :
    ∃ states, ((redisStore codec float).run operations).getAll codec = .ok states ∧
      ∀ state, state ∈ states ↔ state ∈ (inMemoryStore.run operations).getAll := by
  have reads : ∀ key ∈ ((redisStore codec float).run operations).scan RedisStore.nodeKeys,
      ∃ state, ((redisStore codec float).run operations).readState codec key = .ok (some state) := by
    intro key scanned
    obtain ⟨nodeId, state, found, rfl⟩ := mem_scan.mp scanned
    exact ⟨state, by rw [readState_nodeKey readable, found]⟩
  obtain ⟨states, returned, listed⟩ := readStates_ok reads
  refine ⟨states, returned, fun state => (listed state).trans ⟨?_, fun member => ?_⟩⟩
  · rintro ⟨key, scanned, here⟩
    obtain ⟨nodeId, stored, found, rfl⟩ := mem_scan.mp scanned
    rw [readState_nodeKey readable, Except.ok.injEq] at here
    rw [InMemoryStore.mem_getAll, (inMemoryStore.run operations).keyed nodeId state here]
    exact here
  · have found := InMemoryStore.mem_getAll.mp member
    exact ⟨_, mem_scan.mpr ⟨_, state, found, rfl⟩, by rw [readState_nodeKey readable, found]⟩

/-- A budget that stands under the code of a pair is the answer for that pair. -/
theorem getAdoptedBudget_redis (readable : TextsRoundTrip codec float operations)
    {nodeId domainName node domain : String}
    (stands : ((redisStore codec float).run operations).client.get?
      (RedisStore.budgetKey nodeId domainName) = (texts codec operations).get? (.budget node domain)) :
    ((redisStore codec float).run operations).getAdoptedBudget float nodeId domainName =
      .ok ((inMemoryStore.run operations).getAdoptedBudget node domain) := by
  rw [RedisStore.getAdoptedBudget, stands, get?_texts_budget]
  cases found : (inMemoryStore.run operations).getAdoptedBudget node domain with
  | none => rfl
  | some budgetW =>
    have reads := readable.number node domain budgetW
      ((written_of_run operations).budgets node domain budgetW found)
    have nonempty := ne_empty_of_read readable.noFloat reads
    simp only [Option.map_some, nonempty, if_false, reads]
    rfl

/-! ### When the budgets are kept apart -/

/-- The budget the operations gave a node and a domain last. -/
def lastBudget (operations : List StoreOperation) (nodeId domainName : String) : Option ℚ :=
  operations.foldl (fun last operation => match operation with
    | .publish _ => last
    | .setAdoptedBudget node domain budgetW =>
      if nodeId = node ∧ domainName = domain then some budgetW else last) none

theorem getAdoptedBudget_run (operations : List StoreOperation) (nodeId domainName : String) :
    (inMemoryStore.run operations).getAdoptedBudget nodeId domainName =
      lastBudget operations nodeId domainName := by
  refine run_invariant (fun past (store : InMemoryStore) =>
    store.getAdoptedBudget nodeId domainName = lastBudget past nodeId domainName) rfl ?_ operations
  intro past operation store held
  rw [lastBudget, List.foldl_append]
  cases operation with
  | publish state => exact held
  | setAdoptedBudget node domain budgetW =>
    show (store.adopted.set (node, domain) budgetW).get? (nodeId, domainName) =
      if nodeId = node ∧ domainName = domain then some budgetW
      else lastBudget past nodeId domainName
    rw [Dict.get?_set, ← held]
    simp only [Prod.mk.injEq]
    rfl

/-- Any two pairs whose texts, joined by a colon, coincide were last given the same budget, or neither
was given one. -/
def BudgetsApart (operations : List StoreOperation) : Prop :=
  ∀ nodeId domainName node domain, nodeId ++ ":" ++ domainName = node ++ ":" ++ domain →
    lastBudget operations nodeId domainName = lastBudget operations node domain

theorem budgetKey_inj {nodeId domainName node domain : String} :
    RedisStore.budgetKey nodeId domainName = RedisStore.budgetKey node domain ↔
      nodeId ++ ":" ++ domainName = node ++ ":" ++ domain := by
  have split : ∀ first second, RedisStore.budgetKey first second =
      RedisStore.budgetKeys ++ (first ++ ":" ++ second) := fun first second => by
    simp only [RedisStore.budgetKey, String.append_assoc]
  rw [split, split, String.append_right_inj]

/-- **Redis refines the in-memory store, exactly.** After every sequence of operations whose texts
round-trip, both stores return the same states, and the same budget for every node and domain if and
only if the budgets are kept apart. -/
theorem redis_refines_iff (readable : TextsRoundTrip codec float operations) :
    (redisStore codec float).Agrees inMemoryStore operations ↔ BudgetsApart operations := by
  constructor
  · rintro ⟨_, budgets⟩ nodeId domainName node domain sameText
    have sameAnswer :
        ((redisStore codec float).run operations).getAdoptedBudget float nodeId domainName =
          ((redisStore codec float).run operations).getAdoptedBudget float node domain := by
      unfold RedisStore.getAdoptedBudget
      rw [budgetKey_inj.mpr sameText]
    have sameBudget := (budgets nodeId domainName).symm.trans
      (sameAnswer.trans (budgets node domain))
    rw [← getAdoptedBudget_run, ← getAdoptedBudget_run]
    exact Except.ok.inj sameBudget
  · intro apart
    obtain ⟨states, returned, listed⟩ := getAll_redis readable
    refine ⟨⟨states, _, returned, rfl, listed⟩, fun nodeId domainName => ?_⟩
    have alike : ∀ other : StoreKey, other.encode = (StoreKey.budget nodeId domainName).encode →
        (texts codec operations).get? other =
          (texts codec operations).get? (.budget nodeId domainName) := by
      intro other sameCode
      cases other with
      | node node => cases StoreKey.eq_node_of_encode sameCode.symm
      | budget node domain =>
        rw [get?_texts_budget, get?_texts_budget, getAdoptedBudget_run, getAdoptedBudget_run,
          apart _ _ _ _ (budgetKey_inj.mp sameCode)]
    refine getAdoptedBudget_redis readable ?_
    rw [client_run]
    exact Dict.get?_encoded_of_alike alike

end Answers

/-- A text without colons on both sides of one is split there only. -/
theorem eq_of_join_eq {first second : List Char} (firstClean : ':' ∉ first)
    (secondClean : ':' ∉ second) {other rest : List Char}
    (same : first ++ ':' :: second = other ++ ':' :: rest) : first = other ∧ second = rest := by
  induction first generalizing other with
  | nil =>
    cases other with
    | nil => exact ⟨rfl, (List.cons.inj same).2⟩
    | cons c other =>
      refine absurd ?_ secondClean
      rw [(List.cons.inj same).2]
      exact List.mem_append_right _ List.mem_cons_self
  | cons c first ih =>
    cases other with
    | nil => exact absurd ((List.cons.inj same).1 ▸ List.mem_cons_self) firstClean
    | cons d other =>
      obtain ⟨rfl, tails⟩ := List.cons.inj same
      obtain ⟨rfl, rfl⟩ := ih (fun member => firstClean (List.mem_cons_of_mem _ member)) tails
      exact ⟨rfl, rfl⟩

/-- Budgets of nodes and domains without a colon in their names are kept apart. -/
theorem budgetsApart_of_clean {operations : List StoreOperation}
    (clean : ∀ nodeId domainName budgetW,
      .setAdoptedBudget nodeId domainName budgetW ∈ operations →
        ':' ∉ nodeId.toList ∧ ':' ∉ domainName.toList) : BudgetsApart operations := by
  have unique : ∀ nodeId domainName node domain budgetW,
      nodeId ++ ":" ++ domainName = node ++ ":" ++ domain →
        lastBudget operations nodeId domainName = some budgetW → nodeId = node ∧ domainName = domain := by
    intro nodeId domainName node domain budgetW sameText given
    rw [← getAdoptedBudget_run] at given
    obtain ⟨nodeClean, domainClean⟩ :=
      clean nodeId domainName budgetW ((written_of_run operations).budgets _ _ _ given)
    have chars := congrArg String.toList sameText
    simp only [String.toList_append, List.append_assoc] at chars
    obtain ⟨sameNode, sameDomain⟩ := eq_of_join_eq nodeClean domainClean chars
    exact ⟨String.toList_inj.mp sameNode, String.toList_inj.mp sameDomain⟩
  intro nodeId domainName node domain sameText
  cases first : lastBudget operations nodeId domainName with
  | some budgetW =>
    obtain ⟨rfl, rfl⟩ := unique _ _ _ _ _ sameText first
    exact first.symm
  | none =>
    cases second : lastBudget operations node domain with
    | none => rfl
    | some budgetW =>
      obtain ⟨rfl, rfl⟩ := unique _ _ _ _ _ sameText.symm second
      exact first.symm.trans second

/-! ### Two pairs under one key

Domain `c` of node `a:b` is given 1000 W, then domain `b:c` of node `a` 2000 W. -/

def sampleState : NodeState := ⟨"node0", "d0", 6000, 6000, 8000, 0⟩

def sampleText : String :=
  "\x7b\"node_id\": \"node0\", \"domain_name\": \"d0\", \"draw_w\": 6000.0, " ++
    "\"cap_w\": 6000.0, \"budget_w\": 8000.0, \"ts\": 0.0\x7d"

/-- The JSON text of the sample state, and the texts of 1000.0 and 2000.0. -/
def sampleCodec : Codec where
  dumps _ := sampleText
  loads text :=
    if text = sampleText then .ok sampleState.asdict
    else .error (.jsonDecodeError "Expecting value: line 1 column 1 (char 0)")
  repr
    | .float (.finite watts) => if watts = 1000 then "1000.0" else "2000.0"
    | _ => ""

def sampleFloat (text : String) : Except PyError ℚ :=
  if text = "1000.0" then .ok 1000
  else if text = "2000.0" then .ok 2000
  else .error (.valueError ("could not convert string to float: '" ++ text ++ "'"))

def collidingOperations : List StoreOperation :=
  [.publish sampleState, .setAdoptedBudget "a:b" "c" 1000, .setAdoptedBudget "a" "b:c" 2000]

theorem readable_colliding : TextsRoundTrip sampleCodec sampleFloat collidingOperations where
  noJson := ⟨_, rfl⟩
  noFloat := ⟨_, rfl⟩
  state state member := by
    have published : state = sampleState := by simpa [collidingOperations] using member
    rw [published]
    simp [Codec.RoundTrips, sampleCodec]
  number nodeId domainName budgetW member := by
    have given : budgetW = 1000 ∨ budgetW = 2000 := by
      simp only [collidingOperations, List.mem_cons, List.not_mem_nil, or_false, reduceCtorEq,
        false_or, StoreOperation.setAdoptedBudget.injEq] at member
      exact member.imp (·.2.2) (·.2.2)
    rcases given with rfl | rfl <;> exact ok_of_toOption (by decide +kernel)

/-- The texts round-trip, and the Redis store answers 2000 W for node `a:b` and domain `c`, where the
in-memory store answers 1000 W. -/
theorem redis_loses_budget :
    TextsRoundTrip sampleCodec sampleFloat collidingOperations ∧
      ((redisStore sampleCodec sampleFloat).run collidingOperations).getAdoptedBudget sampleFloat
        "a:b" "c" = .ok (some 2000) ∧
      (inMemoryStore.run collidingOperations).getAdoptedBudget "a:b" "c" = some 1000 ∧
      ¬ (redisStore sampleCodec sampleFloat).Agrees inMemoryStore collidingOperations := by
  have redis : ((redisStore sampleCodec sampleFloat).run collidingOperations).getAdoptedBudget
      sampleFloat "a:b" "c" = .ok (some 2000) := ok_of_toOption (by decide +kernel)
  have memory : (inMemoryStore.run collidingOperations).getAdoptedBudget "a:b" "c" = some 1000 := by
    decide +kernel
  refine ⟨readable_colliding, redis, memory, fun agrees => ?_⟩
  have same : ((redisStore sampleCodec sampleFloat).run collidingOperations).getAdoptedBudget
      sampleFloat "a:b" "c" =
        .ok ((inMemoryStore.run collidingOperations).getAdoptedBudget "a:b" "c") := agrees.2 "a:b" "c"
  rw [redis, memory] at same
  cases same

/-- The equivalence at those operations: both pairs read `a:b:c`. -/
theorem redis_refines_iff_colliding :
    (redisStore sampleCodec sampleFloat).Agrees inMemoryStore collidingOperations ↔
      BudgetsApart collidingOperations :=
  redis_refines_iff readable_colliding

end Opendps.Controller
