/-
**The node-state stores, in memory and in Redis.**

`NodeStateStore` is the protocol the coordinator and the controllers talk to; `InMemoryStore` and
`RedisStore` implement it. The Redis one keeps states and budgets in one map of texts: a state under
its node id, a budget under the node id and the domain name joined by a colon.

A client is the map of keys and texts; connecting and expiry are left out. Texts are read and written by
a `Codec` and by `float`, of which `TextsRoundTrip` is all that results use.
-/

import Opendps.Controller.ClusterCoordinator
import Opendps.Lib.Json
import Opendps.Lib.Run

namespace Opendps.Controller

open Opendps.Lib

/-! ### The protocol -/

/-- What a store offers. -/
structure NodeStateStore (σ : Type) where
  init : σ
  publish : σ → NodeState → σ
  getAll : σ → Except PyError (List NodeState)
  setAdoptedBudget : σ → String → String → ℚ → σ
  getAdoptedBudget : σ → String → String → Except PyError (Option ℚ)

/-- One write to a store. -/
inductive StoreOperation where
  | publish (state : NodeState)
  | setAdoptedBudget (nodeId domainName : String) (budgetW : ℚ)

namespace NodeStateStore

variable {σ τ : Type}

def apply (protocol : NodeStateStore σ) (store : σ) : StoreOperation → σ
  | .publish state => protocol.publish store state
  | .setAdoptedBudget nodeId domainName budgetW =>
    protocol.setAdoptedBudget store nodeId domainName budgetW

/-- The store after a sequence of operations. -/
def run (protocol : NodeStateStore σ) (operations : List StoreOperation) : σ :=
  Lib.run protocol.apply protocol.init operations

/-- After the same operations both stores return the same set of states, and the same budget for every
node and domain. -/
def Agrees (first : NodeStateStore σ) (second : NodeStateStore τ)
    (operations : List StoreOperation) : Prop :=
  (∃ states others, first.getAll (first.run operations) = .ok states ∧
    second.getAll (second.run operations) = .ok others ∧ ∀ state, state ∈ states ↔ state ∈ others) ∧
  ∀ nodeId domainName, first.getAdoptedBudget (first.run operations) nodeId domainName =
    second.getAdoptedBudget (second.run operations) nodeId domainName

end NodeStateStore

def inMemoryStore : NodeStateStore InMemoryStore where
  init := .init
  publish := InMemoryStore.publish
  getAll store := .ok store.getAll
  setAdoptedBudget := InMemoryStore.setAdoptedBudget
  getAdoptedBudget store nodeId domainName := .ok (store.getAdoptedBudget nodeId domainName)

/-! ### A node state as a dictionary -/

namespace NodeState

def fields (state : NodeState) : List (String × Json) :=
  [("node_id", .str state.nodeId), ("domain_name", .str state.domainName),
    ("draw_w", .float (.finite state.drawW)), ("cap_w", .float (.finite state.capW)),
    ("budget_w", .float (.finite state.budgetW)), ("ts", .float (.finite state.ts))]

/-- `dataclasses.asdict(state)`. -/
def asdict (state : NodeState) : Json := .object state.fields

def fieldNames : List String := ["node_id", "domain_name", "draw_w", "cap_w", "budget_w", "ts"]

/-- A number of a dictionary. -/
def number : Json → Option ℚ
  | .int value => some value
  | .float (.finite value) => some value
  | _ => none

/-- `NodeState(**d)`. The constructor takes any value for a field; one that is not a text or a number
where the annotations have one has no counterpart here and counts as an error. -/
def ofDict : Json → Except PyError NodeState
  | .obj items =>
    match items.find? fun item => item.1 ∉ fieldNames with
    | some item => .error (.typeError
        ("NodeState.__init__() got an unexpected keyword argument '" ++ item.1 ++ "'"))
    | none =>
      let d : Json := .obj items
      match d.get? "node_id", d.get? "domain_name", (d.get? "draw_w").bind number,
          (d.get? "cap_w").bind number, (d.get? "budget_w").bind number, (d.get? "ts").bind number with
      | some (.str nodeId), some (.str domainName), some drawW, some capW, some budgetW, some ts =>
        .ok { nodeId := nodeId, domainName := domainName, drawW := drawW, capW := capW,
              budgetW := budgetW, ts := ts }
      | _, _, _, _, _, _ => .error (.typeError "NodeState.__init__() missing required arguments")
  | _ => .error (.typeError "argument after ** must be a mapping")

end NodeState

/-! ### Redis -/

/-- The store, by what its client holds. -/
structure RedisStore where
  client : Dict String String := .empty

namespace RedisStore

def nodeKeys : String := "opendps:node:"

def budgetKeys : String := "opendps:budget:"

def nodeKey (nodeId : String) : String := nodeKeys ++ nodeId

def budgetKey (nodeId domainName : String) : String := budgetKeys ++ nodeId ++ ":" ++ domainName

def setex (store : RedisStore) (key text : String) : RedisStore :=
  { client := store.client.set key text }

/-- `client.keys(start + "*")`. -/
def scan (store : RedisStore) (start : String) : List String :=
  store.client.keys.filter fun key => start.toList.isPrefixOf key.toList

section Texts

variable (codec : Codec) (float : String → Except PyError ℚ)

def publish (store : RedisStore) (state : NodeState) : RedisStore :=
  store.setex (nodeKey state.nodeId) (codec.dumps state.asdict)

/-- The state under a key; a missing or empty text is skipped. -/
def readState (store : RedisStore) (key : String) : Except PyError (Option NodeState) :=
  match store.client.get? key with
  | none => .ok none
  | some raw =>
    if raw = "" then .ok none
    else do
      let d ← codec.loads raw
      let state ← NodeState.ofDict d
      pure (some state)

def readStates (store : RedisStore) : List String → Except PyError (List NodeState)
  | [] => .ok []
  | key :: rest => do
    let found ← store.readState codec key
    let states ← store.readStates rest
    pure (found.toList ++ states)

def getAll (store : RedisStore) : Except PyError (List NodeState) :=
  store.readStates codec (store.scan nodeKeys)

def setAdoptedBudget (store : RedisStore) (nodeId domainName : String) (budgetW : ℚ) : RedisStore :=
  store.setex (budgetKey nodeId domainName) (codec.str (.float (.finite budgetW)))

def getAdoptedBudget (store : RedisStore) (nodeId domainName : String) :
    Except PyError (Option ℚ) :=
  match store.client.get? (budgetKey nodeId domainName) with
  | none => .ok none
  | some raw => if raw = "" then .ok none else (float raw).map some

end Texts

end RedisStore

def redisStore (codec : Codec) (float : String → Except PyError ℚ) : NodeStateStore RedisStore where
  init := {}
  publish := RedisStore.publish codec
  getAll := RedisStore.getAll codec
  setAdoptedBudget := RedisStore.setAdoptedBudget codec
  getAdoptedBudget := RedisStore.getAdoptedBudget float

/-- The texts of the operations are read back as what was written, and an empty text is not read. -/
structure TextsRoundTrip (codec : Codec) (float : String → Except PyError ℚ)
    (operations : List StoreOperation) : Prop where
  noJson : ∃ exc, codec.loads "" = .error exc
  noFloat : ∃ exc, float "" = .error exc
  state : ∀ state, .publish state ∈ operations → codec.RoundTrips state.asdict
  number : ∀ nodeId domainName budgetW, .setAdoptedBudget nodeId domainName budgetW ∈ operations →
    float (codec.str (.float (.finite budgetW))) = .ok budgetW

/-! ### Reading back -/

/-- The dictionary of a state gives the state. -/
theorem NodeState.ofDict_asdict (state : NodeState) : NodeState.ofDict state.asdict = .ok state := by
  have names : state.fields.map Prod.fst = fieldNames := rfl
  have field : ∀ key value, (key, value) ∈ state.fields → state.asdict.get? key = some value :=
    fun key value member => Json.get?_object (by rw [names]; decide) member
  have expected : ∀ item ∈ state.fields.insertionSort fun first second => first.1 ≤ second.1,
      ¬ decide (item.1 ∉ fieldNames) = true := by
    intro item member
    have listed : item.1 ∈ state.fields.map Prod.fst :=
      List.mem_map_of_mem ((List.perm_insertionSort _ _).mem_iff.mp member)
    rw [decide_eq_true_eq, not_not]
    exact listed
  unfold asdict Json.object at *
  simp only [ofDict, List.find?_eq_none.mpr expected]
  rw [field "node_id" (.str state.nodeId) (by simp [fields]),
    field "domain_name" (.str state.domainName) (by simp [fields]),
    field "draw_w" (.float (.finite state.drawW)) (by simp [fields]),
    field "cap_w" (.float (.finite state.capW)) (by simp [fields]),
    field "budget_w" (.float (.finite state.budgetW)) (by simp [fields]),
    field "ts" (.float (.finite state.ts)) (by simp [fields])]
  rfl

end Opendps.Controller
