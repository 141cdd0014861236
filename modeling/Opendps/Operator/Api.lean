/-
**One namespace as the operator sees it.**

`World` holds what the API server stores for a namespace (the boost registry, which is one ConfigMap
with a resource version, the Pods and the JobPowerPolicies) and what the operator process keeps
between handlers (the Pod digests and the cached policy selectors). `Request` lists the calls the
handlers make and `handle` says what each does:

* a read returns the data with its resource version, or 404;
* a create fails with 409 when the object exists;
* a replace fails with 409 unless it carries the current resource version, and gives the object a
  version no object had before.

How the server matches a label selector against labels is a parameter.
-/

import Opendps.Lib.Dict
import Opendps.Lib.Json
import Opendps.Lib.Prog

namespace Opendps.Operator

open Opendps.Lib

/-- A Pod, as far as the operator reads it. -/
structure Pod where
  uid : Option String
  labels : Dict String String
  annotations : Dict String String
  nodeName : Option String

/-- The `spec` of a JobPowerPolicy. -/
structure PolicySpec where
  matchLabels : Dict String String := .empty
  gpuBoostPct : PyFloat := .finite 15
  priorityClass : String := "normal"

/-- A JobPowerPolicy object. -/
structure JobPowerPolicy where
  name : String
  uid : String := ""
  generation : ℤ := 0
  spec : PolicySpec

structure ConfigMap where
  data : Dict String String
  resourceVersion : ℕ

structure ApiException where
  status : ℕ
  text : String

/-- How a list of Pods fails: the server answers with an error, or there is no answer. -/
inductive PodListFailure where
  | api (exc : ApiException)
  | connection (text : String)

/-- The assignment-relevant part of a Pod: the annotation, the sorted labels, the node. -/
structure PodDigest where
  annotation : Option String
  labels : List (String × String)
  nodeName : Option String
  deriving DecidableEq

structure CachedDigest where
  digest : PodDigest
  relevant : Bool
  deriving DecidableEq

/-- The sorted items of a policy's selector. -/
abbrev Selector := List (String × String)

structure World where
  registry : Option ConfigMap
  revision : ℕ
  pods : Dict String Pod
  policies : List JobPowerPolicy
  digests : Dict String CachedDigest := .empty
  selectors : Option (List Selector) := none
  fresh : ∀ configMap, registry = some configMap → configMap.resourceVersion ≤ revision

/-- Where there is no registry yet, none is ahead of the revision. -/
theorem fresh_empty : ∀ configMap : ConfigMap, none = some configMap →
    configMap.resourceVersion ≤ 0 := nofun

inductive Request where
  | readRegistry
  | createRegistry (data : Dict String String)
  | replaceRegistry (data : Dict String String) (resourceVersion : ℕ)
  | listPods (labelSelector : Option String)
  | listPolicies
  | getDigest (podUid : String)
  | setDigest (podUid : String) (cached : CachedDigest)
  | popDigest (podUid : String)
  | pruneDigests (liveUids : List String)
  | getSelectors
  | setSelectors (selectors : List Selector)

/-- The answer to each request. -/
abbrev Answer : Request → Type
  | .readRegistry => Except ApiException ConfigMap
  | .createRegistry _ => Except ApiException Unit
  | .replaceRegistry _ _ => Except ApiException Unit
  | .listPods _ => Except PodListFailure (List Pod)
  | .listPolicies => Except ApiException (List JobPowerPolicy)
  | .getDigest _ => Option CachedDigest
  | .setDigest _ _ => Unit
  | .popDigest _ => Unit
  | .pruneDigests _ => Unit
  | .getSelectors => Option (List Selector)
  | .setSelectors _ => Unit

namespace World

/-- Store the registry under the next version. -/
def writeRegistry (world : World) (data : Dict String String) : World :=
  { world with
    registry := some ⟨data, world.revision + 1⟩
    revision := world.revision + 1
    fresh := by
      intro configMap stored
      cases stored
      exact le_rfl }

/-- The data of the registry; none while it does not exist. -/
def registryData (world : World) : Dict String String :=
  (world.registry.map ConfigMap.data).getD .empty

end World

def notFound : ApiException := ⟨404, "(404)\nReason: Not Found\n"⟩

def conflict : ApiException := ⟨409, "(409)\nReason: Conflict\n"⟩

/-- What each call answers, and the world it leaves. -/
def handle (selects : String → Dict String String → Bool) :
    (request : Request) → World → Answer request × World
  | .readRegistry, world =>
    (match world.registry with
      | some configMap => .ok configMap
      | none => .error notFound, world)
  | .createRegistry data, world =>
    match world.registry with
    | some _ => (.error conflict, world)
    | none => (.ok (), world.writeRegistry data)
  | .replaceRegistry data resourceVersion, world =>
    match world.registry with
    | none => (.error notFound, world)
    | some configMap =>
      if resourceVersion = configMap.resourceVersion then (.ok (), world.writeRegistry data)
      else (.error conflict, world)
  | .listPods none, world => (.ok world.pods.values, world)
  | .listPods (some labelSelector), world =>
    (.ok (world.pods.values.filter fun pod => selects labelSelector pod.labels), world)
  | .listPolicies, world => (.ok world.policies, world)
  | .getDigest podUid, world => (world.digests.get? podUid, world)
  | .setDigest podUid cached, world =>
    ((), { world with digests := world.digests.set podUid cached })
  | .popDigest podUid, world => ((), { world with digests := world.digests.pop podUid })
  | .pruneDigests liveUids, world =>
    ((), { world with digests := (world.digests.keys.filter fun podUid =>
      decide (podUid ∉ liveUids)).foldl Dict.pop world.digests })
  | .getSelectors, world => (world.selectors, world)
  | .setSelectors selectors, world => ((), { world with selectors := some selectors })

/-- What a handler can raise. -/
inductive OperatorError where
  | temporary (message : String) (delay : ℕ)
  | api (exc : ApiException)
  | connection (text : String)
  | python (exc : PyError)

/-- A handler, or a part of one: it may raise. -/
abbrev Handler (α : Type) := Prog Answer (Except OperatorError α)

/-- Go on after a part that did not raise. -/
def andThen {α β : Type} (first : Handler α) (next : α → Handler β) : Handler β :=
  first.bind fun outcome => match outcome with
    | .ok value => next value
    | .error exc => .ret (.error exc)

end Opendps.Operator
