/-
**Pod events.**

`onPodEvent` reconciles the policies after events that matter to an assignment. It keeps, for each
Pod, a digest of what matters and whether it mattered, and passes over an event whose digest is
unchanged, or that matters neither now nor before. A periodic prune forgets the digests of Pods that
are gone.

With a fixed set of policies, whether a Pod matters is a function of its digest (`isRelevant`).
-/

import Opendps.Operator.Reconcile

namespace Opendps.Operator

open Opendps.Lib

inductive WatchEventType where
  | added
  | modified
  | deleted
  deriving DecidableEq

/-- An event of the Pod watch: what happened, and the Pod at that time. -/
structure WatchEvent where
  type : WatchEventType
  object : Pod

/-- The part of a Pod that matters to assignments. -/
def podAssignmentDigest (body : Pod) : PodDigest where
  annotation := body.annotations.get? gpuIndicesAnnotation
  labels := body.labels.sortedItems
  nodeName := body.nodeName

/-- The selectors of the policies that have labels. -/
def selectorsOf (policies : List JobPowerPolicy) : List Selector :=
  (policies.filter fun policy => !policy.spec.matchLabels.items.isEmpty).map fun policy =>
    policy.spec.matchLabels.sortedItems

/-- The selectors in the cache, or else those of the policies there are. -/
def policySelectors : Handler (List Selector) :=
  .call .getSelectors fun cached => match cached with
    | some selectors => .ret (.ok selectors)
    | none => .call .listPolicies fun listed => match listed with
      | .error exc => .ret (.error (.api exc))
      | .ok policies => .call (.setSelectors (selectorsOf policies)) fun _ =>
          .ret (.ok (selectorsOf policies))

/-- Whether labels satisfy a selector. -/
def satisfies (labels : List (String × String)) (selector : Selector) : Bool :=
  selector.all fun item => decide (labels.lookup item.1 = some item.2)

/-- Whether a Pod has the annotation, or labels that some policy selects. -/
def podMatchesAssignmentPolicy (body : Pod) : Handler Bool :=
  if ( PodDigest.annotation (podAssignmentDigest body)).isSome then .ret (.ok true)
  else if (podAssignmentDigest body).labels.isEmpty then .ret (.ok false)
  else andThen policySelectors fun selectors =>
    .ret (.ok (selectors.any (satisfies (podAssignmentDigest body).labels)))

/-- The UIDs of the Pods that have one. -/
def liveUids (pods : List Pod) : List String :=
  (pods.filterMap Pod.uid).filter fun podUid => podUid ≠ ""

/-- Forget the digests of Pods that are gone. -/
def prunePodAssignmentDigests : Handler Unit :=
  .call (.listPods none) fun listed => match listed with
    | .error (.api exc) => .ret (.error (.api exc))
    | .error (.connection text) => .ret (.error (.connection text))
    | .ok pods => .call (.pruneDigests (liveUids pods)) fun _ => .ret (.ok ())

/-- Reconcile the policies of the namespace, in the order of their names. -/
def reconcileJobPowerPoliciesForNamespace (codec : Codec) (namespaceName : String) : Handler Unit :=
  .call .listPolicies fun listed => match listed with
    | .error exc => .ret (.error (.api exc))
    | .ok policies => reconcileEach codec namespaceName
        ((sortedBy JobPowerPolicy.name policies).filter fun policy => policy.name ≠ "")

/-- The reconciles of an event, if it matters. -/
def reconcileIf (codec : Codec) (namespaceName : String) (relevant : Bool) : Handler Unit :=
  if relevant then reconcileJobPowerPoliciesForNamespace codec namespaceName else .ret (.ok ())

/-- An event of a Pod with a UID. -/
def onEventOf (codec : Codec) (namespaceName podUid : String) (event : WatchEvent) : Handler Unit :=
  .call (.getDigest podUid) fun previous =>
    if event.type = .deleted then
      (andThen (podMatchesAssignmentPolicy event.object) fun currentlyRelevant =>
        reconcileIf codec namespaceName
          (currentlyRelevant || previous.any CachedDigest.relevant)).bind fun outcome =>
            -- the digest goes, whatever the reconciles come to
            .call (.popDigest podUid) fun _ => .ret outcome
    else if previous.map CachedDigest.digest = some (podAssignmentDigest event.object) then
      .ret (.ok ())
    else andThen (podMatchesAssignmentPolicy event.object) fun relevant =>
      andThen (reconcileIf codec namespaceName
        (relevant || previous.any CachedDigest.relevant)) fun _ =>
          .call (.setDigest podUid ⟨podAssignmentDigest event.object, relevant⟩) fun _ =>
            .ret (.ok ())

/-- Re-resolve the policies after an event that matters. -/
def onPodEvent (codec : Codec) (namespaceName : String) (event : WatchEvent) : Handler Unit :=
  match event.object.uid with
  | none => .ret (.ok ())
  | some podUid =>
    if podUid = "" then .ret (.ok ()) else onEventOf codec namespaceName podUid event

/-! ### Whether an event matters -/

/-- Whether a Pod matters to one of the policies. -/
def isRelevant (policies : List JobPowerPolicy) (digest : PodDigest) : Bool :=
  digest.annotation.isSome ||
    (!digest.labels.isEmpty && (selectorsOf policies).any (satisfies digest.labels))

end Opendps.Operator
