/-
**What a policy sees of a Pod.**

The entry of a policy depends on its Pods only through what it sees of each: whether its labels
match, and then its annotation and its node (`PodView`). `entryOf_congr` says so for two collections
of Pods, whatever their order; a Pod that a policy sees matters (`isRelevant_of_view`), and what it
sees is a function of the digest (`view_congr`).
-/

import Opendps.Operator.PodEvents

namespace Opendps.Operator

open Opendps.Lib

/-- Whether a policy with labels selects a Pod. -/
def policyMatches (policy : JobPowerPolicy) (pod : Pod) : Bool :=
  !policy.spec.matchLabels.items.isEmpty &&
    satisfies pod.labels.sortedItems policy.spec.matchLabels.sortedItems

/-- The annotation and the node of a Pod that a policy selects. -/
structure PodView where
  annotation : Option String
  nodeName : Option String
  deriving DecidableEq

/-- What a policy sees of a Pod. -/
def viewOf (policy : JobPowerPolicy) (pod : Pod) : Option PodView :=
  if policyMatches policy pod then
    some ⟨pod.annotations.get? gpuIndicesAnnotation, pod.nodeName⟩
  else none

/-- The server matches the selector of a policy the way the labels are compared here. -/
def SelectsAlike (selects : String → Dict String String → Bool) (policy : JobPowerPolicy) : Prop :=
  ∀ labels : Dict String String, selects (labelSelector policy.spec.matchLabels) labels =
    satisfies labels.sortedItems policy.spec.matchLabels.sortedItems

/-- A Pod whose annotation the policies that select it can read. -/
def Readable (policies : List JobPowerPolicy) (pod : Pod) : Prop :=
  ∀ policy ∈ policies, policyMatches policy pod = true → ReadableIndices pod

/-- Pods stored under their UIDs. -/
def Keyed (pods : Dict String Pod) : Prop :=
  ∀ podUid pod, pods.get? podUid = some pod → pod.uid = some podUid

theorem matchingPods_eq {selects : String → Dict String String → Bool} {policy : JobPowerPolicy}
    (alike : SelectsAlike selects policy) (pods : List Pod) :
    matchingPods selects pods policy = pods.filter (policyMatches policy) := by
  unfold matchingPods
  split
  · next unlabelled =>
    refine (List.filter_eq_nil_iff.mpr fun pod _ => ?_).symm
    simp [policyMatches, unlabelled]
  · next labelled =>
    refine List.filter_congr fun pod _ => ?_
    rw [alike pod.labels, policyMatches, Bool.eq_false_iff.mpr labelled]
    rfl

/-! ### Digests and views -/

/-- What a policy sees of a Pod is a function of its digest. -/
theorem view_congr {policy : JobPowerPolicy} {first second : Pod}
    (same : podAssignmentDigest first = podAssignmentDigest second) :
    viewOf policy first = viewOf policy second := by
  have annotation := congrArg PodDigest.annotation same
  have labels := congrArg PodDigest.labels same
  have nodeName := congrArg PodDigest.nodeName same
  simp only [podAssignmentDigest] at annotation labels nodeName
  have selected : policyMatches policy first = policyMatches policy second := by
    unfold policyMatches
    rw [labels]
  unfold viewOf
  rw [selected, annotation, nodeName]

/-- A Pod that a policy sees matters. -/
theorem isRelevant_of_view {policies : List JobPowerPolicy} {policy : JobPowerPolicy} {pod : Pod}
    (listed : policy ∈ policies) {view : PodView} (sees : viewOf policy pod = some view) :
    isRelevant policies (podAssignmentDigest pod) = true := by
  unfold viewOf at sees
  split at sees
  · next selected =>
    rw [policyMatches, Bool.and_eq_true] at selected
    obtain ⟨labelled, satisfied⟩ := selected
    -- a selector with an item is satisfied only by labels with an item
    have sorted : policy.spec.matchLabels.sortedItems ≠ [] := by
      intro empty
      have perm := policy.spec.matchLabels.sortedItems_perm
      rw [empty, List.nil_perm] at perm
      rw [perm] at labelled
      cases labelled
    have labels : pod.labels.sortedItems.isEmpty = false := by
      rw [Bool.eq_false_iff]
      intro empty
      rw [List.isEmpty_iff.mp empty] at satisfied
      obtain ⟨item, rest, split⟩ := List.exists_cons_of_ne_nil sorted
      rw [split, satisfies, List.all_cons] at satisfied
      cases satisfied
    have selector : (selectorsOf policies).any (satisfies pod.labels.sortedItems) = true := by
      refine List.any_eq_true.mpr ⟨_, List.mem_map_of_mem ?_, satisfied⟩
      exact List.mem_filter.mpr ⟨listed, labelled⟩
    simp only [isRelevant, podAssignmentDigest, labels, selector, Bool.not_false, Bool.and_true,
      Bool.or_true]
  · cases sees

/-! ### Views and entries -/

/-- What a policy sees of each Pod. -/
def viewsOf (policy : JobPowerPolicy) (pods : Dict String Pod) : Dict String PodView :=
  pods.filterMapVals fun _ pod => viewOf policy pod

/-- A Pod that looks like this to the policies that select it. -/
def podOfView (item : String × PodView) : Pod where
  uid := some item.1
  labels := .empty
  annotations := match PodView.annotation item.2 with
    | some raw => ⟨[( gpuIndicesAnnotation, raw)], List.nodup_singleton _⟩
    | none => .empty
  nodeName := item.2.nodeName

/-- The assignments of a Pod; none when they cannot be read. -/
def readAssignments (policy : JobPowerPolicy) (pod : Pod) : List Assignment :=
  (podAssignments policy pod).toOption.getD []

/-- The assignments of a Pod depend on its UID, its annotation and its node. -/
theorem readAssignments_congr (policy : JobPowerPolicy) {first second : Pod}
    (uid : first.uid = second.uid) ( annotation : first.annotations.get? gpuIndicesAnnotation =
      second.annotations.get? gpuIndicesAnnotation) (nodeName : first.nodeName = second.nodeName) :
    readAssignments policy first = readAssignments policy second := by
  have indices : podGpuIndices first = podGpuIndices second := by
    rw [podGpuIndices, podGpuIndices, annotation]
  unfold readAssignments podAssignments
  rw [uid, nodeName, indices]

theorem readAssignments_podOfView {policy : JobPowerPolicy} {podUid : String} {pod : Pod}
    {view : PodView} (uid : pod.uid = some podUid) (sees : viewOf policy pod = some view) :
    readAssignments policy (podOfView (podUid, view)) = readAssignments policy pod := by
  unfold viewOf at sees
  split at sees
  · cases sees
    refine readAssignments_congr policy uid.symm ?_ rfl
    unfold podOfView
    cases pod.annotations.get? gpuIndicesAnnotation with
    | none => rfl
    | some raw => exact Dict.get?_eq_some_iff.mpr (List.mem_singleton_self _)
  · cases sees

/-- The Pods a policy matches are those it sees. -/
theorem filter_policyMatches (policy : JobPowerPolicy) {items : List (String × Pod)}
    (keyed : ∀ item ∈ items, item.2.uid = some item.1) :
    ((items.map Prod.snd).filter (policyMatches policy)).map (readAssignments policy) =
      ((items.filterMap fun item => (viewOf policy item.2).map fun view =>
        (item.1, view)).map podOfView).map (readAssignments policy) := by
  induction items with
  | nil => rfl
  | cons item rest ih =>
    have others := ih fun other listed => keyed other (List.mem_cons_of_mem _ listed)
    rw [List.map_cons, List.filterMap_cons]
    by_cases selected : policyMatches policy item.2 = true
    · have sees : viewOf policy item.2 =
          some ⟨item.2.annotations.get? gpuIndicesAnnotation, item.2.nodeName⟩ := if_pos selected
      rw [List.filter_cons_of_pos selected, sees, List.map_cons, others, Option.map_some,
        List.map_cons, List.map_cons, readAssignments_podOfView (keyed item List.mem_cons_self) sees]
    · have unseen : viewOf policy item.2 = none := if_neg selected
      rw [List.filter_cons_of_neg selected, unseen, Option.map_none]
      exact others

theorem mapM_readAssignments {policy : JobPowerPolicy} {pods : List Pod}
    (readable : ∀ pod ∈ pods, ReadableIndices pod) :
    pods.mapM (podAssignments policy) = .ok (pods.map (readAssignments policy)) := by
  induction pods with
  | nil => rfl
  | cons pod rest ih =>
    obtain ⟨assignments, parsed⟩ := podAssignments_ok policy (readable pod List.mem_cons_self)
    rw [List.mapM_cons, parsed, ih fun other listed => readable other (List.mem_cons_of_mem _ listed),
      List.map_cons, readAssignments, parsed]
    rfl

theorem eq_assignmentOf_of_mem {policy : JobPowerPolicy} {pods : List Pod} {assignment : Assignment}
    (member : assignment ∈ (pods.map (readAssignments policy)).flatten) :
    ∃ podUid nodeName gpuIndex, assignment = assignmentOf policy podUid nodeName gpuIndex := by
  obtain ⟨assignments, listed, member⟩ := List.mem_flatten.mp member
  obtain ⟨pod, _, rfl⟩ := List.mem_map.mp listed
  cases read : podAssignments policy pod with
  | error exc =>
    rw [readAssignments, read] at member
    cases member
  | ok assignments =>
    rw [readAssignments, read] at member
    obtain ⟨podUid, nodeName, gpuIndex, _, rfl⟩ := (mem_podAssignments read).mp member
    exact ⟨podUid, nodeName, gpuIndex, rfl⟩

/-- Two assignments of one policy with the same key are the same. -/
theorem eq_of_key {policy : JobPowerPolicy} {pods : List Pod} {first second : Assignment}
    (inFirst : first ∈ (pods.map (readAssignments policy)).flatten)
    (inSecond : second ∈ (pods.map (readAssignments policy)).flatten)
    (same : first.key = second.key) : first = second := by
  obtain ⟨podUid, nodeName, gpuIndex, rfl⟩ := eq_assignmentOf_of_mem inFirst
  obtain ⟨otherUid, otherNode, otherIndex, rfl⟩ := eq_assignmentOf_of_mem inSecond
  simp only [Assignment.key, assignmentOf, EmbeddingLike.apply_eq_iff_eq, Prod.mk.injEq,
    Int.natCast_inj, and_true] at same
  obtain ⟨rfl, rfl, rfl⟩ := same
  rfl

section Entries

variable {selects : String → Dict String String → Bool} {policy : JobPowerPolicy}
  {pods : Dict String Pod}

theorem mem_matchingPods (alike : SelectsAlike selects policy) {pod : Pod} {pods : List Pod} :
    pod ∈ matchingPods selects pods policy ↔ pod ∈ pods ∧ policyMatches policy pod = true := by
  rw [matchingPods_eq alike, List.mem_filter]

/-- The assignments of a policy, from what it sees. -/
theorem assignmentsOf_eq (alike : SelectsAlike selects policy) (keyed : Keyed pods)
    (readable : ∀ pod ∈ matchingPods selects pods.values policy, ReadableIndices pod) :
    assignmentsOf selects pods.values policy = sortedBy Assignment.key
      (((viewsOf policy pods).items.map podOfView).map (readAssignments policy)).flatten := by
  have views := filter_policyMatches policy fun item member =>
    keyed item.1 item.2 (Dict.get?_eq_some_iff.mpr member)
  rw [assignmentsOf, resolvedAssignments, mapM_readAssignments readable, matchingPods_eq alike,
    Dict.values, views]
  rfl

theorem length_matchingPods (alike : SelectsAlike selects policy) (keyed : Keyed pods) :
    (matchingPods selects pods.values policy).length = (viewsOf policy pods).size := by
  have views := congrArg List.length (filter_policyMatches policy fun item member =>
    keyed item.1 item.2 (Dict.get?_eq_some_iff.mpr member))
  rw [List.length_map, List.length_map, List.length_map] at views
  rw [matchingPods_eq alike]
  exact views

/-- **The entry of a policy depends on what it sees of each Pod.** -/
theorem entryOf_congr {other : Dict String Pod} (alike : SelectsAlike selects policy)
    (keyed : Keyed pods) (otherKeyed : Keyed other)
    (readable : ∀ pod ∈ matchingPods selects pods.values policy, ReadableIndices pod)
    (otherReadable : ∀ pod ∈ matchingPods selects other.values policy, ReadableIndices pod)
    (same : ∀ podUid, (pods.get? podUid).bind (viewOf policy) =
      (other.get? podUid).bind (viewOf policy)) :
    entryOf selects pods.values policy = entryOf selects other.values policy := by
  have perm : (viewsOf policy pods).items.Perm (viewsOf policy other).items :=
    Dict.perm_of_get?_eq fun podUid => by
      unfold viewsOf
      rw [Dict.get?_filterMapVals, Dict.get?_filterMapVals]
      exact same podUid
  have sizes : (viewsOf policy pods).size = (viewsOf policy other).size := perm.length_eq
  unfold entryOf
  rw [length_matchingPods alike keyed, length_matchingPods alike otherKeyed, sizes,
    assignmentsOf_eq alike keyed readable, assignmentsOf_eq alike otherKeyed otherReadable]
  congr 1
  exact sortedBy_congr ((perm.map _).map _).flatten fun first inFirst second inSecond =>
    eq_of_key inFirst inSecond

end Entries

end Opendps.Operator
