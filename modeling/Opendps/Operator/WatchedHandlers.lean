/-
**Handlers while the Pods change.**

One handler runs at a time, so nobody else touches the registry, the digests or the selectors; but
the Pods may change between any two of its calls (`Drift`). `Returns` says that a handler then
returns without raising, and what holds when it has. What the changes and the handler's own writes of
the registry keep (`Frame`) is carried along.

`reconcileEach_returns` gives each policy the entry of the Pods it was listed with, which stays
covered from then on. Moving the digest of the event's Pod on changes no trail (`MovedOn`);
`onEventOf_returns` puts together what handling one event does.
-/

import Opendps.Operator.PodWatch

namespace Opendps.Operator

open Opendps.Lib

/-- The Pods change, any number of times. -/
def Drift (policies : List JobPowerPolicy) : Watched → Watched → Prop :=
  Relation.ReflTransGen fun before after =>
    ∃ change : PodChange, change.Readable policies ∧ after = before.change change

section Drift

variable {policies : List JobPowerPolicy}

theorem Drift.refl (watched : Watched) : Drift policies watched watched :=
  Relation.ReflTransGen.refl

theorem Drift.trans (first second third : Watched) (one : Drift policies first second)
    (two : Drift policies second third) : Drift policies first third :=
  Relation.ReflTransGen.trans one two

theorem drift_change (watched : Watched) (change : PodChange) (readable : change.Readable policies) :
    Drift policies watched (watched.change change) :=
  Relation.ReflTransGen.single ⟨change, readable, rfl⟩

/-- Changes of the Pods leave the registry, the digests and the policies alone. -/
theorem unchanged_change (watched : Watched) (change : PodChange) :
    (watched.change change).world.registry = watched.world.registry ∧
      (watched.change change).world.digests = watched.world.digests ∧
      (watched.change change).world.policies = watched.world.policies := by
  cases change with
  | create podUid pod =>
    simp only [Watched.change]
    split <;> exact ⟨rfl, rfl, rfl⟩
  | modify podUid pod =>
    simp only [Watched.change]
    split <;> exact ⟨rfl, rfl, rfl⟩
  | delete podUid =>
    simp only [Watched.change]
    split <;> exact ⟨rfl, rfl, rfl⟩
  | expireSelectors => exact ⟨rfl, rfl, rfl⟩

theorem Drift.registry {before after : Watched} (drift : Drift policies before after) :
    after.world.registry = before.world.registry := by
  induction drift with
  | refl => rfl
  | tail _ step ih =>
    obtain ⟨change, _, rfl⟩ := step
    rw [(unchanged_change _ change).1, ih]

theorem Drift.registryData {before after : Watched} (drift : Drift policies before after) :
    after.world.registryData = before.world.registryData := by
  unfold World.registryData
  rw [drift.registry]

/-- What changes of the Pods, writes of the registry and reads of the selectors keep. -/
structure Frame (policies : List JobPowerPolicy) (holds : Watched → Prop) : Prop where
  change : ∀ watched change, PodChange.Readable policies change → holds watched →
    holds (watched.change change)
  write : ∀ watched data, holds watched →
    holds { watched with world := watched.world.writeRegistry data }
  remember : ∀ watched, holds watched → holds { watched with world :=
    { watched.world with selectors := some (selectorsOf watched.world.policies) } }

theorem Frame.drift {holds : Watched → Prop} (frame : Frame policies holds) {before after : Watched}
    (held : holds before) (drift : Drift policies before after) : holds after := by
  induction drift with
  | refl => exact held
  | tail _ step ih =>
    obtain ⟨change, readable, rfl⟩ := step
    exact frame.change _ change readable ih

theorem Frame.and {first second : Watched → Prop} (firstFrame : Frame policies first)
    (secondFrame : Frame policies second) :
    Frame policies fun watched => first watched ∧ second watched where
  change watched change readable held :=
    ⟨firstFrame.change watched change readable held.1,
      secondFrame.change watched change readable held.2⟩
  write watched data held := ⟨firstFrame.write watched data held.1,
    secondFrame.write watched data held.2⟩
  remember watched held := ⟨firstFrame.remember watched held.1,
    secondFrame.remember watched held.2⟩

theorem Frame.imp {holds : Watched → Prop} (frame : Frame policies holds) (condition : Prop) :
    Frame policies fun watched => condition → holds watched where
  change watched change readable held met := frame.change watched change readable (held met)
  write watched data held met := frame.write watched data (held met)
  remember watched held met := frame.remember watched (held met)

end Drift

/-! ### Handlers that return -/

section Returns

variable (selects : String → Dict String String → Bool) (policies : List JobPowerPolicy)

/-- However the Pods change, the handler returns without raising, and then `post` holds. -/
def Returns {α : Type} (prog : Handler α) (post : α → Watched → Prop) (watched : Watched) : Prop :=
  prog.Safe (Watched.handle selects) (Drift policies) (fun _ _ _ => True)
    (fun outcome later => ∃ value, outcome = .ok value ∧ post value later) watched

variable {selects} {policies} {α β : Type} {watched : Watched}

theorem Returns.ret {value : α} {post : α → Watched → Prop}
    (held : ∀ later, Drift policies watched later → post value later) :
    Returns selects policies (.ret (.ok value)) post watched :=
  fun later drift => ⟨value, rfl, held later drift⟩

theorem Returns.call {req : Request} {resume : Answer req → Handler α} {post : α → Watched → Prop}
    (next : ∀ later, Drift policies watched later → Returns selects policies
      (resume (Watched.handle selects req later).1) post (Watched.handle selects req later).2) :
    Returns selects policies (.call req resume) post watched :=
  fun later drift => ⟨trivial, next later drift⟩

theorem Returns.mono {prog : Handler α} {strong post : α → Watched → Prop}
    (returns : Returns selects policies prog strong watched)
    (weaken : ∀ value later, strong value later → post value later) :
    Returns selects policies prog post watched := by
  refine Prog.Safe.mono (fun _ _ _ _ => trivial) (fun outcome later held => ?_) returns
  obtain ⟨value, same, held⟩ := held
  exact ⟨value, same, weaken value later held⟩

theorem Returns.bind {first : Handler α} {next : Except OperatorError α → Handler β}
    {mid : α → Watched → Prop} {post : β → Watched → Prop}
    (returns : Returns selects policies first mid watched)
    (rest : ∀ value later, mid value later → Returns selects policies (next (.ok value)) post later) :
    Returns selects policies (first.bind next) post watched := by
  refine Prog.Safe.bind Drift.refl (Prog.Safe.mono (fun _ _ _ _ => trivial)
    (fun outcome later held => ?_) returns)
  obtain ⟨value, rfl, held⟩ := held
  exact rest value later held

theorem Returns.andThen {first : Handler α} {next : α → Handler β} {mid : α → Watched → Prop}
    {post : β → Watched → Prop} (returns : Returns selects policies first mid watched)
    (rest : ∀ value later, mid value later → Returns selects policies (next value) post later) :
    Returns selects policies (andThen first next) post watched :=
  returns.bind rest

end Returns

/-! ### The registry, with nobody else writing it -/

section Reconcile

variable {selects : String → Dict String String → Bool} {policies : List JobPowerPolicy} {codec : Codec}
  {namespaceName : String} {holds : Watched → Prop} {watched : Watched}

/-- A write returns, having applied its update. -/
theorem writeBoostRegistry_returns (frame : Frame policies holds) (held : holds watched)
    {policyName : String} {entry : Option Json} {data : Dict String String}
    (update : updateData codec policyName entry watched.world.registryData = .ok data) :
    Returns selects policies (writeBoostRegistry codec namespaceName policyName entry)
      (fun _ later => holds later ∧ Published codec policyName entry watched.world later.world)
      watched := by
  have done : ∀ written later : Watched, Drift policies written later → holds written →
      (∃ configMap, written.world.registry = some configMap ∧
        ∀ key, configMap.data.get? key = data.get? key) →
        holds later ∧ Published codec policyName entry watched.world later.world := by
    rintro written later drift held ⟨configMap, stored, lookups⟩
    exact ⟨frame.drift held drift, data, configMap, update, drift.registry.trans stored, lookups⟩
  refine Returns.call fun read drift => ?_
  have heldRead := frame.drift held drift
  have readData := drift.registryData
  cases found : read.world.registry with
  | none =>
    have update' : updateData codec policyName entry .empty = .ok data := by
      rw [← update, ← readData, World.registryData, found]
      rfl
    simp only [Watched.handle, handle, found, notFound, update', ne_eq, not_true_eq_false, if_false]
    refine Returns.call fun before drift => ?_
    have missing : before.world.registry = none := drift.registry.trans found
    simp only [Watched.handle, handle, missing]
    exact Returns.ret fun later drift' => done _ later drift'
      (frame.write before data (frame.drift heldRead drift)) ⟨_, rfl, fun _ => rfl⟩
  | some current =>
    have update' : updateData codec policyName entry current.data = .ok data := by
      rw [← update, ← readData, World.registryData, found]
      rfl
    simp only [Watched.handle, handle, found, update']
    by_cases unchanged : data.same current.data = true
    · rw [if_pos unchanged]
      exact Returns.ret fun later drift' => done read later drift' heldRead
        ⟨current, found, fun key => (Dict.same_iff.mp unchanged key).symm⟩
    · rw [if_neg unchanged]
      refine Returns.call fun before drift => ?_
      have present : before.world.registry = some current := drift.registry.trans found
      simp only [Watched.handle, handle, present, if_true]
      exact Returns.ret fun later drift' => done _ later drift'
        (frame.write before data (frame.drift heldRead drift)) ⟨_, rfl, fun _ => rfl⟩

/-- Publishing the Pods a policy matches returns, and what was seen stays covered. -/
theorem publishMatched_returns (frame : Frame policies holds) (held : holds watched)
    {policy : JobPowerPolicy} {pods : Dict String Pod}
    (readable : ∀ pod ∈ matchingPods selects pods.values policy, ReadableIndices pod)
    (readableData : ReadableData codec watched.world.registryData)
    (readableEntries : ∀ matched assignments,
      ReadableEntry codec (codec.dumps (registryEntry policy matched assignments))) :
    Returns selects policies (publishMatched codec namespaceName policy
        (matchingPods selects pods.values policy))
      (fun _ later => holds later ∧ Published codec policy.name
        (some (entryOf selects pods.values policy)) watched.world later.world) watched := by
  have resolved := resolvedAssignments_eq readable
  obtain ⟨data, update, _⟩ := @exists_updateData codec policy.name
    (some (entryOf selects pods.values policy)) watched.world.registryData readableData (by
      rintro _ ⟨⟩
      exact readableEntries _ _)
  simp only [publishMatched, resolved]
  exact (writeBoostRegistry_returns frame held update).andThen fun _ later ended =>
    Returns.ret fun last drift => ⟨frame.drift ended.1 drift, by
      obtain ⟨data, configMap, update, stored, lookups⟩ := ended.2
      exact ⟨data, configMap, update, drift.registry.trans stored, lookups⟩⟩

/-- **A reconcile returns**, having published the entry of the Pods there were when it listed them. -/
theorem reconcile_returns {policy : JobPowerPolicy} {sees : Dict String Pod → Watched → Prop}
    (frame : Frame policies holds) (frames : ∀ seen, Frame policies (sees seen))
    (listed : ∀ watched, holds watched → sees watched.world.pods watched)
    (readablePods : ∀ watched, holds watched →
      ∀ pod ∈ matchingPods selects watched.world.pods.values policy, ReadableIndices pod)
    (held : holds watched) (readableData : ReadableData codec watched.world.registryData)
    (readableEntries : ∀ matched assignments,
      ReadableEntry codec (codec.dumps (registryEntry policy matched assignments))) :
    Returns selects policies (reconcileJobPowerPolicy codec namespaceName policy)
      (fun _ later => ∃ seen, (holds later ∧ sees seen later) ∧ Published codec policy.name
        (some (entryOf selects seen.values policy)) watched.world later.world) watched := by
  have publish : ∀ start, holds start → start.world.registryData = watched.world.registryData →
      Returns selects policies (publishMatched codec namespaceName policy
          (matchingPods selects start.world.pods.values policy))
        (fun _ later => ∃ seen, (holds later ∧ sees seen later) ∧ Published codec policy.name
          (some (entryOf selects seen.values policy)) watched.world later.world) start := by
    intro start heldStart sameData
    have returns := @publishMatched_returns selects policies codec namespaceName _ start
      (frame.and (frames start.world.pods)) ⟨heldStart, listed start heldStart⟩ policy
      start.world.pods (readablePods start heldStart) (by rwa [sameData]) readableEntries
    refine returns.mono fun _ later ended => ⟨start.world.pods, ended.1, ?_⟩
    obtain ⟨data, configMap, update, stored⟩ := ended.2
    rw [sameData] at update
    exact ⟨data, configMap, update, stored⟩
  by_cases unlabelled : policy.spec.matchLabels.items.isEmpty = true
  · have direct : reconcileJobPowerPolicy codec namespaceName policy =
        publishMatched codec namespaceName policy
          (matchingPods selects watched.world.pods.values policy) := by
      rw [reconcileJobPowerPolicy, listMatchingPods, if_pos unlabelled, matchingPods,
        if_pos unlabelled]
      rfl
    rw [direct]
    exact publish watched held rfl
  · rw [reconcileJobPowerPolicy, listMatchingPods, if_neg unlabelled]
    refine Returns.call fun later drift => ?_
    have matched : matchingPods selects later.world.pods.values policy =
        later.world.pods.values.filter fun pod =>
          selects (labelSelector policy.spec.matchLabels) pod.labels := if_neg unlabelled
    have started := publish later (frame.drift held drift) drift.registryData
    rw [matched] at started
    exact started

/-- Every policy of a list has been given the entry of Pods it has seen. -/
structure EachPublished (codec : Codec) (selects : String → Dict String String → Bool)
    (sees : JobPowerPolicy → Dict String Pod → Watched → Prop) (policies : List JobPowerPolicy)
    (before : World) (later : Watched) : Prop where
  untouched : policies = [] → later.world.registry = before.registry
  others : ∀ key, key ≠ resolvedAssignmentsKey →
    (∀ policy ∈ policies, key ≠ policyKey policy.name) →
      later.world.registryData.get? key = before.registryData.get? key
  entries : ∀ policy ∈ policies, policy.name ≠ "resolved-assignments" →
    ∃ seen, sees policy seen later ∧ later.world.registryData.get? (policyKey policy.name) =
      some (codec.dumps (entryOf selects seen.values policy))
  readable : ReadableData codec later.world.registryData
  consistent : policies ≠ [] →
    ∃ configMap, later.world.registry = some configMap ∧ Consistent codec configMap.data

/-- **Reconciles one after the other return**, having published for each policy the entry of the Pods
there were when it listed them. -/
theorem reconcileEach_returns {reconciled : List JobPowerPolicy}
    {sees : JobPowerPolicy → Dict String Pod → Watched → Prop} (frame : Frame policies holds)
    (frames : ∀ policy ∈ reconciled, ∀ seen, Frame policies (sees policy seen))
    (listed : ∀ policy ∈ reconciled, ∀ watched, holds watched →
      sees policy watched.world.pods watched)
    (readablePods : ∀ policy ∈ reconciled, ∀ watched, holds watched →
      ∀ pod ∈ matchingPods selects watched.world.pods.values policy, ReadableIndices pod)
    (held : holds watched) (readableData : ReadableData codec watched.world.registryData)
    (readableEntries : ∀ policy ∈ reconciled, ∀ matched assignments,
      ReadableEntry codec (codec.dumps (registryEntry policy matched assignments)))
    (distinct : (reconciled.map JobPowerPolicy.name).Nodup) :
    Returns selects policies (reconcileEach codec namespaceName reconciled)
      (fun _ later => holds later ∧
        EachPublished codec selects sees reconciled watched.world later) watched := by
  induction reconciled generalizing holds watched with
  | nil =>
    refine Returns.ret fun later drift => ⟨frame.drift held drift, ?_⟩
    refine ⟨fun _ => drift.registry, fun key _ _ => by rw [drift.registryData], ?_, ?_,
      fun some => absurd rfl some⟩
    · exact fun policy member => absurd member List.not_mem_nil
    · rw [drift.registryData]
      exact readableData
  | cons policy rest ih =>
    have first := @reconcile_returns selects policies codec namespaceName holds watched policy (sees policy)
      frame (frames policy List.mem_cons_self) (listed policy List.mem_cons_self)
      (readablePods policy List.mem_cons_self) held readableData
      (readableEntries policy List.mem_cons_self)
    refine first.andThen fun _ next ended => ?_
    obtain ⟨seen, heldNext, published⟩ := ended
    rw [List.map_cons, List.nodup_cons] at distinct
    have others : ∀ other ∈ rest, other ∈ policy :: rest := fun other member =>
      List.mem_cons_of_mem _ member
    have readableNext : ReadableData codec next.world.registryData :=
      published.readable readableData (by
        rintro _ ⟨⟩
        exact readableEntries policy List.mem_cons_self _ _)
    have tail := @ih (fun watched => holds watched ∧ sees policy seen watched) next
      (frame.and (frames policy List.mem_cons_self seen))
      (fun other member => frames other (others other member))
      (fun other member watched held => listed other (others other member) watched held.1)
      (fun other member watched held => readablePods other (others other member) watched held.1) heldNext
      readableNext
      (fun other member => readableEntries other (others other member)) distinct.2
    refine tail.mono fun _ later ended => ⟨ended.1.1, ?_⟩
    obtain ⟨⟨_, seesLater⟩, each⟩ := ended
    refine ⟨fun none => absurd none (List.cons_ne_nil _ _), fun key other apart => ?_,
      fun winner member named => ?_, each.readable, fun _ => ?_⟩
    · rw [each.others key other fun policy member => apart policy (others policy member),
        published.entries other, if_neg (apart policy List.mem_cons_self)]
    · rcases List.mem_cons.mp member with rfl | member
      · -- the later policies have other names
        have own := policyKey_ne_resolvedAssignmentsKey named
        refine ⟨seen, seesLater, ?_⟩
        rw [each.others _ own, published.entries own, if_pos rfl]
        · rfl
        · rintro policy member same
          exact distinct.1 (policyKey_injective same ▸ List.mem_map_of_mem member)
      · exact each.entries winner member named
    · by_cases last : rest = []
      · obtain ⟨configMap, stored, consistent⟩ := published.consistent
        exact ⟨configMap, (each.untouched last).trans stored, consistent⟩
      · exact each.consistent last

end Reconcile

/-! ### What the registry says of the Pods -/

/-- What the policies of a namespace rely on: the server matches their selectors the way labels are
compared here, their entries can be read back, and their names differ. -/
structure Reconcilable (codec : Codec) (selects : String → Dict String String → Bool)
    (policies : List JobPowerPolicy) : Prop where
  alike : ∀ policy ∈ policies, SelectsAlike selects policy
  entries : ∀ policy ∈ policies, ∀ matched assignments,
    ReadableEntry codec (codec.dumps (registryEntry policy matched assignments))
  distinct : (policies.map JobPowerPolicy.name).Nodup

/-- A policy has seen some Pods, and what it saw is covered. -/
structure Sees (policies : List JobPowerPolicy) (handled : Option (String × WatchEvent))
    (policy : JobPowerPolicy) (seen : Dict String Pod) (watched : Watched) : Prop where
  watch : Watch policies handled watched
  covers : Covers policies handled policy seen watched
  keyed : Keyed seen
  readable : ∀ pod ∈ seen.values, policyMatches policy pod = true → ReadableIndices pod

/-- The texts are those of the entries of Pods that the policies have seen. -/
def Described (codec : Codec) (selects : String → Dict String String → Bool)
    (policies : List JobPowerPolicy) (handled : Option (String × WatchEvent))
    (text : String → Option String) (watched : Watched) : Prop :=
  ∀ policy ∈ policies, policy.name ≠ "" → policy.name ≠ "resolved-assignments" →
    ∃ seen, Sees policies handled policy seen watched ∧
      text (policyKey policy.name) = some (codec.dumps (entryOf selects seen.values policy))

/-- The registry holds entries of Pods that the policies have seen, and their aggregate. -/
structure Registered (codec : Codec) (selects : String → Dict String String → Bool)
    (policies : List JobPowerPolicy) (handled : Option (String × WatchEvent))
    (watched : Watched) : Prop where
  described : Described codec selects policies handled watched.world.registryData.get? watched
  readable : ReadableData codec watched.world.registryData
  consistent : (∃ policy ∈ policies, policy.name ≠ "") →
    ∃ configMap, watched.world.registry = some configMap ∧ Consistent codec configMap.data

section Frames

variable {codec : Codec} {selects : String → Dict String String → Bool}
  {policies : List JobPowerPolicy} {handled : Option (String × WatchEvent)}

theorem Watch.readablePods {watched : Watched} (watch : Watch policies handled watched)
    {policy : JobPowerPolicy} (listed : policy ∈ policies) :
    ∀ pod ∈ watched.world.pods.values, policyMatches policy pod = true → ReadableIndices pod := by
  intro pod present
  obtain ⟨item, member, rfl⟩ := List.mem_map.mp present
  exact watch.readable item.1 item.2
    (Watched.lifeOf_eq_live.mpr (Dict.get?_eq_some_iff.mpr member)) policy listed

theorem Watch.keyed {watched : Watched} (watch : Watch policies handled watched) :
    Keyed watched.world.pods := fun podUid pod found =>
  (watch.uid podUid pod (Watched.lifeOf_eq_live.mpr found)).1

theorem frame_watch : Frame policies (Watch policies handled) where
  change _ change readable watch := watch.change change readable
  write _ _ watch := { watch with }
  remember _ watch := { watch with selectors := .inr (by rw [watch.known]) }

theorem frame_digests (digests : Dict String CachedDigest) :
    Frame policies fun watched => watched.world.digests = digests where
  change watched change _ same := (unchanged_change watched change).2.1.trans same
  write _ _ same := same
  remember _ same := same

theorem frame_sees {policy : JobPowerPolicy} (listed : policy ∈ policies)
    (seen : Dict String Pod) : Frame policies (Sees policies handled policy seen) where
  change _ change readable sees :=
    { sees with
      watch := sees.watch.change change readable
      covers := sees.covers.change listed sees.watch change readable }
  write watched data sees := { sees with watch := frame_watch.write watched data sees.watch }
  remember watched sees := { sees with watch := frame_watch.remember watched sees.watch }

theorem frame_described (text : String → Option String) :
    Frame policies (Described codec selects policies handled text) where
  change watched change readable described policy listed named unreserved := by
    obtain ⟨seen, sees, held⟩ := described policy listed named unreserved
    exact ⟨seen, (frame_sees listed seen).change watched change readable sees, held⟩
  write watched data described policy listed named unreserved := by
    obtain ⟨seen, sees, held⟩ := described policy listed named unreserved
    exact ⟨seen, (frame_sees listed seen).write watched data sees, held⟩
  remember watched described policy listed named unreserved := by
    obtain ⟨seen, sees, held⟩ := described policy listed named unreserved
    exact ⟨seen, (frame_sees listed seen).remember watched sees, held⟩

theorem Registered.drift {before after : Watched}
    (registered : Registered codec selects policies handled before) (drift : Drift policies before after) :
    Registered codec selects policies handled after where
  described := by
    rw [drift.registryData]
    exact (frame_described _).drift registered.described drift
  readable := by
    rw [drift.registryData]
    exact registered.readable
  consistent := by
    rw [drift.registry]
    exact registered.consistent

end Frames

/-! ### Handling an event -/

section Handle

variable {codec : Codec} {selects : String → Dict String String → Bool} {namespaceName : String}
  {policies : List JobPowerPolicy} {handled : Option (String × WatchEvent)}
  {holds : Watched → Prop} {watched : Watched}

/-- The selectors are those of the policies, remembered or not. -/
theorem policySelectors_returns (frame : Frame policies holds)
    (watch : ∀ watched, holds watched → Watch policies handled watched) (held : holds watched) :
    Returns selects policies policySelectors (fun value later => value = selectorsOf policies ∧
      holds later ∧ later.world.registry = watched.world.registry) watched := by
  refine Returns.call fun asked drift => ?_
  have heldAsked := frame.drift held drift
  have known := (watch asked heldAsked).known
  rcases (watch asked heldAsked).selectors with absent | remembered
  · simp only [Watched.handle, handle, absent]
    refine Returns.call fun listing driftListing => ?_
    have knownListing := (watch listing (frame.drift heldAsked driftListing)).known
    simp only [Watched.handle, handle, knownListing]
    refine Returns.call fun storing driftStoring => ?_
    have heldStoring := frame.drift (frame.drift heldAsked driftListing) driftStoring
    have stored := frame.remember storing heldStoring
    rw [(watch storing heldStoring).known] at stored
    refine Returns.ret fun later driftLater => ⟨rfl, frame.drift stored driftLater, ?_⟩
    rw [driftLater.registry]
    exact driftStoring.registry.trans (driftListing.registry.trans drift.registry)
  · simp only [Watched.handle, handle, remembered]
    exact Returns.ret fun later driftLater => ⟨rfl, frame.drift heldAsked driftLater,
      driftLater.registry.trans drift.registry⟩

/-- Whether a Pod matters is answered from its digest and the policies. -/
theorem podMatches_returns (frame : Frame policies holds)
    (watch : ∀ watched, holds watched → Watch policies handled watched) (held : holds watched)
    (body : Pod) :
    Returns selects policies (podMatchesAssignmentPolicy body) (fun value later =>
      value = isRelevant policies (podAssignmentDigest body) ∧ holds later ∧
        later.world.registry = watched.world.registry) watched := by
  have same : ∀ later, Drift policies watched later →
      holds later ∧ later.world.registry = watched.world.registry := fun later drift =>
    ⟨frame.drift held drift, drift.registry⟩
  unfold podMatchesAssignmentPolicy isRelevant
  by_cases annotated : ( PodDigest.annotation (podAssignmentDigest body)).isSome = true
  · rw [if_pos annotated, annotated]
    exact Returns.ret fun later drift => ⟨rfl, same later drift⟩
  · rw [if_neg annotated, Bool.eq_false_iff.mpr annotated]
    by_cases bare : (podAssignmentDigest body).labels.isEmpty = true
    · rw [if_pos bare, bare]
      exact Returns.ret fun later drift => ⟨rfl, same later drift⟩
    · rw [if_neg bare, Bool.eq_false_iff.mpr bare]
      refine (policySelectors_returns frame watch held).andThen fun value later ended => ?_
      obtain ⟨rfl, heldLater, registry⟩ := ended
      exact Returns.ret fun last drift => ⟨by simp, frame.drift heldLater drift,
        drift.registry.trans registry⟩

/-- The policies that are reconciled for a namespace. -/
theorem mem_named {policy : JobPowerPolicy} :
    policy ∈ (sortedBy JobPowerPolicy.name policies).filter (fun policy => policy.name ≠ "") ↔
      policy ∈ policies ∧ policy.name ≠ "" := by
  rw [List.mem_filter, mem_sortedBy, decide_eq_true_eq]

/-- The reconciles of a namespace leave a registry of Pods that the policies have seen. -/
theorem reconcileForNamespace_returns (frame : Frame policies holds)
    (watch : ∀ watched, holds watched → Watch policies handled watched) (held : holds watched)
    (readableData : ReadableData codec watched.world.registryData)
    (reconcilable : Reconcilable codec selects policies) :
    Returns selects policies (reconcileJobPowerPoliciesForNamespace codec namespaceName)
      (fun _ later => holds later ∧ Registered codec selects policies handled later) watched := by
  refine Returns.call fun listing drift => ?_
  have heldListing := frame.drift held drift
  have known := (watch listing heldListing).known
  simp only [Watched.handle, handle, known]
  have names : (((sortedBy JobPowerPolicy.name policies).filter
      fun policy => policy.name ≠ "").map JobPowerPolicy.name).Nodup :=
    List.Nodup.sublist (List.filter_sublist.map _)
      (((sortedBy_perm JobPowerPolicy.name policies).map _).nodup_iff.mpr reconcilable.distinct)
  have each := @reconcileEach_returns selects policies codec namespaceName holds listing _
    (fun policy seen => Sees policies handled policy seen) frame
    (fun policy member seen => frame_sees (mem_named.mp member).1 seen)
    (fun policy member start heldStart => ⟨watch start heldStart, covers_self _ _ _ _,
      (watch start heldStart).keyed, (watch start heldStart).readablePods (mem_named.mp member).1⟩)
    (fun policy member start heldStart pod matched => by
      obtain ⟨present, selected⟩ :=
        (mem_matchingPods (reconcilable.alike policy (mem_named.mp member).1)).mp matched
      exact (watch start heldStart).readablePods (mem_named.mp member).1 pod present selected)
    heldListing (by rwa [drift.registryData])
    (fun policy member => reconcilable.entries policy (mem_named.mp member).1) names
  refine each.mono fun _ later ended => ⟨ended.1, ?_, ended.2.readable, ?_⟩
  · intro policy member named unreserved
    exact ended.2.entries policy (mem_named.mpr ⟨member, named⟩) unreserved
  · rintro ⟨policy, member, named⟩
    exact ended.2.consistent (List.ne_nil_of_mem (mem_named.mpr ⟨member, named⟩))

/-- The reconciles of an event leave such a registry too, when there was one to pass over. -/
theorem reconcileIf_returns (frame : Frame policies holds)
    (watch : ∀ watched, holds watched → Watch policies handled watched) (held : holds watched)
    (readableData : ReadableData codec watched.world.registryData)
    (reconcilable : Reconcilable codec selects policies) {relevant : Bool}
    (passed : relevant = false → Registered codec selects policies handled watched) :
    Returns selects policies (reconcileIf codec namespaceName relevant)
      (fun _ later => holds later ∧ Registered codec selects policies handled later) watched := by
  cases relevant with
  | true => exact reconcileForNamespace_returns frame watch held readableData reconcilable
  | false =>
    exact Returns.ret fun later drift => ⟨frame.drift held drift, (passed rfl).drift drift⟩

end Handle

/-! ### The digest of the event's Pod -/

section MoveOn

variable {codec : Codec} {selects : String → Dict String String → Bool} {namespaceName : String}
  {policies : List JobPowerPolicy} {podUid : String} {event : WatchEvent} {watched : Watched}
  {digests : Dict String CachedDigest}

/-- A namespace with other digests. -/
def Watched.withDigests (watched : Watched) (digests : Dict String CachedDigest) : Watched :=
  { watched with world := { watched.world with digests := digests } }

/-- Digests in which the event's Pod has the one it has after the event. -/
structure MovedOn (policies : List JobPowerPolicy) (podUid : String) (event : WatchEvent)
    (before after : Dict String CachedDigest) : Prop where
  own : after.get? podUid = digestAfter policies (before.get? podUid) event
  others : ∀ other, other ≠ podUid → after.get? other = before.get? other

/-- The trails are taken as they are after the event, so moving its digest on leaves them. -/
theorem MovedOn.trailOf (moved : MovedOn policies podUid event watched.world.digests digests)
    (other : String) :
    (watched.withDigests digests).trailOf policies (some (podUid, event)) other =
      watched.trailOf policies (some (podUid, event)) other := by
  by_cases same : other = podUid
  · subst same
    simp only [Watched.trailOf, Watched.withDigests, if_true, Trail.handled, moved.own,
      digestAfter_idem]
  · simp only [Watched.trailOf, Watched.withDigests, same, if_false, moved.others other same]

theorem MovedOn.watch (moved : MovedOn policies podUid event watched.world.digests digests)
    (watch : Watch policies (some (podUid, event)) watched) :
    Watch policies (some (podUid, event)) (watched.withDigests digests) :=
  { watch with
    flagged := by
      intro other
      show Flagged policies (digests.get? other)
      by_cases same : other = podUid
      · rw [same, moved.own]
        exact (watch.flagged podUid).after event
      · rw [moved.others other same]
        exact watch.flagged other
    tracked := by
      intro other
      rw [moved.trailOf]
      exact watch.tracked other }

theorem MovedOn.sees (moved : MovedOn policies podUid event watched.world.digests digests)
    {policy : JobPowerPolicy} {seen : Dict String Pod}
    (sees : Sees policies (some (podUid, event)) policy seen watched) :
    Sees policies (some (podUid, event)) policy seen (watched.withDigests digests) :=
  { sees with
    watch := moved.watch sees.watch
    covers := by
      intro other
      rw [moved.trailOf]
      exact sees.covers other }

theorem MovedOn.registered (moved : MovedOn policies podUid event watched.world.digests digests)
    (registered : Registered codec selects policies (some (podUid, event)) watched) :
    Registered codec selects policies (some (podUid, event)) (watched.withDigests digests) :=
  { registered with
    described := by
      intro policy listed named unreserved
      obtain ⟨seen, sees, held⟩ := registered.described policy listed named unreserved
      exact ⟨seen, moved.sees sees, held⟩ }

/-- An event that has been handled: the digest of its Pod is the one after it. -/
structure Handled (codec : Codec) (selects : String → Dict String String → Bool)
    (policies : List JobPowerPolicy) (podUid : String) (event : WatchEvent)
    (before : Option CachedDigest) (watched : Watched) : Prop where
  watch : Watch policies (some (podUid, event)) watched
  registered : Registered codec selects policies (some (podUid, event)) watched
  digest : watched.world.digests.get? podUid = digestAfter policies before event

theorem Handled.drift {before : Option CachedDigest} {later : Watched}
    (handled : Handled codec selects policies podUid event before watched)
    (drift : Drift policies watched later) : Handled codec selects policies podUid event before later where
  watch := frame_watch.drift handled.watch drift
  registered := handled.registered.drift drift
  digest := by
    rw [(frame_digests watched.world.digests).drift rfl drift]
    exact handled.digest

/-- A handler that ends by moving the digest on. -/
theorem moveOn_returns {req : Request} {resume : Answer req → Handler Unit}
    (watch : Watch policies (some (podUid, event)) watched)
    (registered : Registered codec selects policies (some (podUid, event)) watched)
    (sets : ∀ later, (Watched.handle selects req later).2 = later.withDigests
      (Watched.handle selects req later).2.world.digests)
    (moved : ∀ later, later.world.digests = watched.world.digests →
      MovedOn policies podUid event later.world.digests
        (Watched.handle selects req later).2.world.digests)
    (ends : ∀ answer, resume answer = .ret (.ok ())) :
    Returns selects policies (.call req resume) (fun _ later => Handled codec selects policies podUid event
      (watched.world.digests.get? podUid) later) watched := by
  refine Returns.call fun later drift => ?_
  have digests : later.world.digests = watched.world.digests :=
    (frame_digests watched.world.digests).drift rfl drift
  have moved := moved later digests
  rw [sets, ends]
  have handled : Handled codec selects policies podUid event (watched.world.digests.get? podUid)
      (later.withDigests (Watched.handle selects req later).2.world.digests) :=
    ⟨moved.watch (frame_watch.drift watch drift), moved.registered (registered.drift drift), by
      rw [← digests]
      exact moved.own⟩
  exact Returns.ret fun last driftLast => handled.drift driftLast

/-- While an event is considered, nothing is lost by passing over it if it does not trigger. -/
structure Considered (codec : Codec) (selects : String → Dict String String → Bool)
    (policies : List JobPowerPolicy) (podUid : String) (event : WatchEvent)
    (start watched : Watched) : Prop where
  watch : Watch policies (some (podUid, event)) watched
  digests : watched.world.digests = start.world.digests
  described : triggers policies (start.world.digests.get? podUid) event = false →
    Described codec selects policies (some (podUid, event)) start.world.registryData.get? watched

theorem frame_considered (start : Watched) :
    Frame policies (Considered codec selects policies podUid event start) where
  change watched change readable held :=
    ⟨held.watch.change change readable,
      (frame_digests start.world.digests).change watched change readable held.digests,
      ((frame_described _).imp _).change watched change readable held.described⟩
  write watched data held :=
    ⟨frame_watch.write watched data held.watch, held.digests,
      ((frame_described _).imp _).write watched data held.described⟩
  remember watched held :=
    ⟨frame_watch.remember watched held.watch, held.digests,
      ((frame_described _).imp _).remember watched held.described⟩

/-- The reconciles of an event that is not a repetition. -/
theorem reconsider_returns {start : Watched}
    (held : Considered codec selects policies podUid event start watched)
    (registry : watched.world.registry = start.world.registry)
    (readableData : ReadableData codec start.world.registryData)
    (reconcilable : Reconcilable codec selects policies)
    (passed : triggers policies (start.world.digests.get? podUid) event = false →
      Registered codec selects policies (some (podUid, event)) start)
    (decides : triggers policies (start.world.digests.get? podUid) event =
      mattersNowOrBefore policies (start.world.digests.get? podUid) event) :
    Returns selects policies (reconcileIf codec namespaceName
        (mattersNowOrBefore policies (start.world.digests.get? podUid) event))
      (fun _ later => Considered codec selects policies podUid event start later ∧
        Registered codec selects policies (some (podUid, event)) later) watched := by
  have data : watched.world.registryData = start.world.registryData := by
    unfold World.registryData
    rw [registry]
  refine reconcileIf_returns (frame_considered start) (fun _ held => held.watch) held
    (by rwa [data]) reconcilable fun passedOver => ?_
  rw [← decides] at passedOver
  refine ⟨?_, by rwa [data], ?_⟩
  · rw [data]
    exact held.described passedOver
  · rw [registry]
    exact (passed passedOver).consistent

/-- After a deletion the digest goes. -/
theorem popDigest_returns
    (watch : Watch policies (some (podUid, event)) watched)
    (registered : Registered codec selects policies (some (podUid, event)) watched)
    (gone : event.type = .deleted) :
    Returns selects policies (.call (.popDigest podUid) fun _ => .ret (.ok ())) (fun _ later =>
      Handled codec selects policies podUid event (watched.world.digests.get? podUid) later)
      watched := by
  refine moveOn_returns watch registered (fun _ => rfl) (fun later _ => ⟨?_, fun other different => ?_⟩)
    fun _ => rfl
  · show (later.world.digests.pop podUid).get? podUid = _
    rw [Dict.get?_pop, if_pos rfl, digestAfter, if_pos gone]
  · show (later.world.digests.pop podUid).get? other = _
    rw [Dict.get?_pop, if_neg different]

/-- After a change the digest is the one of the Pod. -/
theorem setDigest_returns
    (watch : Watch policies (some (podUid, event)) watched)
    (registered : Registered codec selects policies (some (podUid, event)) watched)
    (kept : event.type ≠ .deleted)
    (fresh : ¬ (watched.world.digests.get? podUid).map CachedDigest.digest =
      some (podAssignmentDigest event.object)) :
    Returns selects policies (.call (.setDigest podUid ⟨podAssignmentDigest event.object,
        isRelevant policies (podAssignmentDigest event.object)⟩) fun _ => .ret (.ok ()))
      (fun _ later => Handled codec selects policies podUid event
        (watched.world.digests.get? podUid) later) watched := by
  refine moveOn_returns watch registered (fun _ => rfl) (fun later same => ⟨?_, fun other different => ?_⟩)
    fun _ => rfl
  · rw [same, digestAfter, if_neg kept, if_neg fresh]
    exact Dict.get?_set_self _ _ _
  · exact Dict.get?_set_of_ne _ _ different

/-- **Handling an event returns.** It moves the digest of the event's Pod on, and the registry is one
of Pods that the policies have seen if it was one when the event was passed over. -/
theorem onEventOf_returns (watch : Watch policies (some (podUid, event)) watched)
    (readableData : ReadableData codec watched.world.registryData)
    (reconcilable : Reconcilable codec selects policies)
    (passed : triggers policies (watched.world.digests.get? podUid) event = false →
      Registered codec selects policies (some (podUid, event)) watched) :
    Returns selects policies (onEventOf codec namespaceName podUid event) (fun _ later =>
      Handled codec selects policies podUid event (watched.world.digests.get? podUid) later)
      watched := by
  have frame := @frame_considered codec selects policies podUid event watched
  refine Returns.call fun asked drift => ?_
  have held : Considered codec selects policies podUid event watched asked :=
    frame.drift ⟨watch, rfl, fun passedOver => (passed passedOver).described⟩ drift
  have answered : (Watched.handle selects (.getDigest podUid) asked).1 =
      watched.world.digests.get? podUid :=
    congrArg (fun digests => digests.get? podUid) held.digests
  have relevance := @podMatches_returns selects _ _ _ _ frame (fun _ held => held.watch) held
    event.object
  -- the reconciles of an event whose digest is not the one there is
  have reconciles : triggers policies (watched.world.digests.get? podUid) event =
      mattersNowOrBefore policies (watched.world.digests.get? podUid) event →
      ∀ later, Considered codec selects policies podUid event watched later →
        later.world.registry = asked.world.registry →
        Returns selects policies (reconcileIf codec namespaceName
            (mattersNowOrBefore policies (watched.world.digests.get? podUid) event))
          (fun _ last => Considered codec selects policies podUid event watched last ∧
            Registered codec selects policies (some (podUid, event)) last) later :=
    fun decides later heldLater registry => reconsider_returns heldLater
      (registry.trans drift.registry) readableData reconcilable passed decides
  rw [answered]
  by_cases gone : event.type = .deleted
  · rw [if_pos gone]
    have reconciled : Returns selects policies (andThen (podMatchesAssignmentPolicy event.object)
          fun currentlyRelevant => reconcileIf codec namespaceName (currentlyRelevant ||
            (watched.world.digests.get? podUid).any CachedDigest.relevant))
        (fun _ last => Considered codec selects policies podUid event watched last ∧
          Registered codec selects policies (some (podUid, event)) last) asked := by
      refine relevance.andThen fun _ later ended => ?_
      obtain ⟨rfl, heldLater, registry⟩ := ended
      exact reconciles (by rw [triggers, if_pos gone]) later heldLater registry
    refine reconciled.bind fun _ last ended => ?_
    rw [← ended.1.digests]
    exact popDigest_returns ended.1.watch ended.2 gone
  · rw [if_neg gone]
    by_cases same : (watched.world.digests.get? podUid).map CachedDigest.digest =
        some (podAssignmentDigest event.object)
    · rw [if_pos same]
      have passedOver : triggers policies (watched.world.digests.get? podUid) event = false := by
        rw [triggers, if_neg gone, if_pos same]
      refine Returns.ret fun later driftLater => ?_
      have drifted := Drift.trans _ _ _ drift driftLater
      refine ⟨frame_watch.drift watch drifted, (passed passedOver).drift drifted, ?_⟩
      rw [(frame_digests watched.world.digests).drift rfl drifted, digestAfter, if_neg gone,
        if_pos same]
    · rw [if_neg same]
      refine relevance.andThen fun _ later ended => ?_
      obtain ⟨rfl, heldLater, registry⟩ := ended
      have reconciled := reconciles (by rw [triggers, if_neg gone, if_neg same]) later heldLater
        registry
      refine reconciled.andThen fun _ last ended => ?_
      rw [← ended.1.digests] at same ⊢
      exact setDigest_returns ended.1.watch ended.2 gone same

end MoveOn

end Opendps.Operator
