/-
**A namespace whose Pods are watched.**

`Watched` is a namespace with the events of each Pod that have not been handled yet. Pods are
created, modified and deleted at any time (`PodChange`), each change adding its event to the Pod's own
queue; UIDs are not used twice. Handlers call on the namespace inside it.

`change_cases` says what a change can do; from it, `Watch.change` and `Covers.change` say that changes
keep the trails of all Pods tied to the Pods, and what a policy once saw covered. The event that is
being handled stays first in its queue until its handler is done, and the trails are taken as they
will be then (`trailOf`).
-/

import Opendps.Operator.PodTrail

namespace Opendps.Operator

open Opendps.Lib

/-- A namespace, the events to come of each Pod, and the UIDs used so far. -/
structure Watched where
  world : World
  pending : String → List WatchEvent
  born : List String

/-- What can happen to the Pods, and to the selectors the operator remembers for a while. -/
inductive PodChange where
  | create (podUid : String) (pod : Pod)
  | modify (podUid : String) (pod : Pod)
  | delete (podUid : String)
  | expireSelectors

namespace Watched

/-- A call of a handler. -/
def handle (selects : String → Dict String String → Bool) (req : Request) (watched : Watched) :
    Answer req × Watched :=
  ((Operator.handle selects req watched.world).1,
    { watched with world := (Operator.handle selects req watched.world).2 })

/-- Store a Pod and announce it. -/
def put (watched : Watched) (podUid : String) (type : WatchEventType) (pod : Pod) : Watched where
  world := { watched.world with
    pods := watched.world.pods.set podUid { pod with uid := some podUid } }
  pending := Function.update watched.pending podUid
    (watched.pending podUid ++ [⟨type, { pod with uid := some podUid }⟩])
  born := podUid :: watched.born

/-- A change of the Pods; one that is not possible changes nothing. -/
def change (watched : Watched) : PodChange → Watched
  | .create podUid pod =>
    if podUid = "" ∨ podUid ∈ watched.born then watched else watched.put podUid .added pod
  | .modify podUid pod =>
    match watched.world.pods.get? podUid with
    | some _ => watched.put podUid .modified pod
    | none => watched
  | .delete podUid =>
    match watched.world.pods.get? podUid with
    | some pod =>
      { watched with
        world := { watched.world with pods := watched.world.pods.pop podUid }
        pending := Function.update watched.pending podUid
          (watched.pending podUid ++ [⟨.deleted, pod⟩]) }
    | none => watched
  | .expireSelectors => { watched with world := { watched.world with selectors := none } }

/-- The life of a Pod so far. -/
def lifeOf (watched : Watched) (podUid : String) : PodLife :=
  match watched.world.pods.get? podUid with
  | some pod => .live pod
  | none => if podUid ∈ watched.born then .gone else .unborn

/-- The trail of a Pod, taken as it will be once the event that is being handled is. -/
def trailOf (policies : List JobPowerPolicy) (handled : Option (String × WatchEvent))
    (watched : Watched) (podUid : String) : Trail :=
  match handled with
  | some (current, event) =>
    if podUid = current then
      Trail.handled policies event ⟨watched.world.digests.get? podUid, watched.pending podUid⟩
    else ⟨watched.world.digests.get? podUid, watched.pending podUid⟩
  | none => ⟨watched.world.digests.get? podUid, watched.pending podUid⟩

theorem pod?_lifeOf (watched : Watched) (podUid : String) :
    (watched.lifeOf podUid).pod? = watched.world.pods.get? podUid := by
  unfold lifeOf
  cases watched.world.pods.get? podUid with
  | some pod => rfl
  | none => by_cases used : podUid ∈ watched.born <;> simp [used, PodLife.pod?]

theorem lifeOf_eq_live {watched : Watched} {podUid : String} {pod : Pod} :
    watched.lifeOf podUid = .live pod ↔ watched.world.pods.get? podUid = some pod := by
  unfold lifeOf
  cases watched.world.pods.get? podUid with
  | some other => simp
  | none => by_cases used : podUid ∈ watched.born <;> simp [used]

end Watched

/-- A change that gives no Pod an annotation that a policy selecting it cannot read. -/
def PodChange.Readable (policies : List JobPowerPolicy) : PodChange → Prop
  | .create _ pod => Operator.Readable policies pod
  | .modify _ pod => Operator.Readable policies pod
  | _ => True

/-- What holds of a watched namespace between calls. -/
structure Watch (policies : List JobPowerPolicy) (handled : Option (String × WatchEvent))
    (watched : Watched) : Prop where
  known : watched.world.policies = policies
  selectors : watched.world.selectors = none ∨
    watched.world.selectors = some (selectorsOf policies)
  uid : ∀ podUid pod, watched.lifeOf podUid = .live pod → pod.uid = some podUid ∧ podUid ≠ ""
  readable : ∀ podUid pod, watched.lifeOf podUid = .live pod → Readable policies pod
  born : ∀ podUid pod, watched.lifeOf podUid = .live pod → podUid ∈ watched.born
  addressed : ∀ podUid, ∀ event ∈ watched.pending podUid,
    event.object.uid = some podUid ∧ podUid ≠ ""
  flagged : ∀ podUid, Flagged policies (watched.world.digests.get? podUid)
  tracked : ∀ podUid,
    Tracked policies (watched.lifeOf podUid) (watched.trailOf policies handled podUid)
  current : ∀ podUid event, handled = some (podUid, event) →
    ∃ rest, watched.pending podUid = event :: rest

/-- What a policy saw of some Pods is what it sees of them now, or an event to come will trigger. -/
def Covers (policies : List JobPowerPolicy) (handled : Option (String × WatchEvent))
    (policy : JobPowerPolicy) (seen : Dict String Pod) (watched : Watched) : Prop :=
  ∀ podUid, Covered policies policy ((seen.get? podUid).bind (viewOf policy))
    (watched.lifeOf podUid) (watched.trailOf policies handled podUid)

/-- The Pods there are are covered. -/
theorem covers_self (policies : List JobPowerPolicy) (handled : Option (String × WatchEvent))
    (policy : JobPowerPolicy) (watched : Watched) :
    Covers policies handled policy watched.world.pods watched := fun podUid =>
  .inl (by rw [Watched.pod?_lifeOf])

/-! ### What a change can do -/

/-- Something happens to one Pod. -/
structure Happens (policies : List JobPowerPolicy) (podUid : String) (event : WatchEvent)
    (before after : Watched) : Prop where
  step : PodLife.Step (before.lifeOf podUid) event (after.lifeOf podUid)
  others : ∀ other, other ≠ podUid → after.lifeOf other = before.lifeOf other
  pending : after.pending = Function.update before.pending podUid
    (before.pending podUid ++ [event])
  addressed : event.object.uid = some podUid ∧ podUid ≠ ""
  born : ∀ other, other ∈ before.born ∨ other = podUid → other ∈ after.born
  readable : event.type ≠ .deleted → Readable policies event.object
  digests : after.world.digests = before.world.digests
  known : after.world.policies = before.world.policies
  registry : after.world.registry = before.world.registry
  selectors : after.world.selectors = before.world.selectors

section Change

variable {policies : List JobPowerPolicy} {handled : Option (String × WatchEvent)}
  {watched : Watched}

/-- Storing a Pod happens to it. -/
theorem happens_put {podUid : String} {type : WatchEventType} {pod : Pod} (named : podUid ≠ "")
    (step : PodLife.Step (watched.lifeOf podUid) ⟨type, { pod with uid := some podUid }⟩
      (.live { pod with uid := some podUid })) (readable : Readable policies pod) :
    Happens policies podUid ⟨type, { pod with uid := some podUid }⟩ watched
      (watched.put podUid type pod) where
  step := by
    have stored : (watched.put podUid type pod).lifeOf podUid =
        .live { pod with uid := some podUid } :=
      Watched.lifeOf_eq_live.mpr (Dict.get?_set_self _ _ _)
    rw [stored]
    exact step
  others other different := by
    have found : (watched.put podUid type pod).world.pods.get? other =
        watched.world.pods.get? other := Dict.get?_set_of_ne _ _ different
    have used : other ∈ (watched.put podUid type pod).born ↔ other ∈ watched.born :=
      List.mem_cons.trans (or_iff_right different)
    simp only [Watched.lifeOf, found, used]
  pending := rfl
  addressed := ⟨rfl, named⟩
  born other used := List.mem_cons.mpr used.symm
  readable _ := readable
  digests := rfl
  known := rfl
  registry := rfl
  selectors := rfl

/-- **What a change can do**: nothing, forget the selectors, or happen to one Pod. -/
theorem change_cases (watch : Watch policies handled watched) (change : PodChange)
    (readable : change.Readable policies) :
    watched.change change = watched ∨
      watched.change change = { watched with world := { watched.world with selectors := none } } ∨
        ∃ podUid event, Happens policies podUid event watched (watched.change change) := by
  cases change with
  | create podUid pod =>
    simp only [Watched.change]
    split
    · exact .inl rfl
    · next possible =>
      push Not at possible
      have unborn : watched.lifeOf podUid = .unborn := by
        cases life : watched.lifeOf podUid with
        | unborn => rfl
        | live pod => exact absurd (watch.born podUid pod life) possible.2
        | gone =>
          unfold Watched.lifeOf at life
          split at life
          · cases life
          · rw [if_neg possible.2] at life
            cases life
      exact .inr (.inr ⟨podUid, _, happens_put possible.1 (by rw [unborn]; exact .added _) readable⟩)
  | modify podUid pod =>
    simp only [Watched.change]
    cases found : watched.world.pods.get? podUid with
    | none => exact .inl rfl
    | some before =>
      have live : watched.lifeOf podUid = .live before := Watched.lifeOf_eq_live.mpr found
      exact .inr (.inr ⟨podUid, _, happens_put (watch.uid podUid before live).2
        (by rw [live]; exact .modified _ _) readable⟩)
  | delete podUid =>
    simp only [Watched.change]
    cases found : watched.world.pods.get? podUid with
    | none => exact .inl rfl
    | some pod =>
      have live : watched.lifeOf podUid = .live pod := Watched.lifeOf_eq_live.mpr found
      have missing : (watched.world.pods.pop podUid).get? podUid = none := by simp
      refine .inr (.inr ⟨podUid, ⟨.deleted, pod⟩, ?_, ?_, rfl, watch.uid podUid pod live, ?_,
        fun kept => absurd rfl kept, rfl, rfl, rfl, rfl⟩)
      · rw [live]
        simp only [Watched.lifeOf, missing, watch.born podUid pod live, if_true]
        exact .deleted pod
      · intro other different
        have found : (watched.world.pods.pop podUid).get? other = watched.world.pods.get? other := by
          rw [Dict.get?_pop, if_neg different]
        simp only [Watched.lifeOf, found]
      · rintro other (used | rfl)
        · exact used
        · exact watch.born other pod live
  | expireSelectors => exact .inr (.inl rfl)

/-- What happens to a Pod is added to its trail. -/
theorem Happens.trailOf_self {podUid : String} {event : WatchEvent} {after : Watched}
    (happens : Happens policies podUid event watched after) (watch : Watch policies handled watched) :
    after.trailOf policies handled podUid = (watched.trailOf policies handled podUid).append event := by
  have pending : after.pending podUid = watched.pending podUid ++ [event] := by
    rw [happens.pending, Function.update_self]
  unfold Watched.trailOf
  rw [happens.digests, pending]
  cases handled with
  | none => rfl
  | some current =>
    obtain ⟨currentUid, currentEvent⟩ := current
    show ite (podUid = currentUid) _ _ = Trail.append (ite (podUid = currentUid) _ _) event
    split
    · next same =>
      obtain ⟨rest, first⟩ := watch.current currentUid currentEvent rfl
      rw [← same] at first
      unfold Trail.handled
      rw [Trail.append, first]
      rfl
    · rfl

theorem Happens.trailOf_of_ne {podUid : String} {event : WatchEvent} {after : Watched}
    (happens : Happens policies podUid event watched after) {other : String} (different : other ≠ podUid) :
    after.trailOf policies handled other = watched.trailOf policies handled other := by
  have pending : after.pending other = watched.pending other := by
    rw [happens.pending, Function.update_of_ne different]
  unfold Watched.trailOf
  rw [happens.digests, pending]

theorem Watch.happens (watch : Watch policies handled watched) {podUid : String}
    {event : WatchEvent} {after : Watched} (happens : Happens policies podUid event watched after) :
    Watch policies handled after where
  known := happens.known.trans watch.known
  selectors := by
    rw [happens.selectors]
    exact watch.selectors
  uid other pod live := by
    by_cases same : other = podUid
    · subst same
      obtain ⟨shown, _⟩ := (live ▸ happens.step).live
      rw [← shown]
      exact happens.addressed
    · rw [happens.others other same] at live
      exact watch.uid other pod live
  readable other pod live := by
    by_cases same : other = podUid
    · subst same
      obtain ⟨shown, kept⟩ := (live ▸ happens.step).live
      rw [← shown]
      exact happens.readable kept
    · rw [happens.others other same] at live
      exact watch.readable other pod live
  born other pod live := by
    by_cases same : other = podUid
    · exact happens.born other (.inr same)
    · rw [happens.others other same] at live
      exact happens.born other (.inl (watch.born other pod live))
  addressed other := by
    rw [happens.pending]
    by_cases same : other = podUid
    · subst same
      rw [Function.update_self]
      intro announced listed
      rcases List.mem_append.mp listed with before | last
      · exact watch.addressed other announced before
      · rw [List.mem_singleton.mp last]
        exact happens.addressed
    · rw [Function.update_of_ne same]
      exact watch.addressed other
  flagged other := by
    rw [happens.digests]
    exact watch.flagged other
  tracked other := by
    by_cases same : other = podUid
    · subst same
      rw [happens.trailOf_self watch]
      exact (watch.tracked other).change happens.step
    · rw [happens.trailOf_of_ne same, happens.others other same]
      exact watch.tracked other
  current current currentEvent isHandled := by
    obtain ⟨rest, first⟩ := watch.current current currentEvent isHandled
    rw [happens.pending]
    by_cases same : current = podUid
    · subst same
      exact ⟨rest ++ [event], by rw [Function.update_self, first]; rfl⟩
    · exact ⟨rest, by rw [Function.update_of_ne same, first]⟩

theorem Covers.happens {policy : JobPowerPolicy} (listed : policy ∈ policies)
    {seen : Dict String Pod} (covers : Covers policies handled policy seen watched)
    (watch : Watch policies handled watched) {podUid : String} {event : WatchEvent}
    {after : Watched} (happens : Happens policies podUid event watched after) :
    Covers policies handled policy seen after := by
  intro other
  by_cases same : other = podUid
  · subst same
    rw [happens.trailOf_self watch]
    exact covered_change listed (watch.tracked other) (covers other) happens.step
  · rw [happens.trailOf_of_ne same, happens.others other same]
    exact covers other

/-- **Changes keep the trails tied to the Pods.** -/
theorem Watch.change (watch : Watch policies handled watched) (change : PodChange)
    (readable : change.Readable policies) : Watch policies handled (watched.change change) := by
  rcases change_cases watch change readable with same | expired | ⟨podUid, event, happens⟩
  · rw [same]
    exact watch
  · rw [expired]
    exact { watch with selectors := .inl rfl }
  · exact watch.happens happens

/-- **Changes keep what a policy saw covered.** -/
theorem Covers.change {policy : JobPowerPolicy} (listed : policy ∈ policies)
    {seen : Dict String Pod} (covers : Covers policies handled policy seen watched)
    (watch : Watch policies handled watched) (change : PodChange) (readable : change.Readable policies) :
    Covers policies handled policy seen (watched.change change) := by
  rcases change_cases watch change readable with same | expired | ⟨podUid, event, happens⟩
  · rw [same]
    exact covers
  · rw [expired]
    exact covers
  · exact covers.happens listed watch happens

end Change

end Opendps.Operator
