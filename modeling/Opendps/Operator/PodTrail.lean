/-
**The digest of a Pod against its events.**

A Pod leaves a trail: the digest the operator keeps of it and the events still to be handled. Each
event either triggers the reconciles or is passed over (`triggers`), and moves the digest on
(`digestAfter`).

* `Tracked` ties the trail to the Pod: once the events are handled, the digest of a living Pod is its
  own; the events of a Pod that is gone end with its deletion.
* `Covered` says of a Pod as it once was: a policy sees the Pod the same way now, or some event of
  the trail will trigger. Each change of the Pod keeps it (`covered_change`), because an event that
  changes what a policy sees is not passed over; so a trail without events leaves nothing to catch
  up on (`eq_of_covered_nil`).
* `willTrigger_forget` says when the digest can be forgotten in between.
-/

import Opendps.Operator.PodViews

namespace Opendps.Operator

open Opendps.Lib

variable {policies : List JobPowerPolicy}

/-- The digest kept of a Pod after an event. -/
def digestAfter (policies : List JobPowerPolicy) (cached : Option CachedDigest)
    (event : WatchEvent) : Option CachedDigest :=
  if event.type = .deleted then none
  else if cached.map CachedDigest.digest = some (podAssignmentDigest event.object) then cached
  else some ⟨podAssignmentDigest event.object,
    isRelevant policies (podAssignmentDigest event.object)⟩

/-- Whether an event matters now, or mattered before. -/
def mattersNowOrBefore (policies : List JobPowerPolicy) (cached : Option CachedDigest)
    (event : WatchEvent) : Bool :=
  isRelevant policies (podAssignmentDigest event.object) || cached.any CachedDigest.relevant

/-- Whether an event triggers the reconciles. -/
def triggers (policies : List JobPowerPolicy) (cached : Option CachedDigest) (event : WatchEvent) :
    Bool :=
  if event.type = .deleted then mattersNowOrBefore policies cached event
  else if cached.map CachedDigest.digest = some (podAssignmentDigest event.object) then false
  else mattersNowOrBefore policies cached event

/-- The digest kept of a Pod and its events to come. -/
structure Trail where
  cached : Option CachedDigest
  pending : List WatchEvent

namespace Trail

/-- The digest once the events have been handled. -/
def settled (policies : List JobPowerPolicy) (trail : Trail) : Option CachedDigest :=
  trail.pending.foldl (digestAfter policies) trail.cached

/-- Whether some event to come triggers the reconciles. -/
def willTriggerFrom (policies : List JobPowerPolicy) : Option CachedDigest → List WatchEvent → Bool
  | _, [] => false
  | cached, event :: rest => triggers policies cached event ||
      willTriggerFrom policies (digestAfter policies cached event) rest

def willTrigger (policies : List JobPowerPolicy) (trail : Trail) : Bool :=
  willTriggerFrom policies trail.cached trail.pending

/-- One more event. -/
def append (trail : Trail) (event : WatchEvent) : Trail :=
  { trail with pending := trail.pending ++ [event] }

theorem settled_append (trail : Trail) (event : WatchEvent) :
    (trail.append event).settled policies = digestAfter policies (trail.settled policies) event := by
  rw [settled, append, List.foldl_append]
  rfl

theorem willTriggerFrom_append (cached : Option CachedDigest) (events : List WatchEvent)
    (event : WatchEvent) : willTriggerFrom policies cached (events ++ [event]) =
      (willTriggerFrom policies cached events ||
        triggers policies (events.foldl (digestAfter policies) cached) event) := by
  induction events generalizing cached with
  | nil => simp [willTriggerFrom]
  | cons first rest ih =>
    rw [List.cons_append, willTriggerFrom, willTriggerFrom, ih, List.foldl_cons, Bool.or_assoc]

theorem willTrigger_append (trail : Trail) (event : WatchEvent) :
    (trail.append event).willTrigger policies =
      (trail.willTrigger policies || triggers policies (trail.settled policies) event) :=
  willTriggerFrom_append trail.cached trail.pending event

end Trail

/-! ### The life of a Pod -/

inductive PodLife where
  | unborn
  | live (pod : Pod)
  | gone

namespace PodLife

/-- The Pod, while it is there. -/
def pod? : PodLife → Option Pod
  | live pod => some pod
  | _ => none

/-- What an event makes of a Pod: it is created once, changed while it lives, and deleted as it was. -/
inductive Step : PodLife → WatchEvent → PodLife → Prop where
  | added (pod : Pod) : Step unborn ⟨.added, pod⟩ (live pod)
  | modified (before after : Pod) : Step (live before) ⟨.modified, after⟩ (live after)
  | deleted (pod : Pod) : Step (live pod) ⟨.deleted, pod⟩ gone

/-- An event that leaves a Pod there shows the Pod. -/
theorem Step.live {before : PodLife} {event : WatchEvent} {pod : Pod}
    (step : Step before event (live pod)) : event.object = pod ∧ event.type ≠ .deleted := by
  cases step with
  | added => exact ⟨rfl, fun equal => nomatch equal⟩
  | modified => exact ⟨rfl, fun equal => nomatch equal⟩

end PodLife

/-- The trail of a Pod leads to what the Pod is. -/
def Tracked (policies : List JobPowerPolicy) : PodLife → Trail → Prop
  | .unborn, trail => trail.cached = none ∧ trail.pending = []
  | .live pod, trail => trail.settled policies =
      some ⟨podAssignmentDigest pod, isRelevant policies (podAssignmentDigest pod)⟩
  | .gone, trail => (trail.cached = none ∧ trail.pending = []) ∨
      ∃ events pod, trail.pending = events ++ [⟨.deleted, pod⟩]

/-- What a policy saw of a Pod is what it sees of it now, or an event to come will trigger. -/
def Covered (policies : List JobPowerPolicy) (policy : JobPowerPolicy) (seen : Option PodView)
    (life : PodLife) (trail : Trail) : Prop :=
  seen = life.pod?.bind (viewOf policy) ∨ trail.willTrigger policies = true

/-- A digest is kept with whether it matters. -/
def Flagged (policies : List JobPowerPolicy) (cached : Option CachedDigest) : Prop :=
  ∀ digest, cached = some digest → digest.relevant = isRelevant policies digest.digest

theorem flagged_none : Flagged policies none := fun _ absent => nomatch absent

/-- An event that is not a deletion leaves the digest of its own Pod. -/
theorem digestAfter_of_not_deleted {cached : Option CachedDigest} {event : WatchEvent}
    (kept : event.type ≠ .deleted) (flagged : Flagged policies cached) :
    digestAfter policies cached event = some ⟨podAssignmentDigest event.object,
      isRelevant policies (podAssignmentDigest event.object)⟩ := by
  rw [digestAfter, if_neg kept]
  split
  · next same =>
    obtain ⟨digest, rfl, equal⟩ := Option.map_eq_some_iff.mp same
    obtain ⟨inner, relevant⟩ := digest
    have flag : relevant = isRelevant policies inner := flagged _ rfl
    have digest : inner = podAssignmentDigest event.object := equal
    rw [flag, digest]
  · rfl

theorem Flagged.after {cached : Option CachedDigest} (flagged : Flagged policies cached)
    (event : WatchEvent) : Flagged policies (digestAfter policies cached event) := by
  by_cases gone : event.type = .deleted
  · rw [digestAfter, if_pos gone]
    exact flagged_none
  · rw [digestAfter_of_not_deleted gone flagged]
    rintro _ ⟨⟩
    rfl

/-- An event that does not matter leaves a digest that does not. -/
theorem irrelevant_after {cached : Option CachedDigest} (flagged : Flagged policies cached)
    {event : WatchEvent} (irrelevant : isRelevant policies (podAssignmentDigest event.object) = false) :
    (digestAfter policies cached event).any CachedDigest.relevant = false := by
  by_cases gone : event.type = .deleted
  · rw [digestAfter, if_pos gone]
    rfl
  · rw [digestAfter_of_not_deleted gone flagged]
    exact irrelevant

theorem Tracked.change {before after : PodLife} {event : WatchEvent} {trail : Trail}
    (tracked : Tracked policies before trail) (step : PodLife.Step before event after) :
    Tracked policies after (trail.append event) := by
  cases step with
  | added pod =>
    have settled : trail.settled policies = none := by
      rw [Trail.settled, tracked.1, tracked.2]
      rfl
    show (trail.append _).settled policies = _
    rw [Trail.settled_append, settled]
    exact digestAfter_of_not_deleted (fun equal => nomatch equal) flagged_none
  | modified before after =>
    show (trail.append _).settled policies = _
    rw [Trail.settled_append, tracked]
    refine digestAfter_of_not_deleted (fun equal => nomatch equal) ?_
    rintro _ ⟨⟩
    rfl
  | deleted pod => exact .inr ⟨trail.pending, pod, rfl⟩

/-- An event that changes what a policy sees is not passed over. -/
theorem covered_change {policy : JobPowerPolicy} (listed : policy ∈ policies)
    {before after : PodLife} {event : WatchEvent} {trail : Trail} {seen : Option PodView}
    (tracked : Tracked policies before trail) (covered : Covered policies policy seen before trail)
    (step : PodLife.Step before event after) :
    Covered policies policy seen after (trail.append event) := by
  rcases covered with same | triggered
  · by_cases unchanged : after.pod?.bind (viewOf policy) = before.pod?.bind (viewOf policy)
    · exact .inl (same.trans unchanged.symm)
    · refine .inr ?_
      rw [Trail.willTrigger_append, Bool.or_eq_true]
      refine .inr ?_
      cases step with
      | added pod =>
        have settled : trail.settled policies = none := by
          rw [Trail.settled, tracked.1, tracked.2]
          rfl
        obtain ⟨view, sees⟩ := Option.ne_none_iff_exists'.mp unchanged
        rw [settled]
        simp only [triggers, mattersNowOrBefore, isRelevant_of_view listed sees]
        rfl
      | modified before after =>
        have digests : ¬ podAssignmentDigest before = podAssignmentDigest after :=
          fun equal => unchanged (view_congr equal.symm)
        rw [tracked]
        simp only [triggers, mattersNowOrBefore, reduceCtorEq, if_false, Option.map_some,
          Option.some.injEq, digests, Option.any_some, Bool.or_eq_true]
        -- the policy sees the Pod before the change or after it
        cases sees : viewOf policy after with
        | some view => exact .inl (isRelevant_of_view listed sees)
        | none =>
          have saw : viewOf policy before ≠ none := fun unseen =>
            unchanged (sees.trans unseen.symm)
          obtain ⟨view, sees⟩ := Option.ne_none_iff_exists'.mp saw
          exact .inr (isRelevant_of_view listed sees)
      | deleted pod =>
        obtain ⟨view, sees⟩ := Option.ne_none_iff_exists'.mp (Ne.symm unchanged)
        simp only [triggers, mattersNowOrBefore, isRelevant_of_view listed sees]
        rfl
  · refine .inr ?_
    rw [Trail.willTrigger_append, triggered, Bool.true_or]

theorem eq_of_covered_nil {policy : JobPowerPolicy} {life : PodLife} {trail : Trail}
    {seen : Option PodView} (covered : Covered policies policy seen life trail)
    (handled : trail.pending = []) : seen = life.pod?.bind (viewOf policy) := by
  rcases covered with same | triggered
  · exact same
  · rw [Trail.willTrigger, handled] at triggered
    cases triggered

/-! ### Handling an event -/

/-- The trail once its first event has been handled. -/
def Trail.handled (policies : List JobPowerPolicy) (event : WatchEvent) (trail : Trail) : Trail where
  cached := digestAfter policies trail.cached event
  pending := trail.pending.tail

theorem Tracked.handled {life : PodLife} {event : WatchEvent} {rest : List WatchEvent}
    {trail : Trail} (tracked : Tracked policies life trail) (first : trail.pending = event :: rest) :
    Tracked policies life (trail.handled policies event) := by
  cases life with
  | unborn =>
    rw [tracked.2] at first
    cases first
  | live pod =>
    show (trail.handled policies event).settled policies = _
    rw [← tracked, Trail.settled, Trail.settled, Trail.handled, first]
    rfl
  | gone =>
    rcases tracked with ⟨_, empty⟩ | ⟨events, pod, split⟩
    · rw [empty] at first
      cases first
    · rw [first] at split
      cases events with
      | nil =>
        rw [List.nil_append, List.cons.injEq] at split
        refine .inl ⟨?_, ?_⟩
        · rw [Trail.handled, split.1]
          rfl
        · rw [Trail.handled, first, split.2]
          rfl
      | cons other events =>
        rw [List.cons_append, List.cons.injEq] at split
        exact .inr ⟨events, pod, by rw [Trail.handled, first, ← split.2]; rfl⟩

/-- An event that is passed over leaves nothing uncovered. -/
theorem Covered.handled {policy : JobPowerPolicy} {life : PodLife} {event : WatchEvent}
    {rest : List WatchEvent} {trail : Trail} {seen : Option PodView}
    (covered : Covered policies policy seen life trail) (first : trail.pending = event :: rest)
    (passed : triggers policies trail.cached event = false) :
    Covered policies policy seen life (trail.handled policies event) := by
  refine covered.imp_right fun triggered => ?_
  rw [Trail.willTrigger, first, Trail.willTriggerFrom, passed, Bool.false_or] at triggered
  rw [Trail.willTrigger, Trail.handled, first]
  exact triggered

theorem digestAfter_idem (cached : Option CachedDigest) (event : WatchEvent) :
    digestAfter policies (digestAfter policies cached event) event =
      digestAfter policies cached event := by
  by_cases gone : event.type = .deleted
  · simp only [digestAfter, gone, if_true]
  · by_cases same : cached.map CachedDigest.digest = some (podAssignmentDigest event.object)
    · simp only [digestAfter, gone, same, if_true, if_false]
    · simp only [digestAfter, gone, same, if_true, if_false, Option.map_some]

/-! ### Forgetting a digest -/

/-- Without a digest that matters, an event that matters is not passed over. -/
theorem willTriggerFrom_of_relevant {cached : Option CachedDigest} {events : List WatchEvent}
    (flagged : Flagged policies cached) (unimportant : cached.any CachedDigest.relevant = false)
    {event : WatchEvent} (listed : event ∈ events)
    (relevant : isRelevant policies (podAssignmentDigest event.object) = true) :
    Trail.willTriggerFrom policies cached events = true := by
  induction events generalizing cached with
  | nil => cases listed
  | cons first rest ih =>
    rw [Trail.willTriggerFrom, Bool.or_eq_true]
    by_cases now : isRelevant policies (podAssignmentDigest first.object) = true
    · -- its digest differs from one that does not matter
      refine .inl ?_
      have other : cached.map CachedDigest.digest ≠ some (podAssignmentDigest first.object) := by
        intro same
        obtain ⟨digest, rfl, equal⟩ := Option.map_eq_some_iff.mp same
        rw [Option.any_some, flagged digest rfl, equal, now] at unimportant
        cases unimportant
      simp only [triggers, mattersNowOrBefore, other, if_false, now, Bool.true_or, ite_self]
    · refine .inr (ih (flagged.after first) (irrelevant_after flagged (Bool.eq_false_iff.mpr now)) ?_)
      rcases List.mem_cons.mp listed with rfl | later
      · exact absurd relevant now
      · exact later

/-- Without a digest or an event that matters, nothing is triggered. -/
theorem willTriggerFrom_of_irrelevant {cached : Option CachedDigest} {events : List WatchEvent}
    (flagged : Flagged policies cached) (unimportant : cached.any CachedDigest.relevant = false)
    (irrelevant : ∀ event ∈ events,
      isRelevant policies (podAssignmentDigest event.object) = false) :
    Trail.willTriggerFrom policies cached events = false := by
  induction events generalizing cached with
  | nil => rfl
  | cons first rest ih =>
    have now := irrelevant first List.mem_cons_self
    rw [Trail.willTriggerFrom, ih (flagged.after first) (irrelevant_after flagged now) fun event later =>
      irrelevant event (List.mem_cons_of_mem _ later), Bool.or_false]
    simp only [triggers, mattersNowOrBefore, now, unimportant, Bool.or_false, ite_self]

/-- The digest of a Pod can be forgotten when it does not matter, or when an event that matters is
still to come. -/
theorem willTrigger_forget {cached : Option CachedDigest} {events : List WatchEvent}
    (flagged : Flagged policies cached)
    (recoverable : cached.any CachedDigest.relevant = false ∨
      ∃ event ∈ events, isRelevant policies (podAssignmentDigest event.object) = true)
    (triggered : Trail.willTriggerFrom policies cached events = true) :
    Trail.willTriggerFrom policies none events = true := by
  by_cases coming : ∃ event ∈ events,
      isRelevant policies (podAssignmentDigest event.object) = true
  · obtain ⟨event, listed, relevant⟩ := coming
    exact willTriggerFrom_of_relevant flagged_none rfl listed relevant
  · have unimportant := recoverable.resolve_right coming
    push Not at coming
    rw [willTriggerFrom_of_irrelevant flagged unimportant fun event listed =>
      Bool.eq_false_iff.mpr (coming event listed)] at triggered
    cases triggered

end Opendps.Operator
