/-
**The agent as the actuator of a controller.**

With `--actuator agent` a tick ends in one push for each domain. The push is answered before the agent
has read a line, and never raises; what the network does with it, and what the agent reads until the next
one, is a `Fate`.

`controller_spares_agent`: over every run of a controller whose domains have GPUs of the agent only, and
for every fate of every push, the service of the agent stays up; the link has gone through a run of its
own (`AgentLink`) whose pushes are decisions that were printed, in their order, and in a dry run there
are none. So of every GPU the agent holds the cap it started with or one that was printed.
-/

import Opendps.Brain.CappedGpus
import Opendps.Controller.AgentLink
import Opendps.Controller.StandaloneRuns

namespace Opendps.Controller

open Opendps.Lib Opendps.Pdn Opendps.Brain Opendps.Telemetry Opendps.Agent

variable {F : Type} {ops : FloatOps F} {fromStr : String → Option (Value F)}

/-! ### The actuator -/

/-- What becomes of a push: the connection it gets, if it gets one, what happens on the link until the
next push, and what `get_draws` gives by then. -/
structure Fate where
  connection : ℕ
  reached : Bool
  events : List LinkEvent
  draws : Option (Dict GpuIndex ℚ)

/-- The bridge as an actuator: the link, the caps it pushed last, and what lies ahead. When nothing lies
ahead any more the agent is not reached. -/
structure LinkedAgent (F : Type) where
  link : AgentLink F
  lastCaps : Dict GpuIndex ℚ := .empty
  draws : Option (Dict GpuIndex ℚ) := none
  fates : List Fate

namespace LinkedAgent

/-- Send caps to the agent; nothing is raised when this fails. -/
def pushCaps (wire : Wire ops fromStr) (state : LinkedAgent F) (caps : Dict GpuIndex ℚ) :
    LinkedAgent F :=
  match state.fates with
  | [] => state
  | fate :: rest =>
    let opened :=
      if fate.reached then state.link.step wire (.push fate.connection caps) else state.link
    { state with
      link := run (AgentLink.step wire) opened fate.events
      draws := fate.draws
      fates := rest }

end LinkedAgent

/-- The agent, driven over the bridge. -/
def agentActuator (wire : Wire ops fromStr) : Actuator (LinkedAgent F) where
  read state idx := .ok
    { powerDraw := (state.draws.getD .empty).getD idx 0
      powerCap := state.lastCaps.getD idx 0
      maxCapW := none }
  setPowerCap state idx watts :=
    (.ok (), { state with lastCaps := state.lastCaps.set idx watts }.pushCaps wire
      (.ofList [(idx, watts)]))
  pushAllCaps := some fun state caps => (.ok (), { state with lastCaps := caps }.pushCaps wire caps)

/-- What can happen on the link between two pushes, where the bridge has the connections `bridge`. -/
def LinkEvent.Between (fromStr : String → Option (Value F)) (bridge : List ℕ) : LinkEvent → Prop
  | .push _ _ => False
  | .read _ => True
  | .breaks _ _ cut => ∀ text ∈ cut, fromStr text = none
  | .other event => event.connection ∉ bridge ∧ ∀ text cmd, event.read = .line text →
      fromStr text = some cmd → (cmd.index "cmd").asStr ≠ some "set_cap"

/-- What lies ahead: each push has a connection of its own, and other clients have others and set no
caps. -/
structure Ahead (fromStr : String → Option (Value F)) (bridge : List ℕ) (fates : List Fate) : Prop where
  own : (fates.map Fate.connection).Nodup
  inside : ∀ fate ∈ fates, fate.connection ∈ bridge
  between : ∀ fate ∈ fates, ∀ event ∈ fate.events, event.Between fromStr bridge

/-! ### One push -/

section Push

variable {wire : Wire ops fromStr} {start : SimIpcBackend F} {bridge : List ℕ}

/-- A link after a run of its own, and what is ahead of it. -/
structure OnTrack (wire : Wire ops fromStr) (start : SimIpcBackend F) (bridge : List ℕ)
    (past : List LinkEvent) (state : LinkedAgent F) : Prop where
  reached : state.link = run (AgentLink.step wire) (.new start) past
  possible : Along (AgentLink.step wire) (.new start)
    (fun _ link event => event.Possible fromStr start.gpuCount link) past
  ahead : Ahead fromStr bridge state.fates
  sent : ∀ connection ∈ state.link.sent.keys, connection ∈ bridge
  fresh : ∀ fate ∈ state.fates, fate.connection ∉ state.link.sent.keys ∧
    fate.connection ∉ state.link.server.closed

/-- A step of the environment leaves the pushes alone and ends no connection that is not open. -/
theorem between_step {link : AgentLink F} {event : LinkEvent} (between : event.Between fromStr bridge) :
    (link.step wire event).sent = link.sent ∧
      ∀ connection ∈ bridge, connection ∉ link.sent.keys →
        connection ∉ link.server.closed → connection ∉ (link.step wire event).server.closed := by
  cases event with
  | push connection caps => exact between.elim
  | read place =>
    have other : ∀ (read : IpcEvent), read.connection = place → place ∈ link.sent.keys →
        ∀ connection, connection ∉ link.sent.keys → connection ∉ link.server.closed →
          connection ∉ (link.server.step ops fromStr read).closed := by
      intro read own opened connection unused unclosed ended
      rcases List.mem_cons.mp (closed_step link.server read ended) with same | before
      · exact unused (same ▸ own ▸ opened)
      · exact unclosed before
    by_cases unread : place ∉ link.sent.keys ∨ place ∈ link.server.closed
    · have same : link.step wire (.read place) = link := if_pos unread
      rw [same]
      exact ⟨rfl, fun _ _ _ unclosed => unclosed⟩
    · have opened : place ∈ link.sent.keys := by
        by_contra unused
        exact unread (.inl unused)
      have steps : ∃ pending read, IpcEvent.connection read = place ∧
          link.step wire (.read place) =
            { link with server := link.server.step ops fromStr read, pending := pending } := by
        simp only [AgentLink.step, if_neg unread]
        cases link.pending place with
        | nil => exact ⟨link.pending, ⟨place, .failed, true⟩, rfl, rfl⟩
        | cons text rest => exact ⟨_, ⟨place, .line text, true⟩, rfl, rfl⟩
      obtain ⟨pending, read, own, same⟩ := steps
      rw [same]
      exact ⟨rfl, fun connection _ unused unclosed =>
        other read own opened connection unused unclosed⟩
  | breaks place kept cut => exact ⟨rfl, fun _ _ _ unclosed => unclosed⟩
  | other event =>
    refine ⟨rfl, fun connection own _ unclosed ended => ?_⟩
    rcases List.mem_cons.mp (closed_step link.server event ended) with same | before
    · exact between.1 (same ▸ own)
    · exact unclosed before

/-- What happens between two pushes is possible on the link. -/
theorem LinkEvent.Between.possible {link : AgentLink F} {event : LinkEvent}
    (between : event.Between fromStr bridge) (sent : ∀ connection ∈ link.sent.keys, connection ∈ bridge) :
    event.Possible fromStr start.gpuCount link := by
  cases event with
  | push connection caps => exact between.elim
  | read connection => trivial
  | breaks connection kept cut => exact between
  | other event =>
    refine ⟨fun used => between.1 (sent _ used), fun cmd received => ?_⟩
    unfold IpcServer.received at received
    split at received
    · cases received
    · cases read : event.read with
      | failed =>
        rw [read] at received
        cases received
      | line text =>
        rw [read] at received
        dsimp only at received
        split at received
        · cases received
        · exact between.2 text cmd read received

/-- A run of the environment. -/
theorem OnTrack.between {past : List LinkEvent} {state : LinkedAgent F}
    (onTrack : OnTrack wire start bridge past state) {events : List LinkEvent}
    (between : ∀ event ∈ events, event.Between fromStr bridge) :
    OnTrack wire start bridge (past ++ events)
      { state with link := run (AgentLink.step wire) state.link events } := by
  induction events using List.reverseRecOn with
  | nil =>
    rw [List.append_nil]
    exact onTrack
  | append_singleton earlier event ih =>
    have before := ih fun other member => between other (List.mem_append_left _ member)
    have now := between event (List.mem_append_right _ (List.mem_singleton_self _))
    obtain ⟨sent, unclosed⟩ :=
      @between_step F ops fromStr wire bridge (run (AgentLink.step wire) state.link earlier) event now
    rw [← List.append_assoc]
    refine ⟨?_, along_append_singleton.mpr ⟨before.possible, ?_⟩, before.ahead, ?_, fun fate member => ?_⟩
    · show run (AgentLink.step wire) state.link (earlier ++ [event]) = _
      rw [run_append_singleton, run_append_singleton, ← before.reached]
    · rw [← before.reached]
      exact now.possible before.sent
    · show ∀ connection ∈ (run (AgentLink.step wire) state.link (earlier ++ [event])).sent.keys, _
      rw [run_append_singleton, sent]
      exact before.sent
    · obtain ⟨unused, open'⟩ := before.fresh fate member
      show fate.connection ∉ (run (AgentLink.step wire) state.link (earlier ++ [event])).sent.keys ∧
        fate.connection ∉ (run (AgentLink.step wire) state.link (earlier ++ [event])).server.closed
      rw [run_append_singleton, sent]
      exact ⟨unused, unclosed _ (before.ahead.inside fate member) unused open'⟩

/-- Between two pushes there is none. -/
theorem pushes_between {events : List LinkEvent}
    (between : ∀ event ∈ events, event.Between fromStr bridge) : pushes events = [] := by
  refine List.filterMap_eq_nil_iff.mpr fun event member => ?_
  cases event with
  | push connection caps => exact (between _ member).elim
  | _ => rfl

/-- **One push** of caps for GPUs of the agent: the link stays on track, with this push or without it. -/
theorem OnTrack.pushCaps {past : List LinkEvent} {state : LinkedAgent F}
    (onTrack : OnTrack wire start bridge past state) {caps : Dict GpuIndex ℚ}
    (inside : ∀ gpu ∈ caps.keys, 0 ≤ gpu ∧ gpu < start.gpuCount) :
    ∃ more, OnTrack wire start bridge (past ++ more) (state.pushCaps wire caps) ∧
      (pushes more).Sublist [caps] := by
  unfold LinkedAgent.pushCaps
  cases ahead : state.fates with
  | nil =>
    refine ⟨[], ?_, List.nil_sublist _⟩
    rw [List.append_nil]
    exact onTrack
  | cons fate rest =>
    have here : fate ∈ state.fates := ahead ▸ List.mem_cons_self
    have later : ∀ other ∈ rest, other ∈ state.fates := fun other member =>
      ahead ▸ List.mem_cons_of_mem fate member
    have own := onTrack.ahead.own
    rw [ahead, List.map_cons, List.nodup_cons] at own
    have between := onTrack.ahead.between fate here
    have rested : Ahead fromStr bridge rest :=
      ⟨own.2, fun other member => onTrack.ahead.inside other (later other member),
        fun other member => onTrack.ahead.between other (later other member)⟩
    dsimp only
    cases fate.reached with
    | false =>
      have still : OnTrack wire start bridge past
          { state with draws := fate.draws, fates := rest } :=
        ⟨onTrack.reached, onTrack.possible, rested, onTrack.sent,
          fun other member => onTrack.fresh other (later other member)⟩
      refine ⟨fate.events, still.between between, ?_⟩
      rw [pushes_between between]
      exact List.nil_sublist _
    | true =>
      obtain ⟨unused, unclosed⟩ := onTrack.fresh fate here
      have opened : OnTrack wire start bridge (past ++ [.push fate.connection caps])
          { state with
            link := state.link.step wire (.push fate.connection caps)
            draws := fate.draws
            fates := rest } := by
        refine ⟨?_, along_append_singleton.mpr ⟨onTrack.possible, ?_⟩, rested,
          fun connection used => ?_, fun other member => ?_⟩
        · rw [run_append_singleton, ← onTrack.reached]
        · rw [← onTrack.reached]
          exact ⟨unused, unclosed, inside⟩
        · rcases Dict.mem_keys_iff.mp used with ⟨stored, found⟩
          have known : (state.link.sent.set fate.connection caps).get? connection = some stored := found
          rw [Dict.get?_set] at known
          split at known
          · next same => exact same ▸ onTrack.ahead.inside fate here
          · exact onTrack.sent connection (Dict.mem_keys_iff.mpr ⟨stored, known⟩)
        · obtain ⟨before, free⟩ := onTrack.fresh other (later other member)
          refine ⟨fun used => ?_, free⟩
          obtain ⟨stored, found⟩ := Dict.mem_keys_iff.mp used
          have known : (state.link.sent.set fate.connection caps).get? other.connection = some stored :=
            found
          rw [Dict.get?_set] at known
          split at known
          · next same => exact own.1 (same ▸ List.mem_map_of_mem member)
          · exact before (Dict.mem_keys_iff.mpr ⟨stored, known⟩)
      refine ⟨[.push fate.connection caps] ++ fate.events, ?_, ?_⟩
      · rw [← List.append_assoc]
        exact opened.between between
      · rw [pushes_append, pushes_between between, List.append_nil]
        exact List.Sublist.refl _

end Push

/-! ### The controller on the agent -/

namespace RunningController

section OnAgent

variable {wire : Wire ops fromStr} {start : SimIpcBackend F} {bridge : List ℕ}
  {first state : RunningController (LinkedAgent F)}

/-- A controller on a link that went through a run of its own, the pushes of which were printed. -/
structure Drives (wire : Wire ops fromStr) (start : SimIpcBackend F) (bridge : List ℕ)
    (first : RunningController (LinkedAgent F)) (past : List LinkEvent)
    (decisions : List BrainDecision) (state : RunningController (LinkedAgent F)) : Prop where
  same : SameController first state
  onTrack : OnTrack wire start bridge past state.actuator
  printed : state.printed = first.printed ++ decisions.map jsonLine
  pushed : (pushes past).Sublist (decisions.map BrainDecision.caps)
  dry : first.config.dryRun = true → pushes past = []

/-- The GPUs of a decision are those of its domain. -/
theorem caps_inside {loop adopted : ControlLoop} {source : Source} {moment : Moment}
    {domainName : String} {readings : Readings} {decision : BrainDecision} {brain : AnyBrain}
    (observed : loop.observe source moment domainName = (.ok readings, adopted))
    (decided : adopted.brain.decide adopted.topology domainName
      (adopted.domainState source readings moment domainName) moment.around = .ok (decision, brain)) :
    ∃ domain, loop.topology.domains.get? domainName = some domain ∧
      ∀ gpu ∈ decision.caps.keys, gpu ∈ domain.gpuIndices := by
  obtain ⟨domain, listed, owned⟩ := mem_gpuIndices_of_observe observed
  exact ⟨domain, listed, fun gpu capped =>
    owned gpu ((AnyBrain.mem_keys_decide decided gpu).mp capped).1⟩

/-- One domain. -/
theorem Drives.runDomain {past : List LinkEvent} {decisions : List BrainDecision}
    (drives : Drives wire start bridge first past decisions state)
    (inside : ∀ name domain, first.deciding.topology.domains.get? name = some domain →
      ∀ idx ∈ domain.gpuIndices, 0 ≤ idx ∧ idx < start.gpuCount)
    (gpuByIndex : Option (Dict ℤ GpuSample)) (moment : Moment) (domainName : String) :
    ∃ past decisions, Drives wire start bridge first past decisions
      (state.runDomain (agentActuator wire) gpuByIndex moment domainName).2 := by
  have same := drives.same.trans
    (sameController_runDomain (agentActuator wire) gpuByIndex moment state domainName)
  rcases runDomain_cases (agentActuator wire) gpuByIndex moment state domainName with
    ⟨exc, loop, _, ran⟩ | ⟨readings, adopted, decision, loop, observed, decided, _, ran⟩
  · rw [ran] at same ⊢
    exact ⟨past, decisions, same, drives.onTrack, drives.printed, drives.pushed, drives.dry⟩
  · obtain ⟨domain, listed, owned⟩ := caps_inside observed decided
    rw [drives.same.sameNode.domains] at listed
    have known : ∀ gpu ∈ decision.caps.keys, 0 ≤ gpu ∧ gpu < start.gpuCount := fun gpu capped =>
      inside domainName domain listed gpu (owned gpu capped)
    have config : state.config = first.config := drives.same.config
    have line : ∀ pushed : LinkedAgent F,
        ({ { state with deciding := loop }.account domainName readings.gpuDraws with
            actuator := pushed }.report domainName readings.gpuDraws decision).printed =
          first.printed ++ (decisions ++ [decision]).map jsonLine := by
      intro pushed
      show state.printed ++ [jsonLine decision] = _
      rw [drives.printed, List.map_append, List.append_assoc]
      rfl
    have longer : (pushes past).Sublist ((decisions ++ [decision]).map BrainDecision.caps) := by
      rw [List.map_append]
      exact drives.pushed.trans (List.sublist_append_left _ _)
    by_cases dry : state.config.dryRun = true
    · have effected : state.effect (agentActuator wire) decision.caps = (.ok (), state.actuator) :=
        if_pos dry
      rw [ran, effected] at same ⊢
      exact ⟨past, decisions ++ [decision], same, drives.onTrack, line state.actuator, longer, drives.dry⟩
    · have effected : state.effect (agentActuator wire) decision.caps =
          (.ok (), { state.actuator with lastCaps := decision.caps }.pushCaps wire decision.caps) :=
        if_neg dry
      have stored : OnTrack wire start bridge past
          { state.actuator with lastCaps := decision.caps } :=
        ⟨drives.onTrack.reached, drives.onTrack.possible, drives.onTrack.ahead, drives.onTrack.sent,
          drives.onTrack.fresh⟩
      obtain ⟨more, onTrack, sent⟩ := stored.pushCaps known
      rw [ran, effected] at same ⊢
      refine ⟨past ++ more, decisions ++ [decision], same, onTrack, line _, ?_, fun isDry => ?_⟩
      · rw [pushes_append, List.map_append]
        exact drives.pushed.append sent
      · rw [config] at dry
        exact absurd isDry dry

/-- **Every run of the controller is a run of the link.** -/
theorem Drives.rounds (codec : Codec) (isNew : first.actuator.link = .new start)
    (ahead : Ahead fromStr bridge first.actuator.fates)
    (inside : ∀ name domain, first.deciding.topology.domains.get? name = some domain →
      ∀ idx ∈ domain.gpuIndices, 0 ≤ idx ∧ idx < start.gpuCount) (events : List ControllerEvent) :
    ∃ past decisions, Drives wire start bridge first past decisions
      (run (loopTick codec (agentActuator wire)) first events) := by
  refine run_invariant (fun _ state => ∃ past decisions,
    Drives wire start bridge first past decisions state) ⟨[], [], .refl first, ?_, ?_, ?_, fun _ => rfl⟩
    (fun _ event state holds => ?_) events
  · refine ⟨isNew, along_nil, ahead, fun connection used => ?_,
      fun fate _ => ⟨fun used => ?_, fun used => ?_⟩⟩ <;>
      · rw [isNew] at used
        cases used
  · exact (List.append_nil _).symm
  · exact List.Sublist.refl _
  · refine @loopTick_invariant _ (agentActuator wire) state (fun state => ∃ past decisions,
      Drives wire start bridge first past decisions state) codec event (fun state before => ?_)
      (fun gpuByIndex _ state domainName before => ?_) (fun state before => before) holds
    · obtain ⟨past, decisions, drives⟩ := before
      have same := drives.same.trans (sameController_refreshTiers codec state event.polled)
      obtain ⟨source, brain, refreshed, _⟩ := refreshTiers_snd codec state event.polled
      rw [refreshed] at same ⊢
      exact ⟨past, decisions, same, drives.onTrack, drives.printed, drives.pushed, drives.dry⟩
    · obtain ⟨past, decisions, drives⟩ := before
      exact drives.runDomain inside gpuByIndex event.moment domainName

/-- **The controller spares the agent.** On a topology whose GPUs the agent has, over every run, in a dry
run or not, and whatever becomes of the pushes: the service of the agent stays up, what was pushed are
decisions that were printed, in their order, and of every GPU the agent holds the cap it started with or
one that was pushed for it. -/
theorem controller_spares_agent (codec : Codec) (wire : Wire ops fromStr)
    (small : start.gpuCount ≤ 2 ^ 64) (isNew : first.actuator.link = .new start)
    (ahead : Ahead fromStr bridge first.actuator.fates)
    (inside : ∀ name domain, first.deciding.topology.domains.get? name = some domain →
      ∀ idx ∈ domain.gpuIndices, 0 ≤ idx ∧ idx < start.gpuCount) (events : List ControllerEvent) :
    let after := run (loopTick codec (agentActuator wire)) first events
    after.actuator.link.server.backend.poisoned = false ∧
      ∃ (decisions : List BrainDecision) (pushed : List (Dict GpuIndex ℚ)),
        after.printed = first.printed ++ decisions.map jsonLine ∧
        pushed.Sublist (decisions.map BrainDecision.caps) ∧
        (first.config.dryRun = true → pushed = []) ∧
        ∀ gpu : ℕ, gpu < start.gpuCount →
          after.actuator.link.server.backend.value.getCap gpu = start.getCap gpu ∨
          ∃ caps ∈ pushed, ∃ watts, caps.get? gpu = some watts ∧
            after.actuator.link.server.backend.value.getCap gpu = some (wire.encode watts) := by
  intro after
  obtain ⟨past, decisions, drives⟩ := @Drives.rounds F ops fromStr wire start bridge first codec isNew
    ahead inside events
  have refines := refines_run small drives.onTrack.possible
  rw [← drives.onTrack.reached] at refines
  refine ⟨refines.usable, decisions, pushes past, drives.printed, drives.pushed, drives.dry,
    fun gpu known => ?_⟩
  rw [refines.caps gpu known, PushLog.held]
  cases found : (run PushLog.step {} past).inForce.get? gpu with
  | none => exact .inl rfl
  | some watts =>
    obtain ⟨caps, member, named⟩ := PushLog.exists_push_of_inForce refines.ordered found
    exact .inr ⟨caps, member, watts, named, rfl⟩

end OnAgent

/-- The demo on an agent with its three GPUs. The first push is read to its end, the next one breaks
after its first line, and others do not get through. -/
def agentDemo : RunningController (LinkedAgent String) where
  config := { telemetry := "actuator" }
  deciding := demoController.deciding
  actuator :=
    { link := .new (.new textFloats ["700.0", "700.0", "700.0"])
      fates :=
        [⟨7, true, [.read 7, .read 7, .read 7], none⟩,
         ⟨8, true, [.breaks 8 0 none, .read 8], some (.ofList [(0, 650)])⟩] }

/-- Two rounds of it. -/
theorem controller_spares_agent_demo :
    (run (loopTick (PriorityConfigSource.boostCodec 10 "10") (agentActuator wholeWatts)) agentDemo
      [demoEvent, demoEvent]).actuator.link.server.backend.poisoned = false := by
  have ahead : Ahead readSetCap [7, 8] agentDemo.actuator.fates := by
    refine ⟨by decide, by decide, fun fate member event happens => ?_⟩
    rcases List.mem_pair.mp member with rfl | rfl
    · have isRead : event = .read 7 := by simpa using happens
      subst isRead
      trivial
    · rcases List.mem_pair.mp happens with rfl | rfl
      · exact fun text none => nomatch none
      · trivial
  have table : ∀ item ∈ agentDemo.deciding.topology.domains.items, ∀ idx ∈ item.2.gpuIndices,
      0 ≤ idx ∧ idx < 3 := by decide +kernel
  have isNew : agentDemo.actuator.link = .new (.new textFloats ["700.0", "700.0", "700.0"]) := rfl
  exact (controller_spares_agent (PriorityConfigSource.boostCodec 10 "10") wholeWatts (by decide) isNew
    ahead (fun name domain present idx owned => table _ (Dict.get?_eq_some_iff.mp present) idx owned)
    [demoEvent, demoEvent]).1

end RunningController

end Opendps.Controller
