/-
**Caps on their way to the agent.**

A push of the bridge opens a connection, writes one `set_cap` line for each cap and does not wait: the
agent reads every connection on a thread of its own, so the lines of several pushes are under way at once
and are read in any order that keeps each connection's. `AgentLink` is both ends and what is between
them; a step is a push, a read, a connection that breaks, or a read of another client.

`PushLog` is the same without text, parser and backend: queues of caps, and the caps in the order they
came through. The link refines it (`refines_step`), which gives what holds over every interleaving:

* `caps_arrive_in_order`: the service stays up, every connection's caps come through from the first on,
  none twice and none made up, and the agent holds of every GPU the cap that came through last.
* `agent_holds_last_pushes`: if each push was read to its end before the next one, these are the last
  caps pushed; `late_push_wins` is an order of reads with the older caps in force.

The parser of the agent is a parameter; `Wire` says what it makes of the lines of a push.
-/

import Opendps.Agent.Ipc
import Opendps.Pdn.Model

namespace Opendps.Controller

open Opendps.Lib Opendps.Pdn Opendps.Agent

variable {F : Type} {ops : FloatOps F} {fromStr : String → Option (Value F)}

/-! ### The lines of a push -/

/-- The line for one cap. -/
def setCapLine (repr : ℚ → String) (gpu : GpuIndex) (watts : ℚ) : String :=
  "\x7b\"cmd\": \"set_cap\", \"gpu\": " ++ toString gpu ++ ", \"watts\": " ++ repr watts ++ "\x7d"

/-- What the parser makes of such a line: how Python writes a float, and which float the agent reads. -/
structure Wire (ops : FloatOps F) (fromStr : String → Option (Value F)) where
  repr : ℚ → String
  encode : ℚ → F
  parses : ∀ gpu : ℕ, gpu < 2 ^ 64 → ∀ watts, ∃ number : Value F,
    number.asF64 ops = some (encode watts) ∧
      fromStr (setCapLine repr gpu watts) = some (.object
        [("cmd", .string "set_cap"), ("gpu", .number (.posInt (UInt64.ofNat gpu))), ("watts", number)])

/-- The line of a cap. -/
def Wire.line (wire : Wire ops fromStr) (cap : GpuIndex × ℚ) : String :=
  setCapLine wire.repr cap.1 cap.2

/-- No line of a push is blank. -/
theorem Wire.line_not_blank (wire : Wire ops fromStr) (cap : GpuIndex × ℚ) :
    ¬ (wire.line cap).toList.all isWhitespace = true := by
  have starts : ∃ rest, (wire.line cap).toList = '\x7b' :: rest := by
    unfold Wire.line setCapLine
    simp only [String.toList_append]
    exact ⟨_, rfl⟩
  obtain ⟨rest, starts⟩ := starts
  rw [starts, List.all_cons]
  have first : isWhitespace '\x7b' = false := by decide
  rw [first, Bool.false_and]
  exact Bool.false_ne_true

/-! ### A reader of these lines -/

/-- Floats kept as they are written. -/
def textFloats : FloatOps String where
  ofU64 n := toString n.toNat
  ofI64 n := toString n.toInt
  isFinite _ := true

def setCapHead : List Char := "\x7b\"cmd\": \"set_cap\", \"gpu\": ".toList

def setCapMiddle : List Char := ", \"watts\": ".toList

/-- A parser of the lines of a push. -/
def readSetCap (text : String) : Option (Value String) :=
  if setCapHead.isPrefixOf text.toList then
    let rest := text.toList.drop setCapHead.length
    let watts := ((rest.dropWhile Char.isDigit).drop setCapMiddle.length).dropLast
    some (.object
      [("cmd", .string "set_cap"),
       ("gpu", .number (.posInt (UInt64.ofNat (Nat.ofDigitChars 10 (rest.takeWhile Char.isDigit) 0)))),
       ("watts", .number (.float (String.ofList watts)))])
  else none

theorem readSetCap_setCapLine (repr : ℚ → String) (gpu : ℕ) (watts : ℚ) :
    readSetCap (setCapLine repr gpu watts) = some (.object
      [("cmd", .string "set_cap"), ("gpu", .number (.posInt (UInt64.ofNat gpu))),
       ("watts", .number (.float (repr watts)))]) := by
  have chars : (setCapLine repr gpu watts).toList = setCapHead ++
      (Nat.toDigits 10 gpu ++ (setCapMiddle ++ ((repr watts).toList ++ ['\x7d']))) := by
    have digits : (toString ((gpu : ℕ) : ℤ)).toList = Nat.toDigits 10 gpu := Nat.toList_repr
    unfold setCapLine
    simp only [String.toList_append, List.append_assoc, digits]
    rfl
  have isDigits : ∀ c ∈ Nat.toDigits 10 gpu, c.isDigit = true := fun c member =>
    Nat.isDigit_of_mem_toDigits (by decide) (by decide) member
  have stops : (setCapMiddle ++ ((repr watts).toList ++ ['\x7d'])).takeWhile Char.isDigit = [] := rfl
  have keeps : (setCapMiddle ++ ((repr watts).toList ++ ['\x7d'])).dropWhile Char.isDigit =
      setCapMiddle ++ ((repr watts).toList ++ ['\x7d']) := rfl
  unfold readSetCap
  rw [chars, if_pos (List.isPrefixOf_iff_prefix.mpr (List.prefix_append _ _))]
  dsimp only
  rw [List.drop_left, List.takeWhile_append_of_pos isDigits, List.dropWhile_append_of_pos isDigits,
    stops, keeps, List.append_nil, List.drop_left, List.dropLast_concat, Nat.ofDigitChars_ten_toDigits,
    String.ofList_toList]

/-- Whole watts, written as Python does. -/
def wholeWatts : Wire textFloats readSetCap where
  repr watts := toString (watts.num / watts.den) ++ ".0"
  encode watts := toString (watts.num / watts.den) ++ ".0"
  parses gpu _ watts := ⟨_, rfl, readSetCap_setCapLine _ gpu watts⟩

/-! ### Both ends -/

/-- The bridge, the agent, and the lines between them. A connection has one push. -/
structure AgentLink (F : Type) where
  server : IpcServer F
  pending : ℕ → List String := fun _ => []
  sent : Dict ℕ (Dict GpuIndex ℚ) := .empty

/-- What can happen on the link. The agent reads what the bridge has opened; when a connection breaks, it
still gets the first `kept` lines under way, and maybe the start of the next one. -/
inductive LinkEvent where
  | push (connection : ℕ) (caps : Dict GpuIndex ℚ)
  | read (connection : ℕ)
  | breaks (connection : ℕ) (kept : ℕ) (cut : Option String)
  | other (event : IpcEvent)

/-- One step of the link. -/
def AgentLink.step (wire : Wire ops fromStr) (link : AgentLink F) : LinkEvent → AgentLink F
  | .push connection caps =>
    { link with
      pending := Function.update link.pending connection (caps.items.map wire.line)
      sent := link.sent.set connection caps }
  | .read connection =>
    if connection ∉ link.sent.keys ∨ connection ∈ link.server.closed then link
    else
      match link.pending connection with
      | [] => { link with server := link.server.step ops fromStr ⟨connection, .failed, true⟩ }
      | text :: rest =>
        { link with
          server := link.server.step ops fromStr ⟨connection, .line text, true⟩
          pending := Function.update link.pending connection rest }
  | .breaks connection kept cut =>
    { link with
      pending := Function.update link.pending connection
        ((link.pending connection).take kept ++ cut.toList) }
  | .other event => { link with server := link.server.step ops fromStr event }

/-- The link of a new bridge to an agent. -/
def AgentLink.new (backend : SimIpcBackend F) : AgentLink F where
  server := { backend := ⟨backend, false⟩ }

/-- What a step may be, on an agent with `n` GPUs: a push has a connection of its own and names GPUs the
agent has, the start of a line does not parse, and no other client sets caps or uses a connection of the
bridge. -/
def LinkEvent.Possible (fromStr : String → Option (Value F)) (n : ℕ) (link : AgentLink F) :
    LinkEvent → Prop
  | .push connection caps =>
    connection ∉ link.sent.keys ∧ connection ∉ link.server.closed ∧
      ∀ gpu ∈ caps.keys, 0 ≤ gpu ∧ gpu < n
  | .read _ => True
  | .breaks _ _ cut => ∀ text ∈ cut, fromStr text = none
  | .other event => event.connection ∉ link.sent.keys ∧
      ∀ cmd, link.server.received fromStr event = some cmd → (cmd.index "cmd").asStr ≠ some "set_cap"

/-! ### Without the text -/

/-- The pushes, the caps under way on each connection, and the caps that came through. -/
structure PushLog where
  sent : Dict ℕ (Dict GpuIndex ℚ) := .empty
  queue : ℕ → List (GpuIndex × ℚ) := fun _ => []
  applied : List (ℕ × GpuIndex × ℚ) := []

namespace PushLog

/-- One step. -/
def step (log : PushLog) : LinkEvent → PushLog
  | .push connection caps =>
    { log with
      queue := Function.update log.queue connection caps.items
      sent := log.sent.set connection caps }
  | .read connection =>
    match log.queue connection with
    | [] => log
    | cap :: rest =>
      { log with
        queue := Function.update log.queue connection rest
        applied := log.applied ++ [(connection, cap)] }
  | .breaks connection kept _ =>
    { log with queue := Function.update log.queue connection ((log.queue connection).take kept) }
  | .other _ => log

/-- The caps that came through on a connection. -/
def through (log : PushLog) (connection : ℕ) : List (GpuIndex × ℚ) :=
  (log.applied.filter fun entry => entry.1 = connection).map Prod.snd

/-- The caps pushed on a connection. -/
def pushed (log : PushLog) (connection : ℕ) : List (GpuIndex × ℚ) :=
  ((log.sent.get? connection).map Dict.items).getD []

/-- Of every GPU the cap that came through last. -/
def inForce (log : PushLog) : Dict GpuIndex ℚ := .ofList (log.applied.map Prod.snd)

/-- Every connection's caps come through from the first on, and are then under way in order. -/
def Ordered (log : PushLog) : Prop :=
  ∀ connection, log.through connection ++ log.queue connection <+: log.pushed connection

variable {log : PushLog}

theorem step_read_nil {connection : ℕ} (queued : log.queue connection = []) :
    log.step (.read connection) = log := by
  simp only [step, queued]

theorem step_read_cons {connection : ℕ} {cap : GpuIndex × ℚ} {rest : List (GpuIndex × ℚ)}
    (queued : log.queue connection = cap :: rest) : log.step (.read connection) =
      { log with
        queue := Function.update log.queue connection rest
        applied := log.applied ++ [(connection, cap)] } := by
  simp only [step, queued]

/-- What has come through and what is under way, after a read that found a cap. -/
theorem underWay_read {connection : ℕ} {cap : GpuIndex × ℚ} {rest : List (GpuIndex × ℚ)}
    (queued : log.queue connection = cap :: rest) (place : ℕ) :
    (log.step (.read connection)).through place ++ (log.step (.read connection)).queue place =
      log.through place ++ log.queue place := by
  rw [step_read_cons queued]
  show ((log.applied ++ [(connection, cap)]).filter fun entry => entry.1 = place).map Prod.snd ++
    Function.update log.queue connection rest place = log.through place ++ log.queue place
  rw [List.filter_append, List.map_append, Function.update_apply]
  by_cases here : place = connection
  · subst here
    have last : ([(place, cap)].filter fun entry => entry.1 = place).map Prod.snd = [cap] := by simp
    rw [if_pos rfl, List.append_assoc, last, queued]
    rfl
  · have other : ([(connection, cap)].filter fun entry => entry.1 = place).map Prod.snd = [] := by
      simp [Ne.symm here]
    rw [if_neg here, other, List.append_nil]
    rfl

/-- Nothing is under way, and nothing came through, where nothing was pushed. -/
theorem Ordered.fresh (ordered : log.Ordered) {connection : ℕ}
    (unused : connection ∉ log.sent.keys) :
    log.through connection = [] ∧ log.queue connection = [] := by
  have none : log.pushed connection = [] := by
    rw [pushed, Dict.get?_eq_none_iff.mpr unused]
    rfl
  have nothing := ordered connection
  rw [none, List.prefix_nil] at nothing
  exact List.append_eq_nil_iff.mp nothing

/-- **One step keeps the order.** -/
theorem Ordered.step (ordered : log.Ordered) {event : LinkEvent}
    (own : ∀ connection caps, event = .push connection caps → connection ∉ log.sent.keys) :
    (log.step event).Ordered := by
  intro place
  cases event with
  | push connection caps =>
    have unused := own connection caps rfl
    show log.through place ++ Function.update log.queue connection caps.items place <+:
      (((log.sent.set connection caps).get? place).map Dict.items).getD []
    rw [Dict.get?_set, Function.update_apply]
    by_cases here : place = connection
    · subst here
      rw [if_pos rfl, if_pos rfl, (ordered.fresh unused).1]
      exact List.prefix_rfl
    · rw [if_neg here, if_neg here]
      exact ordered place
  | read connection =>
    have before := ordered place
    cases queued : log.queue connection with
    | nil =>
      rw [step_read_nil queued]
      exact before
    | cons cap rest =>
      have same : (log.step (.read connection)).pushed place = log.pushed place := by
        rw [step_read_cons queued]
        rfl
      rw [underWay_read queued, same]
      exact before
  | breaks connection kept cut =>
    show log.through place ++ Function.update log.queue connection
      ((log.queue connection).take kept) place <+: log.pushed place
    rw [Function.update_apply]
    by_cases here : place = connection
    · subst here
      rw [if_pos rfl]
      exact ((List.prefix_append_right_inj _).mpr (List.take_prefix kept _)).trans (ordered place)
    · rw [if_neg here]
      exact ordered place
  | other event => exact ordered place

end PushLog

/-! ### What the agent makes of a line -/

section Server

variable {server : IpcServer F} {connection : ℕ}

/-- A line for a GPU of the agent sets that GPU's cap. -/
theorem step_line (wire : Wire ops fromStr) {gpu : ℕ} {watts : ℚ}
    (inside : gpu < server.backend.value.gpuCount) (small : server.backend.value.gpuCount ≤ 2 ^ 64)
    (unclosed : connection ∉ server.closed) (usable : server.backend.poisoned = false) :
    ∃ after, server.step ops fromStr ⟨connection, .line (wire.line (gpu, watts)), true⟩ =
        { server with backend := ⟨after, false⟩ } ∧
      after.draws = server.backend.value.draws ∧
      after.lastCaps = server.backend.value.lastCaps.set gpu (wire.encode watts) := by
  obtain ⟨number, isWatts, parsed⟩ := wire.parses gpu (inside.trans_le small) watts
  have received : server.received fromStr ⟨connection, .line (wire.line (gpu, watts)), true⟩ =
      some (.object [("cmd", .string "set_cap"), ("gpu", .number (.posInt (UInt64.ofNat gpu))),
        ("watts", number)]) := by
    unfold IpcServer.received
    rw [if_neg unclosed]
    dsimp only
    rw [if_neg (wire.line_not_blank _)]
    exact parsed
  have sameGpu : (UInt64.ofNat gpu).toNat = gpu :=
    UInt64.toNat_ofNat_of_lt' (inside.trans_le small)
  obtain ⟨after, answered, draws, caps⟩ := @dispatch_setCap F ops (.object
      [("cmd", .string "set_cap"), ("gpu", .number (.posInt (UInt64.ofNat gpu))), ("watts", number)])
    server.backend rfl (UInt64.ofNat gpu) (wire.encode watts) rfl isWatts (sameGpu.symm ▸ inside)
    usable
  rw [sameGpu] at caps
  refine ⟨after, ?_, draws, caps⟩
  unfold IpcServer.step
  rw [received]
  dsimp only
  rw [answered]

/-- A line that does not parse changes nothing. -/
theorem step_junk {text : String} (refused : fromStr text = none) :
    server.step ops fromStr ⟨connection, .line text, true⟩ = server := by
  have received : server.received fromStr ⟨connection, .line text, true⟩ = none := by
    unfold IpcServer.received
    split
    · rfl
    · dsimp only
      split
      · rfl
      · exact refused
  unfold IpcServer.step
  rw [received]

/-- A command of another kind leaves a usable backend alone. -/
theorem backend_dispatch_of_not_setCap {cmd : Value F} {backend : Mutex (SimIpcBackend F)}
    (usable : backend.poisoned = false) (kind : (cmd.index "cmd").asStr ≠ some "set_cap") :
    (dispatch ops cmd backend).backend = backend := by
  obtain ⟨b, poisoned⟩ := backend
  subst usable
  unfold dispatch
  cases op : (cmd.index "cmd").asStr with
  | none => rfl
  | some name =>
    rw [op] at kind
    have notSet : name ≠ "set_cap" := fun same => kind (congrArg some same)
    simp only [Mutex.lock, Bool.false_eq_true, if_false, notSet]
    by_cases getDraws : name = "get_draws"
    · obtain ⟨entries, collected, _⟩ := perGpu_of_known ops (getDraw_isSome b)
      simp [getDraws, collected, Dispatched.backend]
    · by_cases getCaps : name = "get_caps"
      · obtain ⟨entries, collected, _⟩ := perGpu_of_known ops (getCap_isSome b)
        simp [getCaps, collected, Dispatched.backend]
      · simp [getDraws, getCaps, Dispatched.backend]

/-- Which connections a read can end: its own. -/
theorem closed_step (server : IpcServer F) (event : IpcEvent) :
    (server.step ops fromStr event).closed ⊆ event.connection :: server.closed := by
  unfold IpcServer.step
  have kept : server.closed ⊆ event.connection :: server.closed := List.subset_cons_self _ _
  split
  · split
    · exact List.Subset.refl _
    · exact kept
  · split
    · exact kept
    · split
      · exact kept
      · exact List.Subset.refl _
    · exact List.Subset.refl _

end Server

/-! ### The link refines the log -/

section Refinement

variable {wire : Wire ops fromStr} {start : SimIpcBackend F} {link : AgentLink F} {log : PushLog}

/-- The cap of a GPU after some caps came through: the last of them, or the one from the start. -/
def PushLog.held (wire : Wire ops fromStr) (start : SimIpcBackend F) (log : PushLog) (gpu : ℕ) :
    Option F :=
  match log.inForce.get? gpu with
  | some watts => some (wire.encode watts)
  | none => start.getCap gpu

/-- The link stands where the log stands: what is under way is text, after it at most what does not
parse, and the agent holds the caps in force. -/
structure Refines (wire : Wire ops fromStr) (start : SimIpcBackend F) (link : AgentLink F)
    (log : PushLog) : Prop where
  sent : link.sent = log.sent
  usable : link.server.backend.poisoned = false
  draws : link.server.backend.value.draws = start.draws
  caps : ∀ gpu : ℕ, gpu < start.gpuCount →
    link.server.backend.value.getCap gpu = log.held wire start gpu
  wired : ∀ connection, ∃ junk, link.pending connection = (log.queue connection).map wire.line ++ junk ∧
    ∀ text ∈ junk, fromStr text = none
  ended : ∀ connection ∈ link.server.closed, log.queue connection = []
  ordered : log.Ordered
  inside : ∀ connection caps, log.sent.get? connection = some caps →
    ∀ gpu ∈ caps.keys, 0 ≤ gpu ∧ gpu < start.gpuCount

theorem refines_new (wire : Wire ops fromStr) (start : SimIpcBackend F) :
    Refines wire start (.new start) {} where
  sent := rfl
  usable := rfl
  draws := rfl
  caps _ _ := rfl
  wired _ := ⟨[], rfl, fun _ member => nomatch member⟩
  ended _ member := nomatch member
  ordered _ := List.prefix_rfl
  inside _ _ found := nomatch found

/-- What is under way is for GPUs of the agent. -/
theorem Refines.inside_queue (refines : Refines wire start link log) {connection : ℕ}
    {cap : GpuIndex × ℚ} (queued : cap ∈ log.queue connection) :
    0 ≤ cap.1 ∧ cap.1 < start.gpuCount := by
  have pushed := (refines.ordered connection).subset (List.mem_append_right _ queued)
  unfold PushLog.pushed at pushed
  cases found : log.sent.get? connection with
  | none =>
    rw [found] at pushed
    exact nomatch pushed
  | some caps =>
    rw [found] at pushed
    exact refines.inside connection caps found cap.1 (List.mem_map_of_mem pushed)

theorem Refines.count (refines : Refines wire start link log) :
    link.server.backend.value.gpuCount = start.gpuCount := by
  rw [SimIpcBackend.gpuCount, refines.draws, SimIpcBackend.gpuCount]

/-- A push. -/
theorem Refines.push (refines : Refines wire start link log) {connection : ℕ}
    {caps : Dict GpuIndex ℚ}
    (possible : (LinkEvent.push connection caps).Possible fromStr start.gpuCount link) :
    Refines wire start (link.step wire (.push connection caps)) (log.step (.push connection caps)) := by
  obtain ⟨unused, unclosed, inside⟩ := possible
  refine ⟨?_, refines.usable, refines.draws, refines.caps, fun place => ?_, fun place closed => ?_,
    refines.ordered.step fun _ _ same => ?_, fun place found sent gpu named => ?_⟩
  · show link.sent.set connection caps = log.sent.set connection caps
    rw [refines.sent]
  · show ∃ junk, Function.update link.pending connection (caps.items.map wire.line) place =
      (Function.update log.queue connection caps.items place).map wire.line ++ junk ∧ _
    rw [Function.update_apply, Function.update_apply]
    by_cases here : place = connection
    · rw [if_pos here, if_pos here]
      exact ⟨[], (List.append_nil _).symm, fun _ member => nomatch member⟩
    · rw [if_neg here, if_neg here]
      exact refines.wired place
  · show Function.update log.queue connection caps.items place = []
    have other : place ≠ connection := fun same => unclosed (same ▸ closed)
    rw [Function.update_of_ne other]
    exact refines.ended place closed
  · cases same
    exact refines.sent ▸ unused
  · have stored : (log.sent.set connection caps).get? place = some found := sent
    rw [Dict.get?_set] at stored
    split at stored
    · cases stored
      exact inside gpu named
    · exact refines.inside place found stored gpu named

/-- The cap of each GPU after one more came through. -/
theorem PushLog.get?_inForce_read {connection : ℕ} {cap : GpuIndex × ℚ}
    {rest : List (GpuIndex × ℚ)} (queued : log.queue connection = cap :: rest) (gpu : GpuIndex) :
    (log.step (.read connection)).inForce.get? gpu =
      if gpu = cap.1 then some cap.2 else log.inForce.get? gpu := by
  rw [step_read_cons queued]
  show (Dict.ofList ((log.applied ++ [(connection, cap)]).map Prod.snd)).get? gpu = _
  rw [List.map_append, Dict.ofList, Dict.setAll, List.foldl_append]
  exact Dict.get?_set _ _ _ _

/-- A read: the next line, the end of the connection, or what does not parse. -/
theorem Refines.read (refines : Refines wire start link log) (small : start.gpuCount ≤ 2 ^ 64)
    (connection : ℕ) :
    Refines wire start (link.step wire (.read connection)) (log.step (.read connection)) := by
  have ordered : (log.step (.read connection)).Ordered :=
    refines.ordered.step fun _ _ none => nomatch none
  by_cases unread : connection ∉ link.sent.keys ∨ connection ∈ link.server.closed
  · have same : link.step wire (.read connection) = link := if_pos unread
    have nothing : log.queue connection = [] := by
      rcases unread with unused | closed
      · exact (refines.ordered.fresh (refines.sent ▸ unused)).2
      · exact refines.ended connection closed
    rw [same, PushLog.step_read_nil nothing]
    exact refines
  have closed : connection ∉ link.server.closed := fun ended => unread (.inr ended)
  obtain ⟨junk, underWay, refused⟩ := refines.wired connection
  cases queued : log.queue connection with
  | nil =>
    rw [PushLog.step_read_nil queued]
    rw [queued, List.map_nil, List.nil_append] at underWay
    cases junk with
    | nil =>
      have ends : link.step wire (.read connection) = { link with
          server := { link.server with closed := connection :: link.server.closed } } := by
        simp only [AgentLink.step, unread, if_false, underWay]
        simp [IpcServer.step, IpcServer.received]
      rw [ends]
      refine ⟨refines.sent, refines.usable, refines.draws, refines.caps, refines.wired,
        fun place member => ?_, refines.ordered, refines.inside⟩
      rcases List.mem_cons.mp member with rfl | before
      · exact queued
      · exact refines.ended place before
    | cons text rest =>
      have skips : link.step wire (.read connection) =
          { link with pending := Function.update link.pending connection rest } := by
        simp only [AgentLink.step, unread, if_false, underWay,
          step_junk (refused text List.mem_cons_self)]
      rw [skips]
      refine ⟨refines.sent, refines.usable, refines.draws, refines.caps, fun place => ?_,
        refines.ended, refines.ordered, refines.inside⟩
      show ∃ junk, Function.update link.pending connection rest place = _ ∧ _
      rw [Function.update_apply]
      by_cases here : place = connection
      · subst here
        rw [if_pos rfl, queued]
        exact ⟨rest, rfl, fun other member => refused other (List.mem_cons_of_mem _ member)⟩
      · rw [if_neg here]
        exact refines.wired place
  | cons cap rest =>
    have inside := refines.inside_queue (queued ▸ List.mem_cons_self)
    obtain ⟨gpu, isGpu⟩ := Int.eq_ofNat_of_zero_le inside.1
    obtain ⟨index, watts⟩ := cap
    dsimp only at isGpu inside
    subst isGpu
    have below : gpu < link.server.backend.value.gpuCount := by
      rw [refines.count]
      exact_mod_cast inside.2
    obtain ⟨after, answered, draws, lastCaps⟩ := @step_line F ops fromStr link.server connection wire
      gpu watts below (refines.count ▸ small) closed refines.usable
    rw [queued, List.map_cons, List.cons_append] at underWay
    have sets : link.step wire (.read connection) = { link with
        server := { link.server with backend := ⟨after, false⟩ }
        pending := Function.update link.pending connection (rest.map wire.line ++ junk) } := by
      simp only [AgentLink.step, unread, if_false, underWay]
      exact congrArg (fun server => AgentLink.mk server
        (Function.update link.pending connection (rest.map wire.line ++ junk)) link.sent) answered
    rw [sets]
    have next := PushLog.step_read_cons queued
    refine ⟨?_, rfl, draws.trans refines.draws, fun other known => ?_, fun place => ?_,
      fun place member => ?_, ordered, ?_⟩
    · rw [next]
      exact refines.sent
    · rw [PushLog.held, PushLog.get?_inForce_read queued]
      show after.lastCaps[other]? = _
      rw [lastCaps]
      by_cases same : other = gpu
      · subst same
        have stored : other < link.server.backend.value.lastCaps.length := by
          rw [link.server.backend.value.aligned]
          exact below
        rw [List.getElem?_set_self stored, if_pos rfl]
      · have different : (other : GpuIndex) ≠ (gpu : GpuIndex) := fun equal =>
          same (by exact_mod_cast equal)
        rw [List.getElem?_set_ne (Ne.symm same), if_neg different]
        exact refines.caps other known
    · rw [next]
      show ∃ junk, Function.update link.pending connection _ place =
        (Function.update log.queue connection rest place).map wire.line ++ junk ∧ _
      rw [Function.update_apply, Function.update_apply]
      by_cases here : place = connection
      · rw [if_pos here, if_pos here]
        exact ⟨junk, rfl, refused⟩
      · rw [if_neg here, if_neg here]
        exact refines.wired place
    · rw [next]
      show Function.update log.queue connection rest place = []
      have other : place ≠ connection := fun same => closed (same ▸ member)
      rw [Function.update_of_ne other]
      exact refines.ended place member
    · rw [next]
      exact refines.inside

/-- A connection that breaks. -/
theorem Refines.breaks (refines : Refines wire start link log) {connection kept : ℕ}
    {cut : Option String} (refused : ∀ text ∈ cut, fromStr text = none) :
    Refines wire start (link.step wire (.breaks connection kept cut))
      (log.step (.breaks connection kept cut)) := by
  refine ⟨refines.sent, refines.usable, refines.draws, refines.caps, fun place => ?_,
    fun place member => ?_, refines.ordered.step fun _ _ none => (nomatch none), refines.inside⟩
  · show ∃ junk, Function.update link.pending connection _ place =
      (Function.update log.queue connection _ place).map wire.line ++ junk ∧ _
    rw [Function.update_apply, Function.update_apply]
    by_cases here : place = connection
    · rw [if_pos here, if_pos here]
      obtain ⟨junk, underWay, unparsed⟩ := refines.wired connection
      refine ⟨junk.take (kept - (log.queue connection).length) ++ cut.toList, ?_, fun text member => ?_⟩
      · rw [underWay, List.take_append, List.length_map, List.map_take, List.append_assoc]
      · rcases List.mem_append.mp member with before | new
        · exact unparsed text (List.mem_of_mem_take before)
        · exact refused text (Option.mem_toList.mp new)
    · rw [if_neg here, if_neg here]
      exact refines.wired place
  · show Function.update log.queue connection ((log.queue connection).take kept) place = []
    rw [Function.update_apply]
    split
    · next here =>
      rw [← here, refines.ended place member, List.take_nil]
    · exact refines.ended place member

/-- A read of another client. -/
theorem Refines.other (refines : Refines wire start link log) {event : IpcEvent}
    (possible : (LinkEvent.other event).Possible fromStr start.gpuCount link) :
    Refines wire start (link.step wire (.other event)) (log.step (.other event)) := by
  obtain ⟨unused, kind⟩ := possible
  have backend : (link.server.step ops fromStr event).backend = link.server.backend := by
    rw [IpcServer.step_backend]
    cases received : link.server.received fromStr event with
    | none => rfl
    | some cmd => exact backend_dispatch_of_not_setCap refines.usable (kind cmd received)
  refine ⟨refines.sent, ?_, ?_, ?_, refines.wired, fun place member => ?_, refines.ordered,
    refines.inside⟩
  · show (link.server.step ops fromStr event).backend.poisoned = false
    rw [backend]
    exact refines.usable
  · show (link.server.step ops fromStr event).backend.value.draws = start.draws
    rw [backend]
    exact refines.draws
  · show ∀ gpu : ℕ, gpu < start.gpuCount →
      (link.server.step ops fromStr event).backend.value.getCap gpu = log.held wire start gpu
    rw [backend]
    exact refines.caps
  · rcases List.mem_cons.mp (closed_step link.server event member) with rfl | before
    · exact (refines.ordered.fresh (refines.sent ▸ unused)).2
    · exact refines.ended place before

/-- **One step.** -/
theorem refines_step (refines : Refines wire start link log) (small : start.gpuCount ≤ 2 ^ 64)
    {event : LinkEvent} (possible : event.Possible fromStr start.gpuCount link) :
    Refines wire start (link.step wire event) (log.step event) := by
  cases event with
  | push connection caps => exact refines.push possible
  | read connection => exact refines.read small connection
  | breaks connection kept cut => exact refines.breaks possible
  | other event => exact refines.other possible

/-- **Every run.** -/
theorem refines_run (small : start.gpuCount ≤ 2 ^ 64) {events : List LinkEvent}
    (possible : Along (AgentLink.step wire) (.new start)
      (fun _ link event => event.Possible fromStr start.gpuCount link) events) :
    Refines wire start (run (AgentLink.step wire) (.new start) events)
      (run PushLog.step {} events) :=
  run_related_of_along (Refines wire start) (refines_new wire start)
    (fun _ _ _ event refines now => @refines_step F ops fromStr wire start _ _ refines small event now)
    possible

/-! ### Nothing is lost, made up or reordered -/

/-- Without a break, what came through and what is under way is what was pushed. -/
theorem PushLog.through_append_queue {connection : ℕ} {events : List LinkEvent}
    (possible : Along (AgentLink.step wire) (.new start)
      (fun _ link event => event.Possible fromStr start.gpuCount link) events)
    (small : start.gpuCount ≤ 2 ^ 64)
    (unbroken : ∀ kept cut, LinkEvent.breaks connection kept cut ∉ events) :
    (run PushLog.step {} events).through connection ++ (run PushLog.step {} events).queue connection =
      (run PushLog.step {} events).pushed connection := by
  induction events using List.reverseRecOn with
  | nil => rfl
  | append_singleton past event ih =>
    obtain ⟨before, now⟩ := along_append_singleton.mp possible
    have refines := refines_run small before
    have whole := ih before fun kept cut member => unbroken kept cut (List.mem_append_left _ member)
    rw [run_append_singleton]
    cases event with
    | push place caps =>
      show (run PushLog.step {} past).through connection ++
          Function.update (run PushLog.step {} past).queue place caps.items connection =
        ((((run PushLog.step {} past).sent.set place caps).get? connection).map Dict.items).getD []
      rw [Dict.get?_set, Function.update_apply]
      by_cases here : connection = place
      · subst here
        rw [if_pos rfl, if_pos rfl, (refines.ordered.fresh (refines.sent ▸ now.1)).1]
        rfl
      · rw [if_neg here, if_neg here]
        exact whole
    | read place =>
      cases queued : (run PushLog.step {} past).queue place with
      | nil =>
        rw [PushLog.step_read_nil queued]
        exact whole
      | cons cap rest =>
        have same : ((run PushLog.step {} past).step (.read place)).pushed connection =
            (run PushLog.step {} past).pushed connection := by
          rw [PushLog.step_read_cons queued]
          rfl
        rw [PushLog.underWay_read queued, same]
        exact whole
    | breaks place kept cut =>
      have other : connection ≠ place := fun same =>
        unbroken kept cut (same ▸ List.mem_append_right _ (List.mem_singleton_self _))
      show (run PushLog.step {} past).through connection ++
        Function.update (run PushLog.step {} past).queue place _ connection = _
      rw [Function.update_of_ne other]
      exact whole
    | other event => exact whole

/-- **Caps arrive in order.** On an agent that has every GPU the pushes name, over every interleaving of
pushes, reads, broken connections and other clients that set no caps: the service stays up, and there is
one order in which caps came through. On each connection these are the first caps of its push, in its
order, and all of them where the agent has read a connection that did not break to its end. Of every GPU
the agent holds the cap that came through last. -/
theorem caps_arrive_in_order (wire : Wire ops fromStr) {start : SimIpcBackend F}
    (small : start.gpuCount ≤ 2 ^ 64) {events : List LinkEvent}
    (possible : Along (AgentLink.step wire) (.new start)
      (fun _ link event => event.Possible fromStr start.gpuCount link) events) :
    let link := run (AgentLink.step wire) (.new start) events
    let pushed := fun connection => ((link.sent.get? connection).map Dict.items).getD []
    link.server.backend.poisoned = false ∧ ∃ applied : List (ℕ × GpuIndex × ℚ),
      (∀ connection,
        (applied.filter fun entry => entry.1 = connection).map Prod.snd <+: pushed connection) ∧
      (∀ connection ∈ link.server.closed,
        (∀ kept cut, LinkEvent.breaks connection kept cut ∉ events) →
          (applied.filter fun entry => entry.1 = connection).map Prod.snd = pushed connection) ∧
      ∀ gpu : ℕ, gpu < start.gpuCount → link.server.backend.value.getCap gpu =
        match (Dict.ofList (applied.map Prod.snd)).get? gpu with
        | some watts => some (wire.encode watts)
        | none => start.getCap gpu := by
  intro link pushed
  have refines := refines_run small possible
  have sent : ∀ connection, (run PushLog.step {} events).pushed connection = pushed connection :=
    fun connection => congrArg (fun sent : Dict ℕ (Dict GpuIndex ℚ) =>
      ((sent.get? connection).map Dict.items).getD []) refines.sent.symm
  refine ⟨refines.usable, (run PushLog.step {} events).applied, fun connection => ?_,
    fun connection ended unbroken => ?_, refines.caps⟩
  · rw [← sent]
    exact (List.prefix_append _ _).trans (refines.ordered connection)
  · have whole := PushLog.through_append_queue possible small unbroken
    rw [refines.ended connection ended, List.append_nil, sent] at whole
    exact whole

/-- Two pushes of which the first breaks after a cap, on two GPUs. -/
theorem caps_arrive_in_order_broken :
    let events : List LinkEvent := [.push 0 (.ofList [(0, 850), (1, 400)]), .push 1 (.ofList [(1, 300)]),
      .read 1, .read 0, .breaks 0 0 (some "\x7b\"cmd\":"), .read 0, .read 0]
    let link := run (AgentLink.step wholeWatts) (.new (.new textFloats ["700.0", "700.0"])) events
    link.server.backend.poisoned = false ∧ ∃ applied : List (ℕ × GpuIndex × ℚ),
      (applied.filter fun entry => entry.1 = 0).map Prod.snd <+: [(0, 850), (1, 400)] := by
  have possible : Along (AgentLink.step wholeWatts) (.new (.new textFloats ["700.0", "700.0"]))
      (fun _ link event => event.Possible readSetCap 2 link)
      [.push 0 (.ofList [(0, 850), (1, 400)]), .push 1 (.ofList [(1, 300)]), .read 1, .read 0,
        .breaks 0 0 (some "\x7b\"cmd\":"), .read 0, .read 0] := by
    refine along_cons.mpr ⟨?_, along_cons.mpr ⟨?_, along_cons.mpr ⟨trivial, along_cons.mpr ⟨trivial,
      along_cons.mpr ⟨?_, along_cons.mpr ⟨trivial, along_cons.mpr ⟨trivial, along_nil⟩⟩⟩⟩⟩⟩⟩
    · exact ⟨by decide, by decide, by decide +kernel⟩
    · exact ⟨by decide +kernel, by decide +kernel, by decide +kernel⟩
    · intro text given
      cases given
      rfl
  obtain ⟨usable, applied, ordered, _⟩ := caps_arrive_in_order wholeWatts (by decide) possible
  exact ⟨usable, applied, ordered 0⟩

/-! ### One push at a time -/

/-- The caps that were pushed, in order. -/
def pushes (events : List LinkEvent) : List (Dict GpuIndex ℚ) :=
  events.filterMap fun
    | .push _ caps => some caps
    | _ => none

theorem pushes_append (first second : List LinkEvent) :
    pushes (first ++ second) = pushes first ++ pushes second := List.filterMap_append

/-- What is on a connection is a push. -/
theorem PushLog.mem_pushes {events : List LinkEvent} {connection : ℕ} {caps : Dict GpuIndex ℚ}
    (found : (run PushLog.step {} events).sent.get? connection = some caps) : caps ∈ pushes events := by
  induction events using List.reverseRecOn with
  | nil => exact nomatch found
  | append_singleton past event ih =>
    rw [run_append_singleton] at found
    rw [pushes_append, List.mem_append]
    cases event with
    | push place stored =>
      have here : ((run PushLog.step {} past).sent.set place stored).get? connection = some caps := found
      rw [Dict.get?_set] at here
      split at here
      · cases here
        exact .inr List.mem_cons_self
      · exact .inl (ih here)
    | read place =>
      have same : ((run PushLog.step {} past).step (.read place)).sent =
          (run PushLog.step {} past).sent := by
        cases queued : (run PushLog.step {} past).queue place with
        | nil => rw [step_read_nil queued]
        | cons cap rest => rw [step_read_cons queued]
      rw [same] at found
      exact .inl (ih found)
    | breaks place kept cut => exact .inl (ih found)
    | other event => exact .inl (ih found)

/-- A cap in force was pushed. -/
theorem PushLog.exists_push_of_inForce {events : List LinkEvent}
    (ordered : (run PushLog.step {} events).Ordered) {gpu : GpuIndex} {watts : ℚ}
    (found : (run PushLog.step {} events).inForce.get? gpu = some watts) :
    ∃ caps ∈ pushes events, caps.get? gpu = some watts := by
  rcases Dict.mem_of_get?_setAll found with applied | none
  · obtain ⟨⟨connection, cap⟩, member, same⟩ := List.mem_map.mp applied
    have through : (gpu, watts) ∈ (run PushLog.step {} events).through connection :=
      List.mem_map.mpr ⟨(connection, cap), List.mem_filter.mpr ⟨member, decide_eq_true rfl⟩, same⟩
    have pushed := (ordered connection).subset (List.mem_append_left _ through)
    unfold PushLog.pushed at pushed
    cases sent : (run PushLog.step {} events).sent.get? connection with
    | none =>
      rw [sent] at pushed
      exact nomatch pushed
    | some caps =>
      rw [sent] at pushed
      exact ⟨caps, mem_pushes sent, Dict.get?_eq_some_iff.mpr pushed⟩
  · cases none

/-- At every push the agent has read the pushes before it to their end, and nothing breaks. -/
def LinkEvent.InTurn (link : AgentLink F) : LinkEvent → Prop
  | .push _ _ => ∀ connection ∈ link.sent.keys, connection ∈ link.server.closed
  | .breaks _ _ _ => False
  | _ => True

/-- The caps that came through and those under way are the pushes, one after another. -/
def PushLog.Serial (log : PushLog) (pushed : List (Dict GpuIndex ℚ)) : Prop :=
  ∃ current, (∀ connection, connection ≠ current → log.queue connection = []) ∧
    log.applied.map Prod.snd ++ log.queue current = pushed.flatMap Dict.items

/-- Where nothing is under way, all pushes came through, one after another. -/
theorem PushLog.Serial.applied {pushed : List (Dict GpuIndex ℚ)} (serial : log.Serial pushed)
    (idle : ∀ connection, log.queue connection = []) :
    log.applied.map Prod.snd = pushed.flatMap Dict.items := by
  obtain ⟨current, _, all⟩ := serial
  rw [idle current, List.append_nil] at all
  exact all

/-- Nothing is under way where the agent has read every push to its end. -/
theorem Refines.idle (refines : Refines wire start link log)
    (done : ∀ connection ∈ link.sent.keys, connection ∈ link.server.closed) (connection : ℕ) :
    log.queue connection = [] := by
  by_cases used : connection ∈ link.sent.keys
  · exact refines.ended connection (done connection used)
  · exact (refines.ordered.fresh (refines.sent ▸ used)).2

theorem serial_run (small : start.gpuCount ≤ 2 ^ 64) {events : List LinkEvent}
    (possible : Along (AgentLink.step wire) (.new start)
      (fun _ link event => event.Possible fromStr start.gpuCount link) events)
    (inTurn : Along (AgentLink.step wire) (.new start) (fun _ link event => event.InTurn link) events) :
    (run PushLog.step {} events).Serial (pushes events) := by
  induction events using List.reverseRecOn with
  | nil => exact ⟨0, fun _ _ => rfl, rfl⟩
  | append_singleton past event ih =>
    obtain ⟨before, now⟩ := along_append_singleton.mp possible
    obtain ⟨turns, turn⟩ := along_append_singleton.mp inTurn
    have serial := ih before turns
    have refines := refines_run small before
    rw [run_append_singleton, pushes_append]
    cases event with
    | push connection caps =>
      have idle := refines.idle turn
      refine ⟨connection, fun place other => ?_, ?_⟩
      · show Function.update (run PushLog.step {} past).queue connection caps.items place = []
        rw [Function.update_of_ne other]
        exact idle place
      · show (run PushLog.step {} past).applied.map Prod.snd ++
          Function.update (run PushLog.step {} past).queue connection caps.items connection = _
        rw [Function.update_self, serial.applied idle, List.flatMap_append]
        exact congrArg _ (List.append_nil _).symm
    | read connection =>
      obtain ⟨current, others, all⟩ := serial
      have same : pushes past ++ pushes [LinkEvent.read connection] = pushes past := List.append_nil _
      rw [same]
      cases queued : (run PushLog.step {} past).queue connection with
      | nil =>
        rw [PushLog.step_read_nil queued]
        exact ⟨current, others, all⟩
      | cons cap rest =>
        have isCurrent : connection = current := by
          by_contra other
          rw [others connection other] at queued
          cases queued
        subst isCurrent
        rw [PushLog.step_read_cons queued]
        refine ⟨connection, fun place other => ?_, ?_⟩
        · show Function.update (run PushLog.step {} past).queue connection rest place = []
          rw [Function.update_of_ne other]
          exact others place other
        · show ((run PushLog.step {} past).applied ++ [(connection, cap)]).map Prod.snd ++
            Function.update (run PushLog.step {} past).queue connection rest connection = _
          rw [queued] at all
          rw [Function.update_self, List.map_append, List.append_assoc]
          exact all
    | breaks connection kept cut => exact turn.elim
    | other event =>
      have same : pushes past ++ pushes [LinkEvent.other event] = pushes past := List.append_nil _
      rw [same]
      exact serial

/-- Caps that come through one push after another. -/
theorem ofList_flatMap_items (pushed : List (Dict GpuIndex ℚ)) :
    Dict.ofList (pushed.flatMap Dict.items) = pushed.foldl Dict.update .empty :=
  List.foldl_flatMap

/-- The caps of the agent when those that came through are `applied`. -/
theorem Refines.getCap (refines : Refines wire start link log) {applied : Dict GpuIndex ℚ}
    (inForce : ∀ gpu, log.inForce.get? gpu = applied.get? gpu) {gpu : ℕ} (known : gpu < start.gpuCount) :
    link.server.backend.value.getCap gpu =
      (applied.get? gpu).elim (start.getCap gpu) fun watts => some (wire.encode watts) := by
  rw [refines.caps gpu known, PushLog.held, inForce]
  cases applied.get? gpu <;> rfl

/-- **The agent holds the last pushes.** If the agent has read every push to its end before the next one,
and the last one too, it holds of every GPU the cap of the last push that names it. -/
theorem agent_holds_last_pushes (wire : Wire ops fromStr) {start : SimIpcBackend F}
    (small : start.gpuCount ≤ 2 ^ 64) {events : List LinkEvent}
    (possible : Along (AgentLink.step wire) (.new start)
      (fun _ link event => event.Possible fromStr start.gpuCount link) events)
    (inTurn : Along (AgentLink.step wire) (.new start) (fun _ link event => event.InTurn link) events)
    (done : let link := run (AgentLink.step wire) (.new start) events
      ∀ connection ∈ link.sent.keys, connection ∈ link.server.closed) :
    ∀ gpu : ℕ, gpu < start.gpuCount →
      (run (AgentLink.step wire) (.new start) events).server.backend.value.getCap gpu =
        (((pushes events).foldl Dict.update .empty).get? gpu).elim (start.getCap gpu)
          fun watts => some (wire.encode watts) := by
  intro gpu known
  have refines := refines_run small possible
  have applied := (serial_run small possible inTurn).applied (refines.idle done)
  refine refines.getCap (fun place => ?_) known
  rw [PushLog.inForce, applied, ofList_flatMap_items]

end Refinement

/-- Two pushes, one read to its end before the other, on two GPUs. -/
theorem agent_holds_last_pushes_two :
    let events : List LinkEvent := [.push 0 (.ofList [(0, 850), (1, 400)]), .read 0, .read 0, .read 0,
      .push 1 (.ofList [(1, 300)]), .read 1, .read 1]
    (run (AgentLink.step wholeWatts) (.new (.new textFloats ["700.0", "700.0"])) events)
      |>.server.backend.value.getCap 1 = some "300.0" := by
  have possible : Along (AgentLink.step wholeWatts) (.new (.new textFloats ["700.0", "700.0"]))
      (fun _ link event => event.Possible readSetCap 2 link ∧ event.InTurn link)
      [.push 0 (.ofList [(0, 850), (1, 400)]), .read 0, .read 0, .read 0, .push 1 (.ofList [(1, 300)]),
        .read 1, .read 1] := by
    refine along_cons.mpr ⟨⟨?_, ?_⟩, along_cons.mpr ⟨⟨trivial, trivial⟩, along_cons.mpr
      ⟨⟨trivial, trivial⟩, along_cons.mpr ⟨⟨trivial, trivial⟩, along_cons.mpr ⟨⟨?_, ?_⟩,
        along_cons.mpr ⟨⟨trivial, trivial⟩, along_cons.mpr ⟨⟨trivial, trivial⟩, along_nil⟩⟩⟩⟩⟩⟩⟩
    · exact ⟨by decide, by decide, by decide +kernel⟩
    · exact fun _ member => nomatch member
    · exact ⟨by decide +kernel, by decide +kernel, by decide +kernel⟩
    · show ∀ connection ∈ _, connection ∈ _
      decide +kernel
  exact agent_holds_last_pushes wholeWatts (by decide)
    (fun past event rest split => (possible past event rest split).1)
    (fun past event rest split => (possible past event rest split).2) (by decide +kernel) 1 (by decide)

section Late

variable {wire : Wire ops fromStr} {start : SimIpcBackend F}

/-- Reading a connection to its end lets through all that is under way on it. -/
theorem PushLog.run_reads (log : PushLog) {connection count : ℕ}
    (enough : (log.queue connection).length ≤ count) :
    run PushLog.step log (List.replicate count (.read connection)) =
      { log with
        queue := Function.update log.queue connection []
        applied := log.applied ++ (log.queue connection).map (connection, ·) } := by
  induction count generalizing log with
  | zero =>
    have nothing := List.length_eq_zero_iff.mp (Nat.le_zero.mp enough)
    have same : Function.update log.queue connection [] = log.queue := by
      rw [← nothing, Function.update_eq_self]
    rw [List.replicate_zero, run_nil, same, nothing, List.map_nil, List.append_nil]
  | succ count ih =>
    rw [List.replicate_succ, run_cons]
    cases queued : log.queue connection with
    | nil =>
      rw [step_read_nil queued, ih log (by rw [queued]; exact Nat.zero_le count), queued]
    | cons cap rest =>
      rw [queued, List.length_cons, Nat.add_le_add_iff_right] at enough
      have later : (Function.update log.queue connection rest connection).length ≤ count := by
        rw [Function.update_self]
        exact enough
      rw [step_read_cons queued, ih _ later]
      simp only [Function.update_self, Function.update_idem, List.map_cons, List.append_assoc,
        List.singleton_append]

/-- Two pushes, of which the agent reads the later one first. -/
def readLate (older newer : Dict GpuIndex ℚ) : List LinkEvent :=
  .push 0 older :: .push 1 newer :: (List.replicate (newer.size + 1) (.read 1) ++
    List.replicate (older.size + 1) (.read 0))

/-- **A late push wins.** Nothing keeps the agent from reading a push after the one that came later; then
the caps of the older push are in force. -/
theorem late_push_wins (wire : Wire ops fromStr) {start : SimIpcBackend F}
    (small : start.gpuCount ≤ 2 ^ 64) {older newer : Dict GpuIndex ℚ}
    (olderInside : ∀ gpu ∈ older.keys, 0 ≤ gpu ∧ gpu < start.gpuCount)
    (newerInside : ∀ gpu ∈ newer.keys, 0 ≤ gpu ∧ gpu < start.gpuCount) :
    Along (AgentLink.step wire) (.new start)
        (fun _ link event => event.Possible fromStr start.gpuCount link) (readLate older newer) ∧
      ∀ gpu : ℕ, gpu < start.gpuCount →
        (run (AgentLink.step wire) (.new start) (readLate older newer)).server.backend.value.getCap gpu =
          ((newer.update older).get? gpu).elim (start.getCap gpu)
            fun watts => some (wire.encode watts) := by
  have reads : ∀ (link : AgentLink F) (connection count : ℕ), Along (AgentLink.step wire) link
      (fun _ link event => event.Possible fromStr start.gpuCount link)
      (List.replicate count (.read connection)) := by
    intro link connection count past event rest split
    have member : event ∈ List.replicate count (LinkEvent.read connection) := by
      rw [split]
      exact List.mem_append_right _ List.mem_cons_self
    rw [(List.mem_replicate.mp member).2]
    trivial
  have possible : Along (AgentLink.step wire) (.new start)
      (fun _ link event => event.Possible fromStr start.gpuCount link) (readLate older newer) := by
    refine along_cons.mpr ⟨⟨?_, ?_, olderInside⟩, along_cons.mpr ⟨⟨?_, ?_, newerInside⟩,
      along_append.mpr ⟨reads _ 1 _, reads _ 0 _⟩⟩⟩
    · exact fun member => nomatch member
    · exact fun member => nomatch member
    · intro member
      have known : (1 : ℕ) ∈ ((Dict.empty : Dict ℕ (Dict GpuIndex ℚ)).set 0 older).keys := member
      obtain ⟨caps, found⟩ := Dict.mem_keys_iff.mp known
      rw [Dict.get?_set_of_ne _ _ Nat.one_ne_zero] at found
      cases found
    · exact fun member => nomatch member
  refine ⟨possible, fun gpu known => (refines_run small possible).getCap (fun key => ?_) known⟩
  have through : (run PushLog.step {} (readLate older newer)).applied.map Prod.snd =
      newer.items ++ older.items := by
    have both : (({} : PushLog).step (.push 0 older)).step (.push 1 newer) =
        { sent := (Dict.empty.set 0 older).set 1 newer
          queue := Function.update (Function.update (fun _ => []) 0 older.items) 1 newer.items } := rfl
    have reversed : run PushLog.step {} (readLate older newer) =
        run PushLog.step (run PushLog.step ((({} : PushLog).step (.push 0 older)).step (.push 1 newer))
          (List.replicate (newer.size + 1) (.read 1))) (List.replicate (older.size + 1) (.read 0)) := by
      unfold readLate
      rw [run_cons, run_cons]
      exact List.foldl_append
    have second : (Function.update (Function.update (fun _ => []) 0 older.items) 1 newer.items
        1).length ≤ newer.size + 1 := by
      rw [Function.update_self]
      exact Nat.le_succ _
    have first : (Function.update (Function.update (Function.update (fun _ => []) 0 older.items) 1
        newer.items) 1 [] 0).length ≤ older.size + 1 := by
      rw [Function.update_of_ne Nat.zero_ne_one, Function.update_of_ne Nat.zero_ne_one,
        Function.update_self]
      exact Nat.le_succ _
    have inner := @PushLog.run_reads ((({} : PushLog).step (.push 0 older)).step (.push 1 newer)) 1
      (newer.size + 1) second
    rw [reversed, inner, both, @PushLog.run_reads _ 0 (older.size + 1) first]
    simp [Function.comp_def]
  have last : (run PushLog.step {} (readLate older newer)).inForce =
      (Dict.ofList newer.items).update older := by
    rw [PushLog.inForce, through]
    exact List.foldl_append
  have same : newer.items.lookup key = newer.get? key := rfl
  rw [last, Dict.get?_update, Dict.get?_update, Dict.get?_ofList newer.nodup, same]

end Late

/-- Two pushes of a cap for one GPU: the older cap stays in force. -/
theorem late_push_wins_one :
    (run (AgentLink.step wholeWatts) (.new (.new textFloats ["700.0"]))
      (readLate (.ofList [(0, 850)]) (.ofList [(0, 300)]))).server.backend.value.getCap 0 =
        some "850.0" :=
  (late_push_wins wholeWatts (by decide) (by decide +kernel) (by decide +kernel)).2 0 (by decide)

end Opendps.Controller
