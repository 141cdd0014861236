/-
**The IPC endpoint of the agent.**

Every connection has a thread that reads lines, parses each as JSON and passes what parses to
`dispatch`, which works on one backend behind one `Mutex`. A panic while the guard is held poisons
the `Mutex`, and from then on `lock()` fails and `dispatch` answers nothing.

`set_cap` does not compare the GPU index with the number of GPUs before it indexes the caps, so one
command can end the service of all connections. `usable_iff` is the exact statement: the backend
stays usable exactly as long as no connection sends a `set_cap` for a GPU that does not exist.

The JSON parser and the conversions of `f64` are parameters.
-/

import Opendps.Lib.Dict
import Opendps.Lib.Python
import Opendps.Lib.Run
import Mathlib.Data.String.Basic

namespace Opendps.Agent

open Opendps.Lib

variable {F : Type}

/-! ### JSON values as the parser hands them over -/

/-- A JSON number: a non-negative integer, a negative one, or a float. -/
inductive Number (F : Type) where
  | posInt (n : UInt64)
  | negInt (n : Int64)
  | float (x : F)

inductive Value (F : Type) where
  | null
  | bool (b : Bool)
  | number (n : Number F)
  | string (text : String)
  | array (elements : List (Value F))
  | object (entries : List (String × Value F))

/-- What the endpoint needs of `f64`: integers converted with `as f64`, and which floats have a JSON
form. -/
structure FloatOps (F : Type) where
  ofU64 : UInt64 → F
  ofI64 : Int64 → F
  isFinite : F → Bool

namespace Value

/-- Indexing by a key: `null` when the key is missing or the value is not an object. -/
def index (value : Value F) (key : String) : Value F :=
  match value with
  | object entries => (entries.lookup key).getD null
  | _ => null

def asStr : Value F → Option String
  | string text => some text
  | _ => none

def asU64 : Value F → Option UInt64
  | number (.posInt n) => some n
  | _ => none

def asF64 (ops : FloatOps F) : Value F → Option F
  | number (.posInt n) => some (ops.ofU64 n)
  | number (.negInt n) => some (ops.ofI64 n)
  | number (.float x) => some x
  | _ => none

/-- The JSON form of a float; what is not finite becomes `null`. -/
def ofF64 (ops : FloatOps F) (x : F) : Value F :=
  if ops.isFinite x then number (.float x) else null

end Value

/-! ### The backend behind its lock -/

/-- The simulated backend: the power source and the recording sink, built for the same GPUs. -/
structure SimIpcBackend (F : Type) where
  draws : List F
  lastCaps : List F
  callCount : ℕ := 0
  aligned : lastCaps.length = draws.length

namespace SimIpcBackend

/-- The backend of a new agent: no cap has been recorded. -/
def new (ops : FloatOps F) (draws : List F) : SimIpcBackend F where
  draws := draws
  lastCaps := draws.map fun _ => ops.ofU64 0
  aligned := by rw [List.length_map]

def gpuCount (backend : SimIpcBackend F) : ℕ := backend.draws.length

def getDraw (backend : SimIpcBackend F) (gpu : ℕ) : Option F := backend.draws[gpu]?

def getCap (backend : SimIpcBackend F) (gpu : ℕ) : Option F := backend.lastCaps[gpu]?

/-- Record a cap. An index outside the caps panics: `none`. -/
def setCap (backend : SimIpcBackend F) (gpu : ℕ) (watts : F) : Option (SimIpcBackend F) :=
  if gpu < backend.lastCaps.length then
    some { backend with
      lastCaps := backend.lastCaps.set gpu watts
      callCount := backend.callCount + 1
      aligned := by rw [List.length_set, backend.aligned] }
  else none

end SimIpcBackend

structure Mutex (α : Type) where
  value : α
  poisoned : Bool := false

/-- `lock().ok()`. -/
def Mutex.lock {α : Type} (mutex : Mutex α) : Option α :=
  if mutex.poisoned then none else some mutex.value

/-- How a command ends: with or without a response, or in a panic. -/
inductive Dispatched (F : Type) where
  | returned (response : Option (Value F)) (backend : Mutex (SimIpcBackend F))
  | panicked (backend : Mutex (SimIpcBackend F))

/-- A JSON map of one entry for each GPU, ordered by key; `none` when a read panics. -/
def perGpu (ops : FloatOps F) (n : ℕ) (get : ℕ → Option F) : Option (List (String × Value F)) :=
  ((List.range n).mapM fun i => (get i).map fun x => (toString i, Value.ofF64 ops x)).map
    fun entries => (Dict.ofList entries).sortedItems

def dispatch (ops : FloatOps F) (cmd : Value F) (backend : Mutex (SimIpcBackend F)) :
    Dispatched F :=
  match (cmd.index "cmd").asStr with
  | none => .returned none backend
  | some op =>
    match backend.lock with
    | none => .returned none backend
    | some b =>
      if op = "set_cap" then
        match (cmd.index "gpu").asU64, (cmd.index "watts").asF64 ops with
        | some gpu, some watts =>
          match b.setCap gpu.toNat watts with
          | some b => .returned none ⟨b, false⟩
          | none => .panicked ⟨b, true⟩
        | _, _ => .returned none backend
      else if op = "get_draws" then
        match perGpu ops b.gpuCount b.getDraw with
        | some draws => .returned (some (.object [("draws", .object draws)])) backend
        | none => .panicked ⟨b, true⟩
      else if op = "get_caps" then
        match perGpu ops b.gpuCount b.getCap with
        | some caps => .returned (some (.object [("caps", .object caps)])) backend
        | none => .panicked ⟨b, true⟩
      else .returned none backend

/-! ### Connections -/

/-- What a connection's next read gives: a line, or its end or an error (also when the bytes are not
UTF-8). -/
inductive LineRead where
  | line (text : String)
  | failed

/-- One read on one connection, and whether a response could be written back. -/
structure IpcEvent where
  connection : ℕ
  read : LineRead
  writable : Bool := true

structure IpcServer (F : Type) where
  backend : Mutex (SimIpcBackend F)
  closed : List ℕ := []

/-- The characters `str::trim` removes. -/
def isWhitespace (c : Char) : Bool :=
  (9 ≤ c.toNat && c.toNat ≤ 13) || c.toNat == 32 || c.toNat == 0x85 || c.toNat == 0xA0 ||
    c.toNat == 0x1680 || (0x2000 ≤ c.toNat && c.toNat ≤ 0x200A) || c.toNat == 0x2028 ||
    c.toNat == 0x2029 || c.toNat == 0x202F || c.toNat == 0x205F || c.toNat == 0x3000

namespace IpcServer

variable (ops : FloatOps F) (fromStr : String → Option (Value F))

/-- The command of a read: there is none on a closed connection, after a failed read, on a blank
line, or when the line does not parse. -/
def received (server : IpcServer F) (event : IpcEvent) : Option (Value F) :=
  if event.connection ∈ server.closed then none
  else
    match event.read with
    | .failed => none
    | .line text => if text.toList.all isWhitespace then none else fromStr text

/-- One read, on the thread of its connection. -/
def step (server : IpcServer F) (event : IpcEvent) : IpcServer F :=
  match server.received fromStr event with
  | none =>
    match event.read with
    | .failed => { server with closed := event.connection :: server.closed }
    | .line _ => server
  | some cmd =>
    match dispatch ops cmd server.backend with
    | .returned none backend => { server with backend := backend }
    | .returned (some _) backend =>
      if event.writable then { server with backend := backend }
      else ⟨backend, event.connection :: server.closed⟩
    | .panicked backend => ⟨backend, event.connection :: server.closed⟩

end IpcServer

/-! ### One entry for each GPU -/

theorem mapM_eq_some_map {α β : Type} {items : List α} {f : α → Option β} {g : α → β}
    (defined : ∀ item ∈ items, f item = some (g item)) : items.mapM f = some (items.map g) := by
  induction items with
  | nil => rfl
  | cons item rest ih =>
    rw [List.mapM_cons, defined item (by simp),
      ih fun other member => defined other (List.mem_cons_of_mem _ member)]
    rfl

/-- The JSON form of a float that was read. -/
def entry (ops : FloatOps F) (x : Option F) : Value F := (x.map (Value.ofF64 ops)).getD .null

/-- When every GPU can be read, the map has exactly one entry for each. -/
theorem perGpu_of_known (ops : FloatOps F) {n : ℕ} {get : ℕ → Option F}
    (known : ∀ i < n, (get i).isSome) : ∃ entries, perGpu ops n get = some entries ∧
      entries.Perm ((List.range n).map fun i => (toString i, entry ops (get i))) := by
  have collected : ((List.range n).mapM fun i => (get i).map fun x =>
      (toString i, Value.ofF64 ops x)) =
        some ((List.range n).map fun i => (toString i, entry ops (get i))) := by
    refine mapM_eq_some_map fun i member => ?_
    obtain ⟨x, found⟩ := Option.isSome_iff_exists.mp (known i (List.mem_range.mp member))
    rw [found]
    rfl
  have distinct : (((List.range n).map fun i => (toString i, entry ops (get i))).map
      Prod.fst).Nodup := by
    rw [List.map_map]
    exact List.nodup_range.map toString_nat_injective
  rw [perGpu, collected]
  refine ⟨_, rfl, (Dict.sortedItems_perm _).trans ?_⟩
  rw [Dict.ofList, Dict.items_setAll_of_disjoint _ distinct (by simp), Dict.items_empty,
    List.nil_append]

/-! ### What a command does to the backend -/

/-- A `set_cap` of a GPU outside a fleet of `n`. -/
def OutOfRange (ops : FloatOps F) (n : ℕ) (cmd : Value F) : Prop :=
  (cmd.index "cmd").asStr = some "set_cap" ∧ ∃ gpu watts,
    (cmd.index "gpu").asU64 = some gpu ∧ (cmd.index "watts").asF64 ops = some watts ∧
      n ≤ gpu.toNat

/-- The backend a command leaves behind, whether it returns or panics. -/
def Dispatched.backend : Dispatched F → Mutex (SimIpcBackend F)
  | .returned _ backend => backend
  | .panicked backend => backend

section Dispatch

variable {ops : FloatOps F} {cmd : Value F} {backend : Mutex (SimIpcBackend F)}

theorem setCap_of_lt {b : SimIpcBackend F} {gpu : ℕ} (inside : gpu < b.gpuCount) (watts : F) :
    ∃ after, b.setCap gpu watts = some after ∧ after.draws = b.draws ∧
      after.lastCaps = b.lastCaps.set gpu watts := by
  unfold SimIpcBackend.setCap
  rw [if_pos (by rwa [b.aligned])]
  exact ⟨_, rfl, rfl, rfl⟩

theorem setCap_of_le {b : SimIpcBackend F} {gpu : ℕ} (outside : b.gpuCount ≤ gpu) (watts : F) :
    b.setCap gpu watts = none := by
  unfold SimIpcBackend.setCap
  rw [if_neg (by rw [b.aligned]; exact not_lt.mpr outside)]

theorem getDraw_isSome (b : SimIpcBackend F) : ∀ i < b.gpuCount, (b.getDraw i).isSome :=
  fun i inside => by simpa [SimIpcBackend.getDraw, SimIpcBackend.gpuCount] using inside

theorem getCap_isSome (b : SimIpcBackend F) : ∀ i < b.gpuCount, (b.getCap i).isSome :=
  fun i inside => by
    rw [SimIpcBackend.gpuCount, ← b.aligned] at inside
    simpa [SimIpcBackend.getCap] using inside

/-- A `get_draws` on a usable backend is answered with one entry for each GPU. -/
theorem dispatch_getDraws (op : (cmd.index "cmd").asStr = some "get_draws")
    (usable : backend.poisoned = false) :
    ∃ entries, dispatch ops cmd backend =
        .returned (some (.object [("draws", .object entries)])) backend ∧
      entries.Perm ((List.range backend.value.gpuCount).map fun i =>
        (toString i, entry ops (backend.value.getDraw i))) := by
  obtain ⟨entries, collected, perm⟩ := perGpu_of_known ops (getDraw_isSome backend.value)
  exact ⟨entries, by simp [dispatch, op, Mutex.lock, usable, collected], perm⟩

/-- A well-formed `set_cap` on a usable backend sets that GPU's cap. -/
theorem dispatch_setCap (op : (cmd.index "cmd").asStr = some "set_cap") {gpu : UInt64} {watts : F}
    (gpuGiven : (cmd.index "gpu").asU64 = some gpu)
    (wattsGiven : (cmd.index "watts").asF64 ops = some watts)
    (inside : gpu.toNat < backend.value.gpuCount) (usable : backend.poisoned = false) :
    ∃ after, dispatch ops cmd backend = .returned none ⟨after, false⟩ ∧
      after.draws = backend.value.draws ∧
      after.lastCaps = backend.value.lastCaps.set gpu.toNat watts := by
  obtain ⟨after, stored, draws, caps⟩ := setCap_of_lt inside watts
  exact ⟨after, by simp [dispatch, op, gpuGiven, wattsGiven, Mutex.lock, usable, stored], draws,
    caps⟩

/-- **What any command does to the backend.** The draws stay, and the lock ends up poisoned exactly
when it was or when the command is a `set_cap` out of range. -/
theorem dispatch_backend (ops : FloatOps F) (cmd : Value F) (backend : Mutex (SimIpcBackend F)) :
    (dispatch ops cmd backend).backend.value.draws = backend.value.draws ∧
      ((dispatch ops cmd backend).backend.poisoned = true ↔
        backend.poisoned = true ∨ OutOfRange ops backend.value.gpuCount cmd) := by
  obtain ⟨b, poisoned⟩ := backend
  unfold dispatch OutOfRange
  cases op : (cmd.index "cmd").asStr with
  | none => simp [Dispatched.backend]
  | some name =>
    cases poisoned with
    | true => simp [Mutex.lock, Dispatched.backend]
    | false =>
      simp only [Mutex.lock, Bool.false_eq_true, if_false, false_or, Option.some.injEq]
      by_cases setCap : name = "set_cap"
      · subst setCap
        simp only [if_true, true_and]
        cases gpuGiven : (cmd.index "gpu").asU64 with
        | none => simp [Dispatched.backend]
        | some gpu =>
          cases wattsGiven : (cmd.index "watts").asF64 ops with
          | none => simp [Dispatched.backend]
          | some watts =>
            rcases lt_or_ge gpu.toNat b.gpuCount with inside | outside
            · obtain ⟨after, stored, draws, _⟩ := setCap_of_lt inside watts
              simp [stored, draws, Dispatched.backend, inside]
            · simp [setCap_of_le outside watts, Dispatched.backend, outside]
      · simp only [setCap, if_false, false_and, iff_false, Bool.not_eq_true]
        by_cases getDraws : name = "get_draws"
        · obtain ⟨entries, collected, _⟩ := perGpu_of_known ops (getDraw_isSome b)
          simp [getDraws, collected, Dispatched.backend]
        · by_cases getCaps : name = "get_caps"
          · obtain ⟨entries, collected, _⟩ := perGpu_of_known ops (getCap_isSome b)
            simp [getCaps, collected, Dispatched.backend]
          · simp [getDraws, getCaps, Dispatched.backend]

end Dispatch

/-! ### Runs of the endpoint -/

/-- The backend still serves a fleet of `n`: every `get_draws` is answered with exactly one entry
for each GPU, and every well-formed `set_cap` inside the fleet sets that cap and no other. -/
structure Usable (ops : FloatOps F) (n : ℕ) (backend : Mutex (SimIpcBackend F)) : Prop where
  getDraws : ∀ cmd : Value F, (cmd.index "cmd").asStr = some "get_draws" → ∃ entries,
    dispatch ops cmd backend = .returned (some (.object [("draws", .object entries)])) backend ∧
      entries.length = n ∧ entries.Perm ((List.range n).map fun i =>
        (toString i, entry ops (backend.value.getDraw i)))
  setCap : ∀ (cmd : Value F) (gpu : UInt64) (watts : F),
    (cmd.index "cmd").asStr = some "set_cap" → (cmd.index "gpu").asU64 = some gpu →
    (cmd.index "watts").asF64 ops = some watts → gpu.toNat < n → ∃ after,
      dispatch ops cmd backend = .returned none ⟨after, false⟩ ∧
        after.draws = backend.value.draws ∧ after.getCap gpu.toNat = some watts ∧
        ∀ other, other ≠ gpu.toNat → after.getCap other = backend.value.getCap other

theorem usable_of_not_poisoned (ops : FloatOps F) {backend : Mutex (SimIpcBackend F)}
    (fine : backend.poisoned = false) : Usable ops backend.value.gpuCount backend where
  getDraws cmd op := by
    have usable : ∃ entries, dispatch ops cmd backend =
          .returned (some (.object [("draws", .object entries)])) backend ∧
        entries.Perm ((List.range backend.value.gpuCount).map fun i =>
          (toString i, entry ops (backend.value.getDraw i))) := dispatch_getDraws op fine
    obtain ⟨entries, answered, perm⟩ := usable
    exact ⟨entries, answered, by simpa using perm.length_eq, perm⟩
  setCap cmd gpu watts op gpuGiven wattsGiven inside := by
    obtain ⟨after, answered, draws, caps⟩ := dispatch_setCap op gpuGiven wattsGiven inside fine
    have stored : gpu.toNat < backend.value.lastCaps.length := by rwa [backend.value.aligned]
    refine ⟨after, answered, draws, ?_, fun other different => ?_⟩
    · rw [SimIpcBackend.getCap, caps, List.getElem?_set_self stored]
    · rw [SimIpcBackend.getCap, caps, List.getElem?_set_ne (Ne.symm different)]
      rfl

/-- A poisoned lock answers no `get_draws`. -/
theorem not_usable_of_poisoned (ops : FloatOps F) {n : ℕ} {backend : Mutex (SimIpcBackend F)}
    (poisoned : backend.poisoned = true) : ¬ Usable ops n backend := by
  intro usable
  obtain ⟨entries, answered, _⟩ :=
    usable.getDraws (.object [("cmd", .string "get_draws")]) (by simp [Value.index, Value.asStr])
  simp [dispatch, Value.index, Value.asStr, Mutex.lock, poisoned] at answered

namespace IpcServer

variable (ops : FloatOps F) (fromStr : String → Option (Value F))

/-- The server after some reads, on any connections in any order. -/
def after (backend : SimIpcBackend F) (events : List IpcEvent) : IpcServer F :=
  run (step ops fromStr) { backend := ⟨backend, false⟩ } events

/-- No connection sends a `set_cap` for a GPU that does not exist. -/
def InRange (backend : SimIpcBackend F) : List IpcEvent → Prop :=
  Along (step ops fromStr) { backend := ⟨backend, false⟩ } fun _ server event =>
    ∀ cmd, server.received fromStr event = some cmd → ¬ OutOfRange ops backend.gpuCount cmd

/-- One read changes the backend through its command only. -/
theorem step_backend (server : IpcServer F) (event : IpcEvent) :
    (server.step ops fromStr event).backend = match server.received fromStr event with
      | none => server.backend
      | some cmd => (dispatch ops cmd server.backend).backend := by
  unfold step
  cases server.received fromStr event with
  | none => cases event.read <;> rfl
  | some cmd =>
    simp only
    cases dispatch ops cmd server.backend with
    | panicked backend => rfl
    | returned response backend =>
      cases response with
      | none => rfl
      | some response =>
        simp only
        split <;> rfl

/-- The fleet stays, and the lock is poisoned exactly by commands out of range. -/
theorem poisoned_iff (backend : SimIpcBackend F) (events : List IpcEvent) :
    (after ops fromStr backend events).backend.value.draws = backend.draws ∧
      ((after ops fromStr backend events).backend.poisoned = false ↔
        InRange ops fromStr backend events) := by
  induction events using List.reverseRecOn with
  | nil => exact ⟨rfl, iff_of_true rfl along_nil⟩
  | append_singleton past event ih =>
    obtain ⟨draws, fine⟩ := ih
    have count : (after ops fromStr backend past).backend.value.gpuCount = backend.gpuCount := by
      rw [SimIpcBackend.gpuCount, draws, SimIpcBackend.gpuCount]
    have next : after ops fromStr backend (past ++ [event]) =
        (after ops fromStr backend past).step ops fromStr event := run_append_singleton past event
    rw [InRange, along_append_singleton, ← InRange, ← fine, next, step_backend]
    change _ ∧ (_ ↔ _ ∧ ∀ cmd, (after ops fromStr backend past).received fromStr event = some cmd →
      ¬ OutOfRange ops backend.gpuCount cmd)
    cases (after ops fromStr backend past).received fromStr event with
    | none => simp [draws]
    | some cmd =>
      have spec := dispatch_backend ops cmd (after ops fromStr backend past).backend
      rw [count] at spec
      refine ⟨spec.1.trans draws, ?_⟩
      simp only [Option.some.injEq, forall_eq']
      rw [← Bool.not_eq_true, spec.2, not_or, Bool.not_eq_true]

/-- **The endpoint survives, exactly.** After any sequence of reads on any connections, the backend
is usable if and only if no connection sent a `set_cap` for a GPU that does not exist. -/
theorem usable_iff (backend : SimIpcBackend F) (events : List IpcEvent) :
    Usable ops backend.gpuCount (after ops fromStr backend events).backend ↔
      InRange ops fromStr backend events := by
  obtain ⟨draws, fine⟩ := poisoned_iff ops fromStr backend events
  have count : (after ops fromStr backend events).backend.value.gpuCount = backend.gpuCount := by
    rw [SimIpcBackend.gpuCount, draws, SimIpcBackend.gpuCount]
  rw [← fine]
  constructor
  · intro usable
    by_contra poisoned
    exact not_usable_of_poisoned ops (Bool.not_eq_false _ ▸ poisoned) usable
  · intro usable
    exact count ▸ usable_of_not_poisoned ops usable

end IpcServer

/-! ### One command for a GPU that does not exist -/

/-- Whole numbers in place of `f64`. -/
def wholeFloats : FloatOps ℤ where
  ofU64 n := n.toNat
  ofI64 n := n.toInt
  isFinite _ := true

def strayLine : String := "\x7b\"cmd\": \"set_cap\", \"gpu\": 2, \"watts\": 850\x7d"

/-- A parser that knows one line. -/
def parseStray (text : String) : Option (Value ℤ) :=
  if text = strayLine then
    some (.object [("cmd", .string "set_cap"), ("gpu", .number (.posInt 2)),
      ("watts", .number (.posInt 850))])
  else none

/-- On two GPUs, a `set_cap` for GPU 2 ends the service: a `get_draws` gets no answer. -/
theorem endpoint_lost :
    let server := IpcServer.after wholeFloats parseStray (SimIpcBackend.new wholeFloats [700, 700])
      [⟨0, .line strayLine, true⟩]
    server.backend.poisoned = true ∧
      ¬ Usable wholeFloats 2 server.backend ∧
      dispatch wholeFloats (.object [("cmd", .string "get_draws")]) server.backend =
        .returned none server.backend := by
  have poisoned : (IpcServer.after wholeFloats parseStray
      (SimIpcBackend.new wholeFloats [700, 700]) [⟨0, .line strayLine, true⟩]).backend.poisoned =
        true := by
    decide +kernel
  refine ⟨poisoned, not_usable_of_poisoned wholeFloats poisoned, ?_⟩
  simp [dispatch, Value.index, Value.asStr, Mutex.lock, poisoned]

end Opendps.Agent
