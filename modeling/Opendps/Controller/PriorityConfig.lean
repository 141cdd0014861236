/-
**Priority tiers from the published assignments.**

`PriorityConfigSource` polls the registry that the operator writes, keeps what its own node is told
there, and lays it over a baseline. `parse` reads a payload one assignment after the other; a bad
payload raises and leaves the last good snapshot in place. `parse_tiers` says what a payload that is
accepted means: each GPU with an assignment on the node has the highest tier assigned to it.
-/

import Opendps.Lib.Dict
import Opendps.Lib.Json
import Mathlib.Data.List.Induction

namespace Opendps.Controller

open Opendps.Lib

def assignmentsKey : String := "resolved-assignments.json"

def schemaVersion : ℤ := 1

def validTiers : List String := ["low", "normal", "high", "critical"]

def tierRank : Dict String ℕ :=
  ⟨[("low", 0), ("normal", 1), ("high", 2), ("critical", 3)], by decide⟩

/-- The rank of each valid tier. -/
theorem tierRank_of_valid {tier : String} (valid : tier ∈ validTiers) :
    ∃ rank, tierRank.get? tier = some rank := by
  simp only [validTiers, List.mem_cons, List.not_mem_nil, or_false] at valid
  rcases valid with rfl | rfl | rfl | rfl
  · exact ⟨0, rfl⟩
  · exact ⟨1, rfl⟩
  · exact ⟨2, rfl⟩
  · exact ⟨3, rfl⟩

/-- `value == number`, for an integer: a float or a boolean can equal it. -/
def equalsInt (value : Json) (number : ℤ) : Bool :=
  match value with
  | .int other => decide (other = number)
  | .float (.finite other) => decide (other = number)
  | .bool flag => decide ((if flag then 1 else 0) = number)
  | _ => false

/-- `value == text`, for a string. -/
def equalsStr (value : Json) (text : String) : Bool :=
  match value with
  | .str other => decide (other = text)
  | _ => false

/-- A tier with what decides between two of them. -/
structure Candidate where
  rank : ℕ
  boost : PyFloat
  tier : String

/-- `candidate[:2] > current[:2]`. -/
def Candidate.beats (candidate current : Candidate) : Bool :=
  decide (current.rank < candidate.rank) ||
    (decide (candidate.rank = current.rank) && candidate.boost.gt current.boost)

/-- The boost as a float. -/
def boostOf : Json → Except PyError PyFloat
  | .int value => PyFloat.ofInt value
  | .float value => .ok value
  | _ => .error (.valueError "gpuBoostPct must be a number")

/-- The tier of an assignment. -/
def tierOf (codec : Codec) : Json → Except PyError String
  | .arr _ => .error (.typeError "unhashable type: 'list'")
  | .obj _ => .error (.typeError "unhashable type: 'dict'")
  | .str tier =>
    if tier ∈ validTiers then .ok tier
    else .error (.valueError ("invalid priorityClass " ++ codec.repr (.str tier)))
  | other => .error (.valueError ("invalid priorityClass " ++ codec.repr other))

/-- The GPU index of an assignment. -/
def gpuIndexOf : Json → Except PyError ℤ
  | .int index =>
    if index < 0 then .error (.valueError "gpuIndex must be non-negative") else .ok index
  | _ => .error (.valueError "gpuIndex must be an integer")

/-- What an assignment says about the node: a candidate for one GPU, or nothing when it is about
another node. -/
def candidateOf (codec : Codec) (nodeName : String) (assignment : Json) :
    Except PyError (Option (ℤ × Candidate)) :=
  if !assignment.isObject then .error (.valueError "each assignment must be an object")
  else if !equalsStr ((assignment.get? "nodeName").getD .null) nodeName then .ok none
  else do
    let gpuIndex ← gpuIndexOf ((assignment.get? "gpuIndex").getD .null)
    let tier ← tierOf codec ((assignment.get? "priorityClass").getD .null)
    let boost ← boostOf ((assignment.get? "gpuBoostPct").getD .null)
    match tierRank.get? tier with
    | some rank => pure (some (gpuIndex, ⟨rank, boost, tier⟩))
    | none => .error (.keyError tier)

/-- Keep the better one of a new candidate and the one selected so far. -/
def select (selected : Dict ℤ Candidate) (offer : ℤ × Candidate) : Dict ℤ Candidate :=
  match selected.get? offer.1 with
  | none => selected.set offer.1 offer.2
  | some current => if offer.2.beats current then selected.set offer.1 offer.2 else selected

/-- The loop over the assignments. -/
def selectAll (codec : Codec) (nodeName : String) :
    List Json → Dict ℤ Candidate → Except PyError (Dict ℤ Candidate)
  | [], selected => .ok selected
  | assignment :: rest, selected => do
    match ← candidateOf codec nodeName assignment with
    | none => selectAll codec nodeName rest selected
    | some offer => selectAll codec nodeName rest (select selected offer)

/-- The tiers a payload gives the GPUs of the node. -/
def parse (codec : Codec) (nodeName : String) (raw : Option String) :
    Except PyError (Dict ℤ String) :=
  match raw with
  | none => .error (.valueError ("missing data key " ++ codec.repr (.str assignmentsKey)))
  | some raw => do
    let payload ← codec.loads raw
    if !payload.isObject then .error (.valueError "payload must be an object")
    else if !equalsInt ((payload.get? "schemaVersion").getD .null) schemaVersion then
      .error (.valueError ("unsupported schemaVersion " ++
        codec.repr ((payload.get? "schemaVersion").getD .null)))
    else match payload.get? "assignments" with
      | some (.arr assignments) => do
        let selected ← selectAll codec nodeName assignments .empty
        pure (selected.mapVals fun _ candidate => candidate.tier)
      | _ => .error (.valueError "assignments must be a list")

/-! ### Polling -/

/-- The registry as a client reads it. -/
structure PublishedConfigMap where
  resourceVersion : Option String
  data : Dict String String

/-- How a read of the registry fails: an exception, with its HTTP status if it has one. -/
structure ReadFailure where
  status : Option ℕ

structure PriorityConfigSource where
  nodeName : String
  baseline : Dict ℤ String
  snapshot : Dict ℤ String
  resourceVersion : Option String := none
  hasApi : Bool
  reportedUnavailable : Bool := false

/-- What a poll meets: whether the client can be set up, and what the read gives. -/
structure PollInput where
  clientLoads : Bool
  read : Except ReadFailure PublishedConfigMap

/-- The exceptions a poll takes for a malformed payload. -/
def isMalformed : PyError → Bool
  | .typeError _ => true
  | .valueError _ => true
  | .jsonDecodeError _ => true
  | _ => false

namespace PriorityConfigSource

/-- A source before its first poll. -/
def new (nodeName : String) (baseline : Dict ℤ String) (hasApi : Bool) : PriorityConfigSource where
  nodeName := nodeName
  baseline := baseline
  snapshot := baseline
  hasApi := hasApi

/-- Whether the registry is the one applied last. -/
def isApplied (source : PriorityConfigSource) (resourceVersion : Option String) : Bool :=
  match resourceVersion with
  | some version => version ≠ "" && decide (source.resourceVersion = some version)
  | none => false

/-- Refresh the snapshot from what a read gave. -/
def refresh (codec : Codec) (source : PriorityConfigSource) :
    Except ReadFailure PublishedConfigMap → Except PyError PriorityConfigSource
  | .error exc =>
    if exc.status = some 404 then
      .ok { source with resourceVersion := none, snapshot := source.baseline }
    else if exc.status = some 401 ∨ exc.status = some 403 then
      .ok { source with reportedUnavailable := true }
    else .ok source
  | .ok configMap =>
    if source.isApplied configMap.resourceVersion then
      .ok { source with reportedUnavailable := false }
    else match parse codec source.nodeName (configMap.data.get? assignmentsKey) with
      | .error exc =>
        if isMalformed exc then .ok { source with reportedUnavailable := true } else .error exc
      | .ok dynamic =>
        .ok { source with
          snapshot := source.baseline.update dynamic
          resourceVersion := configMap.resourceVersion
          reportedUnavailable := false }

/-- One poll. It returns the snapshot of the source it leaves; when it raises, it changes nothing
but that the client is set up. -/
def poll (codec : Codec) (source : PriorityConfigSource) (input : PollInput) :
    Except PyError PriorityConfigSource :=
  if source.hasApi || input.clientLoads then
    { source with hasApi := true }.refresh codec input.read
  else .ok { source with reportedUnavailable := true }

end PriorityConfigSource

/-! ### What an accepted payload means -/

/-- The candidates a list of assignments holds for the node. -/
def candidates (codec : Codec) (nodeName : String) :
    List Json → Except PyError (List (ℤ × Candidate))
  | [] => .ok []
  | assignment :: rest => do
    let first ← candidateOf codec nodeName assignment
    let others ← candidates codec nodeName rest
    pure (first.toList ++ others)

/-- The loop selects among the candidates, and raises what they raise. -/
theorem selectAll_eq (codec : Codec) (nodeName : String) (assignments : List Json)
    (selected : Dict ℤ Candidate) :
    selectAll codec nodeName assignments selected =
      (candidates codec nodeName assignments).map fun offers => offers.foldl select selected := by
  induction assignments generalizing selected with
  | nil => rfl
  | cons assignment rest ih =>
    simp only [selectAll, candidates]
    cases candidateOf codec nodeName assignment with
    | error exc => rfl
    | ok offer =>
      have tail : ∀ start, selectAll codec nodeName rest start =
          (candidates codec nodeName rest).map fun offers => offers.foldl select start := ih
      cases offer with
      | none =>
        show selectAll codec nodeName rest selected = _
        rw [tail]
        cases candidates codec nodeName rest <;> rfl
      | some offer =>
        show selectAll codec nodeName rest (select selected offer) = _
        rw [tail]
        cases candidates codec nodeName rest <;> rfl

/-- A selection from some offers: for each GPU one of the highest rank, if it has any. -/
def Selects (offers : List (ℤ × Candidate)) (selected : Dict ℤ Candidate) : Prop :=
  ∀ gpuIndex,
    (∀ best, selected.get? gpuIndex = some best → (gpuIndex, best) ∈ offers) ∧
      ∀ candidate, (gpuIndex, candidate) ∈ offers →
        ∃ best, selected.get? gpuIndex = some best ∧ candidate.rank ≤ best.rank

/-- A candidate that does not beat another one ranks no higher. -/
theorem rank_le_of_not_beats {candidate current : Candidate}
    (weaker : candidate.beats current = false) : candidate.rank ≤ current.rank := by
  rw [Candidate.beats, Bool.or_eq_false_iff, decide_eq_false_iff_not] at weaker
  exact Nat.le_of_not_lt weaker.1

/-- A candidate that beats another one ranks no lower. -/
theorem rank_le_of_beats {candidate current : Candidate}
    (stronger : candidate.beats current = true) : current.rank ≤ candidate.rank := by
  rw [Candidate.beats, Bool.or_eq_true, Bool.and_eq_true] at stronger
  rcases stronger with higher | ⟨equal, _⟩
  · exact (of_decide_eq_true higher).le
  · exact (of_decide_eq_true equal).ge

/-- What one offer does to the selection of its GPU. -/
theorem get?_select_self (selected : Dict ℤ Candidate) (offer : ℤ × Candidate) :
    ∃ best, (select selected offer).get? offer.1 = some best ∧ offer.2.rank ≤ best.rank ∧
      (best = offer.2 ∨ selected.get? offer.1 = some best) ∧
      ∀ current, selected.get? offer.1 = some current → current.rank ≤ best.rank := by
  unfold select
  cases found : selected.get? offer.1 with
  | none => exact ⟨offer.2, Dict.get?_set_self _ _ _, le_rfl, .inl rfl, fun _ none => nomatch none⟩
  | some current =>
    cases beaten : offer.2.beats current with
    | true =>
      refine ⟨offer.2, ?_, le_rfl, .inl rfl, ?_⟩
      · exact (congrArg (Dict.get? · offer.1) (if_pos beaten)).trans (Dict.get?_set_self _ _ _)
      · rintro _ ⟨⟩
        exact rank_le_of_beats beaten
    | false =>
      refine ⟨current, ?_, rank_le_of_not_beats beaten, .inr rfl, ?_⟩
      · refine (congrArg (Dict.get? · offer.1) (if_neg ?_)).trans found
        rw [beaten]
        exact Bool.false_ne_true
      · rintro _ ⟨⟩
        exact le_rfl

/-- An offer leaves the other GPUs alone. -/
theorem get?_select_of_ne (selected : Dict ℤ Candidate) (offer : ℤ × Candidate) {gpuIndex : ℤ}
    (other : gpuIndex ≠ offer.1) : (select selected offer).get? gpuIndex = selected.get? gpuIndex := by
  unfold select
  split
  · exact Dict.get?_set_of_ne _ _ other
  · split
    · exact Dict.get?_set_of_ne _ _ other
    · rfl

/-- One more offer. -/
theorem Selects.select {offers : List (ℤ × Candidate)} {selected : Dict ℤ Candidate}
    (selects : Selects offers selected) (offer : ℤ × Candidate) :
    Selects (offers ++ [offer]) (select selected offer) := by
  intro gpuIndex
  obtain ⟨sound, complete⟩ := selects gpuIndex
  by_cases own : gpuIndex = offer.1
  · subst own
    obtain ⟨best, found, above, source, kept⟩ := get?_select_self selected offer
    constructor
    · intro other same
      rw [found] at same
      cases same
      rcases source with rfl | before
      · exact List.mem_append_right _ (List.mem_singleton_self _)
      · exact List.mem_append_left _ (sound best before)
    · intro candidate offered
      refine ⟨best, found, ?_⟩
      rcases List.mem_append.mp offered with before | last
      · obtain ⟨current, held, below⟩ := complete candidate before
        exact below.trans (kept current held)
      · have same : candidate = offer.2 := congrArg Prod.snd (List.mem_singleton.mp last)
        rw [same]
        exact above
  · rw [get?_select_of_ne selected offer own]
    constructor
    · exact fun best found => List.mem_append_left _ (sound best found)
    · intro candidate offered
      rcases List.mem_append.mp offered with before | last
      · exact complete candidate before
      · exact absurd (congrArg Prod.fst (List.mem_singleton.mp last)) own

/-- The loop ends with a selection from all offers. -/
theorem selects_foldl (offers : List (ℤ × Candidate)) :
    Selects offers (offers.foldl select .empty) := by
  induction offers using List.reverseRecOn with
  | nil =>
    intro gpuIndex
    refine ⟨fun best found => ?_, fun candidate offered => ?_⟩
    · cases found
    · cases offered
  | append_singleton offers offer ih =>
    rw [List.foldl_append]
    exact ih.select offer

/-- What the tiers of a node are, given the offers for it: each GPU with an offer has the tier of one
with the highest rank, and no other GPU has a tier. -/
def HighestTiers (offers : List (ℤ × Candidate)) (tiers : Dict ℤ String) : Prop :=
  ∀ gpuIndex,
    (∀ tier, tiers.get? gpuIndex = some tier → ∃ best, (gpuIndex, best) ∈ offers ∧
        best.tier = tier ∧ ∀ candidate, (gpuIndex, candidate) ∈ offers → candidate.rank ≤ best.rank) ∧
      ∀ candidate, (gpuIndex, candidate) ∈ offers → ∃ tier, tiers.get? gpuIndex = some tier

theorem Selects.highestTiers {offers : List (ℤ × Candidate)} {selected : Dict ℤ Candidate}
    (selects : Selects offers selected) :
    HighestTiers offers (selected.mapVals fun _ candidate => candidate.tier) := by
  intro gpuIndex
  obtain ⟨sound, complete⟩ := selects gpuIndex
  rw [Dict.get?_mapVals]
  constructor
  · intro tier found
    obtain ⟨best, held, rfl⟩ := Option.map_eq_some_iff.mp found
    refine ⟨best, sound best held, rfl, fun candidate offered => ?_⟩
    obtain ⟨other, same, above⟩ := complete candidate offered
    rw [held] at same
    cases same
    exact above
  · intro candidate offered
    obtain ⟨best, held, _⟩ := complete candidate offered
    exact ⟨best.tier, by rw [held]; rfl⟩

/-- **A payload that is accepted** gives each GPU of the node its highest tier. -/
theorem parse_tiers {codec : Codec} {nodeName raw : String} {payload : Json}
    {assignments : List Json} {offers : List (ℤ × Candidate)}
    (loaded : codec.loads raw = .ok payload) (object : payload.isObject = true)
    (schema : equalsInt ((payload.get? "schemaVersion").getD .null) schemaVersion = true)
    (listed : payload.get? "assignments" = some (.arr assignments))
    (offered : candidates codec nodeName assignments = .ok offers) :
    ∃ tiers, parse codec nodeName (some raw) = .ok tiers ∧ HighestTiers offers tiers := by
  refine ⟨_, ?_, (selects_foldl offers).highestTiers⟩
  have selected : selectAll codec nodeName assignments .empty =
      .ok (offers.foldl select .empty) := by
    rw [selectAll_eq, offered]
    rfl
  simp only [parse, loaded, Except.bind, bind, object, schema, listed, selected, Bool.not_true,
    Bool.false_eq_true, if_false]
  rfl

end Opendps.Controller
