/-
**Conflicting assignments, in any order.**

`parse` keeps a running best for each GPU while it still validates the rest of the list, and it
compares boosts, which may be NaN. What comes out depends on neither order nor boost: the tier of a
GPU `IsHighest` among the `assignedTiers` of the node (`parse_isHighest`), and no set of tiers has two
highest ones (`IsHighest.unique`). A list is accepted when each assignment is valid, so its order
does not matter there either. Assignments of other nodes can be left out (`selectAll_filter`).
-/

import Opendps.Controller.PriorityPolling

namespace Opendps.Controller

open Opendps.Lib

variable {codec : Codec} {nodeName : String} {assignments others : List Json}

/-! ### The tiers assigned to a GPU -/

/-- The place of a tier in the order of the tiers. -/
def rankOfTier (tier : String) : ℕ := tierRank.getD tier 0

theorem rankOfTier_of_get? {tier : String} {rank : ℕ} (known : tierRank.get? tier = some rank) :
    rankOfTier tier = rank :=
  Dict.getD_of_some known 0

/-- Different tiers have different ranks. -/
theorem rankOfTier_injOn : Set.InjOn rankOfTier {tier | tier ∈ validTiers} := by
  have apart : ∀ first ∈ validTiers, ∀ second ∈ validTiers,
      rankOfTier first = rankOfTier second → first = second := by decide
  exact fun first valid second otherValid => apart first valid second otherValid

/-- An assignment gives a GPU of the node a tier, with whatever boost. -/
structure AssignsTier (nodeName : String) (assignment : Json) (gpuIndex : ℤ) (tier : String) :
    Prop where
  own : isForNode nodeName assignment = true
  gpuIndex : (assignment.get? "gpuIndex").getD .null = .int gpuIndex
  tier : (assignment.get? "priorityClass").getD .null = .str tier

/-- The tiers that a list of assignments gives a GPU of the node. -/
def assignedTiers (nodeName : String) (assignments : List Json) (gpuIndex : ℤ) : Set String :=
  {tier | ∃ assignment ∈ assignments, AssignsTier nodeName assignment gpuIndex tier}

/-- A tier is the highest of some tiers; there is none when there are no tiers. -/
def IsHighest (tiers : Set String) : Option String → Prop
  | some tier => tier ∈ tiers ∧ ∀ other ∈ tiers, rankOfTier other ≤ rankOfTier tier
  | none => tiers = ∅

/-- Where there is a highest tier, there are tiers. -/
theorem IsHighest.not_none {tiers : Set String} {tier : String}
    (highest : IsHighest tiers (some tier)) : ¬ IsHighest tiers none := by
  intro none
  have inside : tier ∈ tiers := highest.1
  rw [show tiers = ∅ from none] at inside
  exact Set.notMem_empty tier inside

/-- There is at most one highest tier. -/
theorem IsHighest.unique {tiers : Set String} (valid : ∀ tier ∈ tiers, tier ∈ validTiers)
    {first second : Option String} (highest : IsHighest tiers first)
    (otherHighest : IsHighest tiers second) : first = second := by
  cases first with
  | none =>
    cases second with
    | none => rfl
    | some other => exact absurd highest otherHighest.not_none
  | some tier =>
    cases second with
    | none => exact absurd otherHighest highest.not_none
    | some other =>
      have below : rankOfTier other ≤ rankOfTier tier := highest.2 other otherHighest.1
      have above : rankOfTier tier ≤ rankOfTier other := otherHighest.2 tier highest.1
      have same : tier = other :=
        rankOfTier_injOn (valid tier highest.1) (valid other otherHighest.1) (le_antisymm above below)
      rw [same]

/-- The order of the assignments does not matter to the tiers they give. -/
theorem assignedTiers_perm (perm : assignments.Perm others) (gpuIndex : ℤ) :
    assignedTiers nodeName assignments gpuIndex = assignedTiers nodeName others gpuIndex := by
  ext tier
  constructor
  · rintro ⟨assignment, member, assigns⟩
    exact ⟨assignment, perm.mem_iff.mp member, assigns⟩
  · rintro ⟨assignment, member, assigns⟩
    exact ⟨assignment, perm.mem_iff.mpr member, assigns⟩

/-- Valid assignments give valid tiers. -/
theorem valid_of_mem_assignedTiers
    (valid : ∀ assignment ∈ assignments, ValidAssignment nodeName assignment) {gpuIndex : ℤ}
    {tier : String} (assigned : tier ∈ assignedTiers nodeName assignments gpuIndex) :
    tier ∈ validTiers := by
  obtain ⟨assignment, member, assigns⟩ := assigned
  obtain ⟨other, otherValid, read⟩ := ((valid assignment member).2 assigns.own).1.tier
  cases assigns.tier.symm.trans read
  exact otherValid

/-! ### What one assignment offers -/

theorem gpuIndexOf_eq_ok_iff {value : Json} {gpuIndex : ℤ} :
    gpuIndexOf value = .ok gpuIndex ↔ value = .int gpuIndex ∧ 0 ≤ gpuIndex := by
  cases value with
  | int index =>
    rw [gpuIndexOf]
    by_cases negative : index < 0
    · rw [if_pos negative]
      refine ⟨nofun, ?_⟩
      rintro ⟨⟨⟩, nonneg⟩
      exact absurd negative (not_lt.mpr nonneg)
    · rw [if_neg negative]
      constructor
      · rintro ⟨⟩
        exact ⟨rfl, not_lt.mp negative⟩
      · rintro ⟨⟨⟩, _⟩
        rfl
  | _ => exact ⟨nofun, fun both => nomatch both.1⟩

/-- An assignment of another node. -/
def isForeign (nodeName : String) (assignment : Json) : Bool :=
  assignment.isObject && !isForNode nodeName assignment

/-- An assignment of another node offers nothing, whatever its other fields are. -/
theorem candidateOf_foreign {assignment : Json} (foreign : isForeign nodeName assignment = true) :
    candidateOf codec nodeName assignment = .ok none := by
  rw [isForeign, Bool.and_eq_true, Bool.not_eq_true'] at foreign
  obtain ⟨object, elsewhere⟩ := foreign
  have differs : equalsStr ((assignment.get? "nodeName").getD .null) nodeName = false := elsewhere
  rw [candidateOf, object, differs]
  rfl

/-- What is for the node is an object. -/
theorem isObject_of_isForNode {assignment : Json} (own : isForNode nodeName assignment = true) :
    assignment.isObject = true := by
  cases assignment with
  | obj items => rfl
  | _ => cases own

/-- An assignment of the node that is read offers its own tier to its own GPU. -/
theorem offer_of_own {assignment : Json} {offer : Option (ℤ × Candidate)}
    (own : isForNode nodeName assignment = true)
    (read : candidateOf codec nodeName assignment = .ok offer) :
    ∃ gpuIndex candidate, offer = some (gpuIndex, candidate) ∧
      AssignsTier nodeName assignment gpuIndex candidate.tier ∧
      candidate.rank = rankOfTier candidate.tier := by
  have here : equalsStr ((assignment.get? "nodeName").getD .null) nodeName = true := own
  rw [candidateOf, isObject_of_isForNode own, here, Bool.not_true, if_neg Bool.false_ne_true,
    if_neg Bool.false_ne_true] at read
  obtain ⟨gpuIndex, index, read⟩ := ok_of_bind read
  obtain ⟨tier, class_, read⟩ := ok_of_bind read
  obtain ⟨boost, _, read⟩ := ok_of_bind read
  obtain ⟨written, valid⟩ := tierOf_eq_ok_iff.mp class_
  obtain ⟨rank, known⟩ := tierRank_of_valid valid
  rw [known] at read
  cases read
  exact ⟨gpuIndex, ⟨rank, boost, tier⟩, rfl, ⟨own, (gpuIndexOf_eq_ok_iff.mp index).1, written⟩,
    (rankOfTier_of_get? known).symm⟩

/-- What is offered was assigned. -/
theorem assigns_of_offer {assignment : Json} {gpuIndex : ℤ} {candidate : Candidate}
    (read : candidateOf codec nodeName assignment = .ok (some (gpuIndex, candidate))) :
    AssignsTier nodeName assignment gpuIndex candidate.tier ∧
      candidate.rank = rankOfTier candidate.tier := by
  cases own : isForNode nodeName assignment with
  | true =>
    obtain ⟨_, _, ⟨⟩, assigned⟩ := offer_of_own own read
    exact assigned
  | false =>
    have object : assignment.isObject = true :=
      ((classifies_candidateOf codec nodeName assignment).isOk_iff.mp ⟨_, read⟩).1
    have foreign : isForeign nodeName assignment = true := by rw [isForeign, object, own]; rfl
    cases (candidateOf_foreign foreign).symm.trans read

/-- What was assigned is offered. -/
theorem offer_of_assigns {assignment : Json} {offer : Option (ℤ × Candidate)} {gpuIndex : ℤ}
    {tier : String} (assigns : AssignsTier nodeName assignment gpuIndex tier)
    (read : candidateOf codec nodeName assignment = .ok offer) :
    ∃ candidate, offer = some (gpuIndex, candidate) ∧ candidate.tier = tier ∧
      candidate.rank = rankOfTier tier := by
  obtain ⟨other, candidate, rfl, assigned, ranked⟩ := offer_of_own assigns.own read
  cases assigned.gpuIndex.symm.trans assigns.gpuIndex
  cases assigned.tier.symm.trans assigns.tier
  exact ⟨candidate, rfl, rfl, ranked⟩

/-! ### A whole list -/

/-- Every candidate of a list is assigned, and every assigned tier is a candidate. -/
theorem candidates_assigned {offers : List (ℤ × Candidate)}
    (valid : ∀ assignment ∈ assignments, ValidAssignment nodeName assignment)
    (read : candidates codec nodeName assignments = .ok offers) (gpuIndex : ℤ) :
    (∀ candidate, (gpuIndex, candidate) ∈ offers →
        candidate.tier ∈ assignedTiers nodeName assignments gpuIndex ∧
          candidate.rank = rankOfTier candidate.tier) ∧
      ∀ tier ∈ assignedTiers nodeName assignments gpuIndex, ∃ candidate,
        (gpuIndex, candidate) ∈ offers ∧ candidate.tier = tier ∧
        candidate.rank = rankOfTier tier := by
  constructor
  · intro candidate offered
    obtain ⟨assignment, member, own⟩ := (mem_candidates read _).mp offered
    obtain ⟨assigns, ranked⟩ := assigns_of_offer own
    exact ⟨⟨assignment, member, assigns⟩, ranked⟩
  · rintro tier ⟨assignment, member, assigns⟩
    obtain ⟨offer, own⟩ :=
      (classifies_candidateOf codec nodeName assignment).isOk_iff.mpr (valid assignment member)
    obtain ⟨candidate, rfl, same, ranked⟩ := offer_of_assigns assigns own
    exact ⟨candidate, (mem_candidates read _).mpr ⟨assignment, member, own⟩, same, ranked⟩

/-- The highest tiers among the candidates are the highest ones assigned. -/
theorem HighestTiers.isHighest {offers : List (ℤ × Candidate)} {tiers : Dict ℤ String}
    (highest : HighestTiers offers tiers)
    (valid : ∀ assignment ∈ assignments, ValidAssignment nodeName assignment)
    (read : candidates codec nodeName assignments = .ok offers) (gpuIndex : ℤ) :
    IsHighest (assignedTiers nodeName assignments gpuIndex) (tiers.get? gpuIndex) := by
  obtain ⟨sound, complete⟩ := highest gpuIndex
  obtain ⟨assigned, offered⟩ := candidates_assigned valid read gpuIndex
  cases held : tiers.get? gpuIndex with
  | none =>
    refine Set.eq_empty_iff_forall_notMem.mpr fun tier inside => ?_
    obtain ⟨candidate, member, _⟩ := offered tier inside
    obtain ⟨other, stored⟩ := complete candidate member
    exact nomatch held.symm.trans stored
  | some tier =>
    obtain ⟨best, member, rfl, above⟩ := sound tier held
    obtain ⟨inside, ranked⟩ := assigned best member
    refine ⟨inside, fun other otherInside => ?_⟩
    obtain ⟨candidate, otherMember, _, otherRanked⟩ := offered other otherInside
    calc rankOfTier other = candidate.rank := otherRanked.symm
      _ ≤ best.rank := above candidate otherMember
      _ = rankOfTier best.tier := ranked

/-- Assignments of other nodes can be left out. -/
theorem selectAll_filter (codec : Codec) (nodeName : String) (assignments : List Json)
    (selected : Dict ℤ Candidate) :
    selectAll codec nodeName (assignments.filter fun assignment => !isForeign nodeName assignment)
        selected = selectAll codec nodeName assignments selected := by
  induction assignments generalizing selected with
  | nil => rfl
  | cons assignment rest ih =>
    cases foreign : isForeign nodeName assignment with
    | true =>
      rw [List.filter_cons_of_neg (by rw [foreign]; decide), ih]
      simp only [selectAll, candidateOf_foreign foreign]
      rfl
    | false =>
      rw [List.filter_cons_of_pos (by rw [foreign]; rfl)]
      simp only [selectAll]
      cases candidateOf codec nodeName assignment with
      | error exc => rfl
      | ok offer =>
        cases offer with
        | none => exact ih selected
        | some offer => exact ih (select selected offer)

/-! ### A whole payload -/

section Payload

variable {raw other : String} {payload otherPayload : Json}

/-- A document with a list is parsed by selecting from the list. -/
theorem parse_of_lists (loaded : codec.loads raw = .ok payload) (lists : Lists payload assignments) :
    parse codec nodeName (some raw) = (selectAll codec nodeName assignments .empty).map
      fun selected => selected.mapVals fun _ candidate => candidate.tier := by
  obtain ⟨object, schema, listed⟩ := lists
  simp only [parse, loaded, Except.bind, bind, object, schema, listed, Bool.not_true,
    Bool.false_eq_true, if_false]
  cases selectAll codec nodeName assignments .empty <;> rfl

/-- A document with a list is accepted when its assignments are valid. -/
theorem parse_isOk_iff_of_lists (loaded : codec.loads raw = .ok payload)
    (lists : Lists payload assignments) :
    (∃ tiers, parse codec nodeName (some raw) = .ok tiers) ↔
      ∀ assignment ∈ assignments, ValidAssignment nodeName assignment := by
  rw [← (classifies_selectAll codec nodeName assignments).isOk_iff, parse_of_lists loaded lists]
  cases selectAll codec nodeName assignments .empty with
  | error exc => exact ⟨fun ⟨_, stopped⟩ => (nomatch stopped), fun ⟨_, stopped⟩ => nomatch stopped⟩
  | ok selected => exact ⟨fun _ => ⟨_, rfl⟩, fun _ => ⟨_, rfl⟩⟩

/-- **A payload that is accepted** gives each GPU the highest tier assigned to it on the node. -/
theorem parse_isHighest (loaded : codec.loads raw = .ok payload) (lists : Lists payload assignments)
    {tiers : Dict ℤ String} (parsed : parse codec nodeName (some raw) = .ok tiers) (gpuIndex : ℤ) :
    IsHighest (assignedTiers nodeName assignments gpuIndex) (tiers.get? gpuIndex) := by
  have valid := (parse_isOk_iff_of_lists loaded lists).mp ⟨tiers, parsed⟩
  obtain ⟨offers, read⟩ := (classifies_candidates codec nodeName assignments).isOk_iff.mpr valid
  obtain ⟨object, schema, listed⟩ := lists
  obtain ⟨others, otherParsed, highest⟩ := parse_tiers loaded object schema listed read
  cases parsed.symm.trans otherParsed
  exact highest.isHighest valid read gpuIndex

/-- Two payloads come to the same: both are rejected, or both give every GPU the same tier. -/
inductive SameTiers : Except PyError (Dict ℤ String) → Except PyError (Dict ℤ String) → Prop
  | rejected (exc otherExc : PyError) : SameTiers (.error exc) (.error otherExc)
  | accepted {tiers otherTiers : Dict ℤ String}
      (same : ∀ gpuIndex, tiers.get? gpuIndex = otherTiers.get? gpuIndex) :
      SameTiers (.ok tiers) (.ok otherTiers)

/-- Payloads that are accepted together, with the same tiers when they are, come to the same. -/
theorem SameTiers.of_isOk {first second : Except PyError (Dict ℤ String)}
    (together : (∃ tiers, first = .ok tiers) ↔ ∃ tiers, second = .ok tiers)
    (same : ∀ tiers otherTiers, first = .ok tiers → second = .ok otherTiers →
      ∀ gpuIndex, tiers.get? gpuIndex = otherTiers.get? gpuIndex) : SameTiers first second := by
  cases first with
  | ok tiers =>
    obtain ⟨otherTiers, rfl⟩ := together.mp ⟨tiers, rfl⟩
    exact .accepted (same tiers otherTiers rfl rfl)
  | error exc =>
    cases second with
    | error otherExc => exact .rejected exc otherExc
    | ok otherTiers =>
      obtain ⟨_, accepted⟩ := together.mpr ⟨otherTiers, rfl⟩
      cases accepted

/-- The order of a list does not matter. -/
theorem sameTiers_of_perm (loaded : codec.loads raw = .ok payload)
    (lists : Lists payload assignments) (otherLoaded : codec.loads other = .ok otherPayload)
    (otherLists : Lists otherPayload others) (perm : assignments.Perm others) :
    SameTiers (parse codec nodeName (some raw)) (parse codec nodeName (some other)) := by
  have together : (∃ tiers, parse codec nodeName (some raw) = .ok tiers) ↔
      ∃ tiers, parse codec nodeName (some other) = .ok tiers := by
    rw [parse_isOk_iff_of_lists loaded lists, parse_isOk_iff_of_lists otherLoaded otherLists]
    exact forall_congr' fun assignment => by rw [perm.mem_iff]
  refine .of_isOk together fun tiers otherTiers parsed otherParsed gpuIndex => ?_
  have valid := (parse_isOk_iff_of_lists loaded lists).mp ⟨tiers, parsed⟩
  have highest := parse_isHighest otherLoaded otherLists otherParsed gpuIndex
  rw [← assignedTiers_perm perm] at highest
  exact (parse_isHighest loaded lists parsed gpuIndex).unique
    (fun _ assigned => valid_of_mem_assignedTiers valid assigned) highest

/-- **Conflicts are resolved the same way in every order.** Of two documents that list assignments,

* when one list is a permutation of the other, both are rejected or both give the same tiers;
* a document that is accepted gives each GPU the highest tier its node's assignments give it, and a
  GPU without such an assignment none;
* when the lists differ in assignments of other nodes only, both come to exactly the same. -/
theorem parse_order_independent (loaded : codec.loads raw = .ok payload)
    (lists : Lists payload assignments) (otherLoaded : codec.loads other = .ok otherPayload)
    (otherLists : Lists otherPayload others) :
    (assignments.Perm others →
        SameTiers (parse codec nodeName (some raw)) (parse codec nodeName (some other))) ∧
      (∀ tiers, parse codec nodeName (some raw) = .ok tiers → ∀ gpuIndex,
        IsHighest (assignedTiers nodeName assignments gpuIndex) (tiers.get? gpuIndex)) ∧
      ((assignments.filter fun assignment => !isForeign nodeName assignment) =
          (others.filter fun assignment => !isForeign nodeName assignment) →
        parse codec nodeName (some raw) = parse codec nodeName (some other)) := by
  refine ⟨sameTiers_of_perm loaded lists otherLoaded otherLists,
    fun tiers parsed => parse_isHighest loaded lists parsed, fun same => ?_⟩
  rw [parse_of_lists loaded lists, parse_of_lists otherLoaded otherLists,
    ← selectAll_filter codec nodeName assignments, same, selectAll_filter]

end Payload

/-! ### A conflict in three orders

Two assignments of one GPU, the higher one with a boost that is not a number, and an assignment of
another node that has no other field. -/

def normalAssignment : Json × String :=
  (.object [("nodeName", .str "node-a"), ("gpuIndex", .int 4), ("priorityClass", .str "normal"),
      ("gpuBoostPct", .int 5)],
    "\x7b\"nodeName\":\"node-a\",\"gpuIndex\":4,\"priorityClass\":\"normal\"," ++
      "\"gpuBoostPct\":5\x7d")

def criticalAssignment : Json × String :=
  (.object [("nodeName", .str "node-a"), ("gpuIndex", .int 4), ("priorityClass", .str "critical"),
      ("gpuBoostPct", .float .nan)],
    "\x7b\"nodeName\":\"node-a\",\"gpuIndex\":4,\"priorityClass\":\"critical\"," ++
      "\"gpuBoostPct\":NaN\x7d")

def foreignAssignment : Json × String :=
  (.object [("nodeName", .str "node-b")], "\x7b\"nodeName\":\"node-b\"\x7d")

/-- A document of assignments, and how it is written. -/
def writtenDocument (assignments : List (Json × String)) : Json × String :=
  (.object [("schemaVersion", .int 1), ("assignments", .arr (assignments.map Prod.fst))],
    "\x7b\"schemaVersion\":1,\"assignments\":[" ++
      ",".intercalate (assignments.map Prod.snd) ++ "]\x7d")

theorem lists_writtenDocument (assignments : List (Json × String)) :
    Lists (writtenDocument assignments).1 (assignments.map Prod.fst) := by
  have version : (writtenDocument assignments).1.get? "schemaVersion" = some (.int 1) :=
    Json.get?_object (by simp) (by simp)
  refine ⟨rfl, ?_, Json.get?_object (by simp) (by simp)⟩
  rw [version]
  rfl

def normalFirst : Json × String :=
  writtenDocument [normalAssignment, criticalAssignment, foreignAssignment]

def criticalFirst : Json × String :=
  writtenDocument [criticalAssignment, foreignAssignment, normalAssignment]

def foreignFirst : Json × String :=
  writtenDocument [foreignAssignment, normalAssignment, criticalAssignment]

/-- A parser of these documents. -/
def conflictCodec : Codec where
  dumps _ := normalFirst.2
  loads text :=
    if text = normalFirst.2 then .ok normalFirst.1
    else if text = criticalFirst.2 then .ok criticalFirst.1
    else if text = foreignFirst.2 then .ok foreignFirst.1
    else .error (.jsonDecodeError "Expecting value: line 1 column 1 (char 0)")
  repr _ := "None"

theorem loads_conflictCodec (text : String) : conflictCodec.loads text =
    if text = normalFirst.2 then .ok normalFirst.1
    else if text = criticalFirst.2 then .ok criticalFirst.1
    else if text = foreignFirst.2 then .ok foreignFirst.1
    else .error (.jsonDecodeError "Expecting value: line 1 column 1 (char 0)") := rfl

/-- The tier `critical` wins in each of the three orders. -/
theorem parse_order_independent_conflict :
    SameTiers (parse conflictCodec "node-a" (some normalFirst.2))
        (parse conflictCodec "node-a" (some criticalFirst.2)) ∧
      IsHighest (assignedTiers "node-a"
        [normalAssignment.1, criticalAssignment.1, foreignAssignment.1] 4) (some "critical") ∧
      parse conflictCodec "node-a" (some normalFirst.2) =
        parse conflictCodec "node-a" (some foreignFirst.2) := by
  have normalLoaded : conflictCodec.loads normalFirst.2 = .ok normalFirst.1 := by
    rw [loads_conflictCodec, if_pos rfl]
  have criticalLoaded : conflictCodec.loads criticalFirst.2 = .ok criticalFirst.1 := by
    have fresh : criticalFirst.2 ≠ normalFirst.2 := by decide +kernel
    rw [loads_conflictCodec, if_neg fresh, if_pos rfl]
  have foreignLoaded : conflictCodec.loads foreignFirst.2 = .ok foreignFirst.1 := by
    have fresh : foreignFirst.2 ≠ normalFirst.2 := by decide +kernel
    have otherFresh : foreignFirst.2 ≠ criticalFirst.2 := by decide +kernel
    rw [loads_conflictCodec, if_neg fresh, if_neg otherFresh, if_pos rfl]
  have parsed : parse conflictCodec "node-a" (some normalFirst.2) =
      .ok ⟨[(4, "critical")], by decide⟩ := ok_of_toOption (by decide +kernel)
  have normalLists : Lists normalFirst.1
      [normalAssignment.1, criticalAssignment.1, foreignAssignment.1] :=
    lists_writtenDocument [normalAssignment, criticalAssignment, foreignAssignment]
  have criticalLists : Lists criticalFirst.1
      [criticalAssignment.1, foreignAssignment.1, normalAssignment.1] :=
    lists_writtenDocument [criticalAssignment, foreignAssignment, normalAssignment]
  have foreignLists : Lists foreignFirst.1
      [foreignAssignment.1, normalAssignment.1, criticalAssignment.1] :=
    lists_writtenDocument [foreignAssignment, normalAssignment, criticalAssignment]
  have rotated : [normalAssignment.1, criticalAssignment.1, foreignAssignment.1].Perm
      [criticalAssignment.1, foreignAssignment.1, normalAssignment.1] :=
    @List.perm_append_comm _ [_] [_, _]
  obtain ⟨sameTiers, highest, _⟩ := @parse_order_independent _ "node-a" _ _ _ _ _ _ normalLoaded
    normalLists criticalLoaded criticalLists
  obtain ⟨_, _, sameOutcome⟩ := @parse_order_independent _ "node-a" _ _ _ _ _ _ normalLoaded
    normalLists foreignLoaded foreignLists
  exact ⟨sameTiers rotated, highest _ parsed 4, sameOutcome rfl⟩

end Opendps.Controller
