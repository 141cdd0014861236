/-
**Polling the published priorities, over any history.**

A source that polls keeps three things between polls: the snapshot, the version of the registry it
applied last, and whether it has complained. `Tracks` says what they are worth after any list of
reads: the snapshot is the baseline under the last good payload, and a remembered version is the one
of the ConfigMap that payload came from. `poll_last_known_good` states this over all histories.

The second half is about one payload. `parse` accepts the valid documents and no other
(`parse_isOk_iff`), and what it raises otherwise is caught by the poll, but for two cases: a document
`json.loads` gives up on with another exception, and one with a boost no double can hold
(`poll_survives_iff`).
-/

import Opendps.Controller.PriorityConfig
import Opendps.Lib.Double
import Opendps.Lib.Outcome

namespace Opendps.Controller

open Opendps.Lib

/-- A text that cannot be read is not parsed. -/
theorem parse_of_loads_error {codec : Codec} {nodeName raw : String} {exc : PyError}
    (refused : codec.loads raw = .error exc) : parse codec nodeName (some raw) = .error exc := by
  show (codec.loads raw >>= _) = _
  rw [refused]
  rfl

namespace PriorityConfigSource

/-! ### The reads of a history of polls -/

/-- Polls, one after the other. -/
def pollAll (codec : Codec) (source : PriorityConfigSource) (inputs : List PollInput) :
    Except PyError PriorityConfigSource :=
  inputs.foldlM (poll codec) source

/-- What is read: a poll reads nothing while the client has not been set up. -/
def reads : Bool → List PollInput → List (Except ReadFailure PublishedConfigMap)
  | _, [] => []
  | hasApi, input :: rest =>
    if hasApi || input.clientLoads then input.read :: reads true rest else reads false rest

/-- The tiers of a valid ConfigMap. -/
def goodTiers (codec : Codec) (nodeName : String) :
    Except ReadFailure PublishedConfigMap → Option (Dict ℤ String)
  | .ok configMap => (parse codec nodeName (configMap.data.get? assignmentsKey)).toOption
  | .error _ => none

/-- The registry is not there. -/
def isNotFound : Except ReadFailure PublishedConfigMap → Bool
  | .ok _ => false
  | .error exc => decide (exc.status = some 404)

/-- The tiers of the most recent valid ConfigMap since the registry was last not found. -/
def lastGood (codec : Codec) (nodeName : String)
    (past : List (Except ReadFailure PublishedConfigMap)) : Option (Dict ℤ String) :=
  past.foldl (fun good read =>
    if isNotFound read then none else (goodTiers codec nodeName read).or good) none

/-- Two ConfigMaps with the same version, if it is not empty, carry the same data. -/
def VersionsAgree (past : List (Except ReadFailure PublishedConfigMap)) : Prop :=
  ∀ first second version, .ok first ∈ past → .ok second ∈ past → version ≠ "" →
    first.resourceVersion = some version → second.resourceVersion = some version →
    first.data = second.data

/-- A payload parses, or is refused with an exception a poll catches. -/
def Refusable (codec : Codec) (nodeName : String)
    (past : List (Except ReadFailure PublishedConfigMap)) : Prop :=
  ∀ configMap exc, .ok configMap ∈ past →
    parse codec nodeName (configMap.data.get? assignmentsKey) = .error exc → isMalformed exc = true

section

variable {codec : Codec} {nodeName : String} {baseline : Dict ℤ String}
  {past : List (Except ReadFailure PublishedConfigMap)}
  {read : Except ReadFailure PublishedConfigMap} {source : PriorityConfigSource}

theorem lastGood_append_singleton :
    lastGood codec nodeName (past ++ [read]) =
      if isNotFound read then none
      else (goodTiers codec nodeName read).or (lastGood codec nodeName past) := by
  rw [lastGood, List.foldl_append]
  rfl

/-- Reads that are neither valid nor a miss change nothing. -/
theorem lastGood_append_of_bad {after : List (Except ReadFailure PublishedConfigMap)}
    (bad : ∀ read ∈ after, isNotFound read = false ∧ goodTiers codec nodeName read = none) :
    lastGood codec nodeName (past ++ after) = lastGood codec nodeName past := by
  induction after using List.reverseRecOn with
  | nil => rw [List.append_nil]
  | append_singleton after read ih =>
    obtain ⟨found, invalid⟩ := bad read (by simp)
    rw [← List.append_assoc, lastGood_append_singleton, found, invalid, Option.none_or]
    exact ih fun other member => bad other (List.mem_append_left _ member)

/-- Without a valid read there is no good payload, if there was none before. -/
theorem lastGood_append_of_invalid {after : List (Except ReadFailure PublishedConfigMap)}
    (none : lastGood codec nodeName past = none)
    (invalid : ∀ read ∈ after, goodTiers codec nodeName read = .none) :
    lastGood codec nodeName (past ++ after) = .none := by
  induction after using List.reverseRecOn with
  | nil => rw [List.append_nil, none]
  | append_singleton after read ih =>
    rw [← List.append_assoc, lastGood_append_singleton, invalid read (by simp), Option.none_or,
      ih fun other member => invalid other (List.mem_append_left _ member), ite_self]

/-! ### What a source is worth after some reads -/

/-- A source after some reads: the snapshot is the baseline under the last good payload, and a
remembered version is that of a ConfigMap this payload came from. -/
structure Tracks (codec : Codec) (nodeName : String) (baseline : Dict ℤ String)
    (past : List (Except ReadFailure PublishedConfigMap)) (source : PriorityConfigSource) :
    Prop where
  sameNode : source.nodeName = nodeName
  sameBaseline : source.baseline = baseline
  snapshot : source.snapshot = baseline.update ((lastGood codec nodeName past).getD .empty)
  version : ∀ version, version ≠ "" → source.resourceVersion = some version →
    ∃ configMap tiers, .ok configMap ∈ past ∧ configMap.resourceVersion = some version ∧
      parse codec nodeName (configMap.data.get? assignmentsKey) = .ok tiers ∧
      lastGood codec nodeName past = some tiers

theorem Tracks.new (codec : Codec) (nodeName : String) (baseline : Dict ℤ String) (hasApi : Bool) :
    Tracks codec nodeName baseline [] (new nodeName baseline hasApi) where
  sameNode := rfl
  sameBaseline := rfl
  snapshot := rfl
  version _ _ remembered := by cases remembered

/-- A read that is neither valid nor a miss keeps a source as it is. -/
theorem Tracks.keep (tracks : Tracks codec nodeName baseline past source)
    (found : isNotFound read = false) (invalid : goodTiers codec nodeName read = none)
    {next : PriorityConfigSource} (sameNode : next.nodeName = source.nodeName)
    (sameBaseline : next.baseline = source.baseline) (sameSnapshot : next.snapshot = source.snapshot)
    (sameVersion : next.resourceVersion = source.resourceVersion) :
    Tracks codec nodeName baseline (past ++ [read]) next := by
  have kept : lastGood codec nodeName (past ++ [read]) = lastGood codec nodeName past := by
    rw [lastGood_append_singleton, found, invalid, Option.none_or]
    rfl
  refine ⟨sameNode.trans tracks.sameNode, sameBaseline.trans tracks.sameBaseline, ?_, ?_⟩
  · rw [sameSnapshot, kept, tracks.snapshot]
  · intro version some remembered
    obtain ⟨configMap, tiers, member, own, parsed, good⟩ :=
      tracks.version version some (sameVersion ▸ remembered)
    exact ⟨configMap, tiers, List.mem_append_left _ member, own, parsed, kept.trans good⟩

/-- A ConfigMap whose version is remembered is the one applied last. -/
theorem Tracks.applied (tracks : Tracks codec nodeName baseline past source)
    {configMap : PublishedConfigMap} (agree : VersionsAgree (past ++ [.ok configMap]))
    (applied : source.isApplied configMap.resourceVersion = true) :
    goodTiers codec nodeName (.ok configMap) = lastGood codec nodeName past ∧
      ∃ tiers, lastGood codec nodeName past = some tiers := by
  unfold isApplied at applied
  split at applied
  · next version own =>
    rw [Bool.and_eq_true, decide_eq_true_eq, decide_eq_true_eq] at applied
    obtain ⟨earlier, tiers, member, same, parsed, good⟩ :=
      tracks.version version applied.1 applied.2
    have data : configMap.data = earlier.data :=
      agree configMap earlier version (by simp) (List.mem_append_left _ member) applied.1 own same
    refine ⟨?_, tiers, good⟩
    rw [good, goodTiers, data, parsed]
    rfl
  · cases applied

/-- **One read.** A refresh raises nothing and keeps what a source is worth. -/
theorem Tracks.refresh (tracks : Tracks codec nodeName baseline past source)
    (agree : VersionsAgree (past ++ [read])) (refusable : Refusable codec nodeName (past ++ [read])) :
    ∃ next, source.refresh codec read = .ok next ∧ next.hasApi = source.hasApi ∧
      Tracks codec nodeName baseline (past ++ [read]) next := by
  cases read with
  | error exc =>
    unfold PriorityConfigSource.refresh
    simp only
    by_cases missing : exc.status = some 404
    · rw [if_pos missing]
      refine ⟨_, rfl, rfl, tracks.sameNode, tracks.sameBaseline, ?_, fun _ _ remembered => ?_⟩
      · rw [lastGood_append_singleton, isNotFound, decide_eq_true missing]
        exact tracks.sameBaseline
      · cases remembered
    · have found : isNotFound (.error exc) = false := decide_eq_false missing
      rw [if_neg missing]
      split
      · exact ⟨_, rfl, rfl, tracks.keep found rfl rfl rfl rfl rfl⟩
      · exact ⟨_, rfl, rfl, tracks.keep found rfl rfl rfl rfl rfl⟩
  | ok configMap =>
    unfold PriorityConfigSource.refresh
    simp only
    split
    · -- the version is the remembered one: the data are those of the last good payload
      next applied =>
      obtain ⟨same, tiers, good⟩ := tracks.applied agree applied
      have kept : lastGood codec nodeName (past ++ [.ok configMap]) =
          lastGood codec nodeName past := by
        rw [lastGood_append_singleton, same, good]
        rfl
      refine ⟨_, rfl, rfl, tracks.sameNode, tracks.sameBaseline, ?_, fun version some remembered => ?_⟩
      · rw [kept]
        exact tracks.snapshot
      · obtain ⟨earlier, others, member, own, parsed, stored⟩ :=
          tracks.version version some remembered
        exact ⟨earlier, others, List.mem_append_left _ member, own, parsed, kept.trans stored⟩
    · cases parsed : parse codec source.nodeName (configMap.data.get? assignmentsKey) with
      | error exc =>
        rw [tracks.sameNode] at parsed
        have invalid : goodTiers codec nodeName (.ok configMap) = none := by
          rw [goodTiers, parsed]
          rfl
        simp only [refusable configMap exc (by simp) parsed, if_true]
        exact ⟨_, rfl, rfl, tracks.keep rfl invalid rfl rfl rfl rfl⟩
      | ok tiers =>
        rw [tracks.sameNode] at parsed
        have good : lastGood codec nodeName (past ++ [.ok configMap]) = some tiers := by
          rw [lastGood_append_singleton, goodTiers, parsed]
          rfl
        refine ⟨_, rfl, rfl, tracks.sameNode, tracks.sameBaseline, ?_, fun version _ own => ?_⟩
        · rw [good, ← tracks.sameBaseline]
          rfl
        · exact ⟨configMap, tiers, by simp, own, parsed, good⟩

/-- Any number of polls. -/
theorem Tracks.pollAll {inputs : List PollInput}
    (tracks : Tracks codec nodeName baseline past source)
    (agree : VersionsAgree (past ++ reads source.hasApi inputs))
    (refusable : Refusable codec nodeName (past ++ reads source.hasApi inputs)) :
    ∃ final, source.pollAll codec inputs = .ok final ∧
      Tracks codec nodeName baseline (past ++ reads source.hasApi inputs) final := by
  induction inputs generalizing past source with
  | nil =>
    rw [reads, List.append_nil]
    exact ⟨source, rfl, tracks⟩
  | cons input rest ih =>
    rw [reads] at agree refusable ⊢
    by_cases loaded : (source.hasApi || input.clientLoads) = true
    · rw [if_pos loaded] at agree refusable ⊢
      have regroup : past ++ input.read :: reads true rest =
          (past ++ [input.read]) ++ reads true rest := by simp
      rw [regroup] at agree refusable ⊢
      have withApi : Tracks codec nodeName baseline past { source with hasApi := true } :=
        ⟨tracks.sameNode, tracks.sameBaseline, tracks.snapshot, tracks.version⟩
      obtain ⟨next, refreshed, hasApi, nextTracks⟩ := withApi.refresh
        (fun first second version inFirst inSecond => agree first second version
          (List.mem_append_left _ inFirst) (List.mem_append_left _ inSecond))
        (fun configMap exc member => refusable configMap exc (List.mem_append_left _ member))
      have polled : source.poll codec input = .ok next := (if_pos loaded).trans refreshed
      have api : next.hasApi = true := hasApi
      obtain ⟨final, ran, finalTracks⟩ := ih nextTracks (api.symm ▸ agree) (api.symm ▸ refusable)
      refine ⟨final, ?_, api ▸ finalTracks⟩
      rw [PriorityConfigSource.pollAll, List.foldlM_cons, polled]
      exact ran
    · have unset : source.hasApi = false := by
        cases api : source.hasApi with
        | false => rfl
        | true =>
          rw [api, Bool.true_or] at loaded
          exact absurd rfl loaded
      rw [if_neg loaded] at agree refusable ⊢
      have idle : Tracks codec nodeName baseline past { source with reportedUnavailable := true } :=
        ⟨tracks.sameNode, tracks.sameBaseline, tracks.snapshot, tracks.version⟩
      have polled : source.poll codec input = .ok { source with reportedUnavailable := true } :=
        if_neg loaded
      obtain ⟨final, ran, finalTracks⟩ := ih idle (unset.symm ▸ agree) (unset.symm ▸ refusable)
      refine ⟨final, ?_, unset ▸ finalTracks⟩
      rw [PriorityConfigSource.pollAll, List.foldlM_cons, polled]
      exact ran

end

/-- **Last known good.** After any polls, in which equal versions carry equal data and payloads parse
or are refused with an exception a poll catches, the snapshot is

* the baseline, when no read since the start, or since one that did not find the registry, was valid;
* the baseline overridden by the tiers of the most recent valid read otherwise. -/
theorem poll_last_known_good (codec : Codec) (nodeName : String) (baseline : Dict ℤ String)
    (hasApi : Bool) (inputs : List PollInput) (agree : VersionsAgree (reads hasApi inputs))
    (refusable : Refusable codec nodeName (reads hasApi inputs)) :
    ∃ source, (new nodeName baseline hasApi).pollAll codec inputs = .ok source ∧
      (∀ before after, reads hasApi inputs = before ++ after →
        (∀ last, before.getLast? = some last → isNotFound last = true) →
        (∀ read ∈ after, goodTiers codec nodeName read = none) → source.snapshot = baseline) ∧
      ∀ before configMap tiers after, reads hasApi inputs = before ++ .ok configMap :: after →
        parse codec nodeName (configMap.data.get? assignmentsKey) = .ok tiers →
        (∀ read ∈ after, isNotFound read = false ∧ goodTiers codec nodeName read = none) →
        source.snapshot = baseline.update tiers := by
  obtain ⟨source, polled, tracks⟩ :=
    (Tracks.new codec nodeName baseline hasApi).pollAll agree refusable
  have snapshot : source.snapshot =
      baseline.update ((lastGood codec nodeName (reads hasApi inputs)).getD .empty) :=
    tracks.snapshot
  refine ⟨source, polled, fun before after split missing invalid => ?_,
    fun before configMap tiers after split parsed bad => ?_⟩
  · have start : lastGood codec nodeName before = none := by
      cases before using List.reverseRecOn with
      | nil => rfl
      | append_singleton before last =>
        rw [lastGood_append_singleton, missing last (by simp), if_pos rfl]
    rw [snapshot, split, lastGood_append_of_invalid start invalid]
    rfl
  · have regroup : before ++ .ok configMap :: after = (before ++ [.ok configMap]) ++ after := by
      simp
    have good : lastGood codec nodeName (before ++ [.ok configMap]) = some tiers := by
      rw [lastGood_append_singleton, goodTiers, parsed]
      rfl
    rw [snapshot, split, regroup, lastGood_append_of_bad bad, good]
    rfl

/-! ### One document

A single assignment, of GPU 0 of a node to the tier `high`, with a boost that is left open. -/

def boostAssignment (boost : ℕ) : Json := .object [("nodeName", .str "node-a"), ("gpuIndex", .int 0),
  ("priorityClass", .str "high"), ("gpuBoostPct", .int boost)]

def boostDocument (boost : ℕ) : Json :=
  .object [("schemaVersion", .int 1), ("assignments", .arr [boostAssignment boost])]

def boostText (boost : String) : String :=
  "\x7b\"schemaVersion\":1,\"assignments\":[\x7b\"nodeName\":\"node-a\",\"gpuIndex\":0," ++
    "\"priorityClass\":\"high\",\"gpuBoostPct\":" ++ boost ++ "\x7d]\x7d"

/-- A parser of this one document. -/
def boostCodec (boost : ℕ) (digits : String) : Codec where
  dumps _ := boostText digits
  loads text :=
    if text = boostText digits then .ok (boostDocument boost)
    else .error (.jsonDecodeError "Expecting value: line 1 column 1 (char 0)")
  repr _ := "None"

theorem loads_boostCodec (boost : ℕ) (digits text : String) :
    (boostCodec boost digits).loads text =
      if text = boostText digits then .ok (boostDocument boost)
      else .error (.jsonDecodeError "Expecting value: line 1 column 1 (char 0)") := rfl

/-- A ConfigMap with some text under the key of the assignments. -/
def published (version : String) (text : String) : PublishedConfigMap where
  resourceVersion := some version
  data := .ofList [(assignmentsKey, text)]

theorem get?_published (version text : String) :
    (published version text).data.get? assignmentsKey = some text := by
  rw [published, Dict.get?_ofList (by simp), List.lookup_cons_self]


/-- A client that is not there yet, a valid ConfigMap, a malformed one and a refused read. -/
def troubledInputs : List PollInput :=
  [⟨false, .error ⟨none⟩⟩, ⟨true, .ok (published "1" (boostText "10"))⟩,
    ⟨true, .ok (published "2" "no json")⟩, ⟨true, .error ⟨some 403⟩⟩]

/-- The tier of the valid ConfigMap stays. -/
theorem poll_last_known_good_malformed :
    ∃ source, (new "node-a" ⟨[(0, "low"), (1, "normal")], by decide⟩ false).pollAll
        (boostCodec 10 "10") troubledInputs = .ok source ∧
      source.snapshot.items = [(0, "high"), (1, "normal")] := by
  have good : parse (boostCodec 10 "10") "node-a"
      ((published "1" (boostText "10")).data.get? assignmentsKey) =
        .ok ⟨[(0, "high")], by decide⟩ := ok_of_toOption (by decide +kernel)
  have unread : (boostCodec 10 "10").loads "no json" =
      .error (.jsonDecodeError "Expecting value: line 1 column 1 (char 0)") := by
    have other : "no json" ≠ boostText "10" := by decide +kernel
    rw [loads_boostCodec, if_neg other]
  have bad : parse (boostCodec 10 "10") "node-a"
      ((published "2" "no json").data.get? assignmentsKey) =
        .error (.jsonDecodeError "Expecting value: line 1 column 1 (char 0)") := by
    rw [get?_published]
    exact parse_of_loads_error unread
  have ours : ∀ configMap, .ok configMap ∈ reads false troubledInputs →
      configMap = published "1" (boostText "10") ∨ configMap = published "2" "no json" := by
    intro configMap member
    rcases List.mem_cons.mp member with same | member
    · exact .inl (Except.ok.inj same)
    rcases List.mem_cons.mp member with same | member
    · exact .inr (Except.ok.inj same)
    · exact nomatch List.mem_singleton.mp member
  have agree : VersionsAgree (reads false troubledInputs) := by
    intro first second version inFirst inSecond _ firstOwn secondOwn
    rcases ours first inFirst with rfl | rfl <;> rcases ours second inSecond with rfl | rfl
    · rfl
    · exact absurd (firstOwn.trans secondOwn.symm) (by decide)
    · exact absurd (firstOwn.trans secondOwn.symm) (by decide)
    · rfl
  have refusable : Refusable (boostCodec 10 "10") "node-a" (reads false troubledInputs) := by
    intro configMap exc member refused
    rcases ours configMap member with rfl | rfl
    · exact nomatch good.symm.trans refused
    · cases bad.symm.trans refused
      rfl
  have invalid : ∀ read ∈ [.ok (published "2" "no json"), .error ⟨some 403⟩],
      isNotFound read = false ∧ goodTiers (boostCodec 10 "10") "node-a" read = none := by
    intro read member
    rcases List.mem_cons.mp member with rfl | member
    · rw [goodTiers, bad]
      exact ⟨rfl, rfl⟩
    · rw [List.mem_singleton.mp member]
      exact ⟨rfl, rfl⟩
  obtain ⟨source, polled, _, snapshot⟩ := poll_last_known_good (boostCodec 10 "10") "node-a"
    ⟨[(0, "low"), (1, "normal")], by decide⟩ false troubledInputs agree refusable
  refine ⟨source, polled, ?_⟩
  rw [snapshot [] _ _ _ rfl good invalid]
  rfl

end PriorityConfigSource

/-! ### Valid documents -/

/-- An assignment is about the node. -/
def isForNode (nodeName : String) (assignment : Json) : Bool :=
  equalsStr ((assignment.get? "nodeName").getD .null) nodeName

/-- The GPU and the tier of an assignment are readable. -/
structure Placed (assignment : Json) : Prop where
  gpuIndex : ∃ index, (assignment.get? "gpuIndex").getD .null = .int index ∧ 0 ≤ index
  tier : ∃ tier ∈ validTiers, (assignment.get? "priorityClass").getD .null = .str tier

/-- The boost of an assignment is a float, or an integer a double can hold. -/
def BoostInRange (assignment : Json) : Prop :=
  (∃ boost, (assignment.get? "gpuBoostPct").getD .null = .float boost) ∨
    ∃ boost, (assignment.get? "gpuBoostPct").getD .null = .int boost ∧ PyFloat.InRange boost

/-- The boost of an assignment is an integer no double can hold. -/
def BoostTooLarge (assignment : Json) : Prop :=
  ∃ boost, (assignment.get? "gpuBoostPct").getD .null = .int boost ∧ ¬ PyFloat.InRange boost

/-- An assignment the parser accepts: one for another node, or one whose fields are readable. -/
def ValidAssignment (nodeName : String) (assignment : Json) : Prop :=
  assignment.isObject = true ∧
    (isForNode nodeName assignment = true → Placed assignment ∧ BoostInRange assignment)

/-- An assignment for the node that is readable up to a boost that is too large. -/
def OverflowingAssignment (nodeName : String) (assignment : Json) : Prop :=
  assignment.isObject = true ∧ isForNode nodeName assignment = true ∧ Placed assignment ∧
    BoostTooLarge assignment

/-- The first assignment that is not valid has a boost that is too large. -/
def Overflowing (nodeName : String) (assignments : List Json) : Prop :=
  ∃ before assignment after, assignments = before ++ assignment :: after ∧
    (∀ other ∈ before, ValidAssignment nodeName other) ∧ OverflowingAssignment nodeName assignment

/-- A document with a list of assignments, in the supported version. -/
def Lists (payload : Json) (assignments : List Json) : Prop :=
  payload.isObject = true ∧
    equalsInt ((payload.get? "schemaVersion").getD .null) schemaVersion = true ∧
    payload.get? "assignments" = some (.arr assignments)

/-- A valid payload for a node: a document whose assignments are all valid. -/
def ValidPayload (codec : Codec) (nodeName : String) (raw : Option String) : Prop :=
  ∃ text, raw = some text ∧ ∃ payload, codec.loads text = .ok payload ∧
    ∃ assignments, Lists payload assignments ∧
      ∀ assignment ∈ assignments, ValidAssignment nodeName assignment

/-- A payload that is a danger to a poll: `json.loads` raises something on it that the poll does not
catch, or the first assignment that is not valid overflows. -/
def FatalPayload (codec : Codec) (nodeName : String) (raw : Option String) : Prop :=
  ∃ text, raw = some text ∧
    ((∃ exc, codec.loads text = .error exc ∧ isMalformed exc = false) ∨
      ∃ payload, codec.loads text = .ok payload ∧
        ∃ assignments, Lists payload assignments ∧ Overflowing nodeName assignments)

/-! ### What the parser raises -/

/-- Reading the GPU index. -/
theorem classifies_gpuIndexOf (value : Json) :
    Classifies isMalformed (∃ index, value = .int index ∧ 0 ≤ index) False (gpuIndexOf value) := by
  cases value with
  | int index =>
    refine ⟨?_, False.elim, fun invalid _ => ⟨_, if_pos ?_, rfl⟩⟩
    · rintro ⟨_, ⟨⟩, nonneg⟩
      exact ⟨index, if_neg (not_lt.mpr nonneg)⟩
    · by_contra nonneg
      exact invalid ⟨index, rfl, not_lt.mp nonneg⟩
  | _ =>
    refine (Classifies.error rfl).congr ⟨False.elim, ?_⟩ Iff.rfl
    rintro ⟨_, ⟨⟩, _⟩

/-- Reading the tier. -/
theorem classifies_tierOf (codec : Codec) (value : Json) :
    Classifies isMalformed (∃ tier ∈ validTiers, value = .str tier) False (tierOf codec value) := by
  cases value with
  | str tier =>
    refine ⟨?_, False.elim, fun invalid _ => ⟨_, if_neg ?_, rfl⟩⟩
    · rintro ⟨_, valid, ⟨⟩⟩
      exact ⟨tier, if_pos valid⟩
    · exact fun valid => invalid ⟨tier, valid, rfl⟩
  | _ =>
    refine (Classifies.error rfl).congr ⟨False.elim, ?_⟩ Iff.rfl
    rintro ⟨_, _, ⟨⟩⟩

/-- Reading the boost: the one place where what is raised is not caught. -/
theorem classifies_boostOf (value : Json) :
    Classifies isMalformed
      ((∃ boost, value = .float boost) ∨ ∃ boost, value = .int boost ∧ PyFloat.InRange boost)
      (∃ boost, value = .int boost ∧ ¬ PyFloat.InRange boost) (boostOf value) := by
  cases value with
  | int boost =>
    rw [boostOf, PyFloat.ofInt_eq]
    by_cases inRange : PyFloat.InRange boost
    · rw [if_pos inRange]
      refine (Classifies.ok _).congr ⟨fun _ => .inr ⟨boost, rfl, inRange⟩, fun _ => trivial⟩
        ⟨False.elim, ?_⟩
      rintro ⟨_, ⟨⟩, outOfRange⟩
      exact outOfRange inRange
    · rw [if_neg inRange]
      refine ⟨?_, fun _ => ⟨_, rfl, rfl⟩, fun _ harmless => absurd ⟨boost, rfl, inRange⟩ harmless⟩
      rintro (⟨_, ⟨⟩⟩ | ⟨_, ⟨⟩, within⟩)
      exact absurd within inRange
  | float boost =>
    refine (Classifies.ok _).congr ⟨fun _ => .inl ⟨boost, rfl⟩, fun _ => trivial⟩ ⟨False.elim, ?_⟩
    rintro ⟨_, ⟨⟩, _⟩
  | _ =>
    refine (Classifies.error rfl).congr ⟨False.elim, ?_⟩ ⟨False.elim, ?_⟩
    · rintro (⟨_, ⟨⟩⟩ | ⟨_, ⟨⟩, _⟩)
    · rintro ⟨_, ⟨⟩, _⟩

theorem tierOf_eq_ok_iff {codec : Codec} {value : Json} {tier : String} :
    tierOf codec value = .ok tier ↔ value = .str tier ∧ tier ∈ validTiers := by
  cases value with
  | str text =>
    rw [tierOf]
    by_cases valid : text ∈ validTiers
    · rw [if_pos valid]
      constructor
      · rintro ⟨⟩
        exact ⟨rfl, valid⟩
      · rintro ⟨⟨⟩, _⟩
        rfl
    · rw [if_neg valid]
      refine ⟨nofun, ?_⟩
      rintro ⟨⟨⟩, otherValid⟩
      exact absurd otherValid valid
  | _ => exact ⟨nofun, fun both => nomatch both.1⟩

/-- A tier that was read has a rank. -/
theorem classifies_rank {codec : Codec} {value : Json} {tier : String}
    (read : tierOf codec value = .ok tier) (gpuIndex : ℤ) (boost : PyFloat) :
    Classifies isMalformed True False
      (match tierRank.get? tier with
        | some rank => pure (some (gpuIndex, (⟨rank, boost, tier⟩ : Candidate)))
        | none => .error (.keyError tier)) := by
  obtain ⟨rank, known⟩ := tierRank_of_valid (tierOf_eq_ok_iff.mp read).2
  rw [known]
  exact .ok _

/-- Reading one assignment. -/
theorem classifies_candidateOf (codec : Codec) (nodeName : String) (assignment : Json) :
    Classifies isMalformed (ValidAssignment nodeName assignment)
      (OverflowingAssignment nodeName assignment) (candidateOf codec nodeName assignment) := by
  unfold candidateOf
  by_cases object : assignment.isObject = true
  case neg =>
    rw [Bool.not_eq_true] at object
    simp only [object, Bool.not_false, if_true]
    refine (Classifies.error rfl).congr ⟨False.elim, fun valid => ?_⟩ ⟨False.elim, fun bad => ?_⟩
    · exact absurd valid.1 (by rw [object]; exact Bool.false_ne_true)
    · exact absurd bad.1 (by rw [object]; exact Bool.false_ne_true)
  case pos =>
  rw [object, Bool.not_true, if_neg Bool.false_ne_true]
  by_cases own : isForNode nodeName assignment = true
  case neg =>
    rw [Bool.not_eq_true] at own
    have elsewhere : equalsStr ((assignment.get? "nodeName").getD .null) nodeName = false := own
    rw [elsewhere, Bool.not_false, if_pos rfl]
    refine (Classifies.ok none).congr ⟨fun _ => ⟨object, fun here => ?_⟩, fun _ => trivial⟩
      ⟨False.elim, fun bad => ?_⟩
    · exact absurd here (by rw [own]; exact Bool.false_ne_true)
    · exact absurd bad.2.1 (by rw [own]; exact Bool.false_ne_true)
  case pos =>
  have here : equalsStr ((assignment.get? "nodeName").getD .null) nodeName = true := own
  rw [here, Bool.not_true, if_neg Bool.false_ne_true]
  have steps := (classifies_gpuIndexOf ((assignment.get? "gpuIndex").getD .null)).bind
    fun gpuIndex _ => (classifies_tierOf codec ((assignment.get? "priorityClass").getD .null)).bind
      fun tier read => (classifies_boostOf ((assignment.get? "gpuBoostPct").getD .null)).bind
        fun boost _ => (classifies_rank read gpuIndex boost)
  refine steps.congr ?_ ?_
  · constructor
    · rintro ⟨gpuIndex, tier, boost, _⟩
      exact ⟨object, fun _ => ⟨⟨gpuIndex, tier⟩, boost⟩⟩
    · rintro ⟨_, valid⟩
      exact ⟨(valid own).1.gpuIndex, (valid own).1.tier, (valid own).2, trivial⟩
  · constructor
    · rintro (stop | ⟨gpuIndex, stop | ⟨tier, huge | ⟨_, stop⟩⟩⟩)
      · exact stop.elim
      · exact stop.elim
      · exact ⟨object, own, ⟨gpuIndex, tier⟩, huge⟩
      · exact stop.elim
    · rintro ⟨_, _, placed, huge⟩
      exact .inr ⟨placed.gpuIndex, .inr ⟨placed.tier, .inl huge⟩⟩

theorem overflowing_cons {nodeName : String} {assignment : Json} {rest : List Json} :
    Overflowing nodeName (assignment :: rest) ↔ OverflowingAssignment nodeName assignment ∨
      ValidAssignment nodeName assignment ∧ Overflowing nodeName rest := by
  constructor
  · rintro ⟨before, bad, after, split, valid, overflows⟩
    cases before with
    | nil =>
      cases split
      exact .inl overflows
    | cons first before =>
      cases split
      exact .inr ⟨valid _ (by simp), before, bad, after, rfl,
        fun other member => valid other (List.mem_cons_of_mem _ member), overflows⟩
  · rintro (overflows | ⟨valid, before, bad, after, rfl, restValid, overflows⟩)
    · exact ⟨[], assignment, rest, rfl, List.forall_mem_nil _, overflows⟩
    · refine ⟨assignment :: before, bad, after, rfl, fun other member => ?_, overflows⟩
      rcases List.mem_cons.mp member with rfl | inRest
      · exact valid
      · exact restValid other inRest

/-- Reading all assignments. -/
theorem classifies_candidates (codec : Codec) (nodeName : String) (assignments : List Json) :
    Classifies isMalformed (∀ assignment ∈ assignments, ValidAssignment nodeName assignment)
      (Overflowing nodeName assignments) (candidates codec nodeName assignments) := by
  induction assignments with
  | nil =>
    refine (Classifies.ok []).congr ⟨fun _ => List.forall_mem_nil _, fun _ => trivial⟩
      ⟨False.elim, ?_⟩
    rintro ⟨before, bad, after, split, _⟩
    exact List.append_ne_nil_of_right_ne_nil before (List.cons_ne_nil _ _) split.symm
  | cons assignment rest ih =>
    have steps := (classifies_candidateOf codec nodeName assignment).bind
      fun first _ => ih.bind fun others _ =>
        Classifies.ok (first.toList ++ others)
    refine steps.congr ?_ ?_
    · rw [and_true, List.forall_mem_cons]
    · rw [and_false, or_false, overflowing_cons]

/-- The candidates of a list are what its assignments offer. -/
theorem mem_candidates {codec : Codec} {nodeName : String} {assignments : List Json}
    {offers : List (ℤ × Candidate)} (read : candidates codec nodeName assignments = .ok offers)
    (offer : ℤ × Candidate) :
    offer ∈ offers ↔
      ∃ assignment ∈ assignments, candidateOf codec nodeName assignment = .ok (some offer) := by
  induction assignments generalizing offers with
  | nil =>
    cases read
    exact ⟨fun inside => absurd inside List.not_mem_nil, fun ⟨_, inside, _⟩ => nomatch inside⟩
  | cons assignment rest ih =>
    obtain ⟨first, own, read⟩ := ok_of_bind read
    obtain ⟨later, restRead, same⟩ := ok_of_bind read
    cases same
    rw [List.mem_append, ih restRead, List.exists_mem_cons_iff, own, Option.mem_toList]
    refine or_congr ⟨fun held => ?_, fun held => ?_⟩ Iff.rfl
    · rw [Option.mem_def.mp held]
    · exact Option.mem_def.mpr (Except.ok.inj held)

/-- Selecting raises what reading raises. -/
theorem classifies_selectAll (codec : Codec) (nodeName : String) (assignments : List Json) :
    Classifies isMalformed (∀ assignment ∈ assignments, ValidAssignment nodeName assignment)
      (Overflowing nodeName assignments) (selectAll codec nodeName assignments .empty) := by
  rw [selectAll_eq]
  have steps := (classifies_candidates codec nodeName assignments).bind fun offers _ =>
    Classifies.ok (offers.foldl select Dict.empty)
  have same : (candidates codec nodeName assignments >>= fun offers =>
      Except.ok (offers.foldl select Dict.empty)) =
      (candidates codec nodeName assignments).map fun offers => offers.foldl select .empty := by
    cases candidates codec nodeName assignments <;> rfl
  rw [← same]
  exact steps.congr (by rw [and_true]) (by rw [and_false, or_false])

/-- Reading the list of a document. -/
theorem classifies_listed (codec : Codec) (nodeName : String) (payload : Json) :
    Classifies isMalformed
      (∃ assignments, payload.get? "assignments" = some (.arr assignments) ∧
        ∀ assignment ∈ assignments, ValidAssignment nodeName assignment)
      (∃ assignments, payload.get? "assignments" = some (.arr assignments) ∧
        Overflowing nodeName assignments)
      (match payload.get? "assignments" with
        | some (.arr assignments) => do
          let selected ← selectAll codec nodeName assignments .empty
          pure (selected.mapVals fun _ candidate => candidate.tier)
        | _ => .error (.valueError "assignments must be a list")) := by
  split
  · next assignments listed =>
    have steps := (classifies_selectAll codec nodeName assignments).bind fun selected _ =>
      Classifies.ok (selected.mapVals fun _ candidate => candidate.tier)
    refine steps.congr ?_ ?_
    · rw [and_true, listed]
      constructor
      · exact fun valid => ⟨assignments, rfl, valid⟩
      · rintro ⟨_, ⟨⟩, valid⟩
        exact valid
    · rw [and_false, or_false, listed]
      constructor
      · exact fun overflows => ⟨assignments, rfl, overflows⟩
      · rintro ⟨_, ⟨⟩, overflows⟩
        exact overflows
  · next unlisted =>
    refine (Classifies.error rfl).congr ⟨False.elim, ?_⟩ ⟨False.elim, ?_⟩
    · rintro ⟨assignments, listed, _⟩
      exact unlisted assignments listed
    · rintro ⟨assignments, listed, _⟩
      exact unlisted assignments listed

/-- **Reading a payload**: it is accepted when it is valid, and raises what a poll does not catch
when it is fatal. -/
theorem classifies_parse (codec : Codec) (nodeName : String) (raw : Option String) :
    Classifies isMalformed (ValidPayload codec nodeName raw) (FatalPayload codec nodeName raw)
      (parse codec nodeName raw) := by
  cases raw with
  | none =>
    refine (Classifies.error rfl).congr ⟨False.elim, ?_⟩ ⟨False.elim, ?_⟩
    · rintro ⟨_, ⟨⟩, _⟩
    · rintro ⟨_, ⟨⟩, _⟩
  | some text =>
  have document : ∀ payload, codec.loads text = .ok payload → Classifies isMalformed
      (∃ assignments, Lists payload assignments ∧
        ∀ assignment ∈ assignments, ValidAssignment nodeName assignment)
      (∃ assignments, Lists payload assignments ∧ Overflowing nodeName assignments)
      (if !payload.isObject then .error (.valueError "payload must be an object")
        else if !equalsInt ((payload.get? "schemaVersion").getD .null) schemaVersion then
          .error (.valueError ("unsupported schemaVersion " ++
            codec.repr ((payload.get? "schemaVersion").getD .null)))
        else match payload.get? "assignments" with
          | some (.arr assignments) => do
            let selected ← selectAll codec nodeName assignments .empty
            pure (selected.mapVals fun _ candidate => candidate.tier)
          | _ => .error (.valueError "assignments must be a list")) := by
    intro payload _
    refine (Classifies.guard rfl fun object => Classifies.guard rfl fun schema =>
      classifies_listed codec nodeName payload).congr ?_ ?_
    · constructor
      · rintro ⟨object, schema, assignments, listed, valid⟩
        exact ⟨assignments, ⟨by simpa using object, by simpa using schema, listed⟩, valid⟩
      · rintro ⟨assignments, ⟨object, schema, listed⟩, valid⟩
        exact ⟨by simpa using object, by simpa using schema, assignments, listed, valid⟩
    · constructor
      · rintro ⟨object, schema, assignments, listed, overflows⟩
        exact ⟨assignments, ⟨by simpa using object, by simpa using schema, listed⟩, overflows⟩
      · rintro ⟨assignments, ⟨object, schema, listed⟩, overflows⟩
        exact ⟨by simpa using object, by simpa using schema, assignments, listed, overflows⟩
  refine (Classifies.bind_of document).congr ⟨fun valid => ⟨text, rfl, valid⟩, ?_⟩
    ⟨fun fatal => ⟨text, rfl, fatal⟩, ?_⟩
  · rintro ⟨_, ⟨⟩, valid⟩
    exact valid
  · rintro ⟨_, ⟨⟩, fatal⟩
    exact fatal

/-! ### Payloads that stop a poll -/

namespace PriorityConfigSource

/-- A poll that reads a ConfigMap survives it: it returns, and a payload that is not valid leaves the
snapshot and the remembered version as they were. -/
def Survives (codec : Codec) (source : PriorityConfigSource) (clientLoads : Bool)
    (configMap : PublishedConfigMap) : Prop :=
  ∃ next, source.poll codec { clientLoads := clientLoads, read := .ok configMap } = .ok next ∧
    (¬ ValidPayload codec source.nodeName (configMap.data.get? assignmentsKey) →
      next.snapshot = source.snapshot ∧ next.resourceVersion = source.resourceVersion)

/-- A poll whose client is set up. -/
theorem poll_eq_refresh {codec : Codec} {source : PriorityConfigSource} {input : PollInput}
    (loaded : (source.hasApi || input.clientLoads) = true) :
    source.poll codec input = { source with hasApi := true }.refresh codec input.read :=
  if_pos loaded

/-- A refresh whose payload is refused. -/
theorem refresh_of_parse_error {codec : Codec} {source : PriorityConfigSource}
    {configMap : PublishedConfigMap} {exc : PyError}
    (stale : source.isApplied configMap.resourceVersion = false)
    (refused : parse codec source.nodeName (configMap.data.get? assignmentsKey) = .error exc) :
    source.refresh codec (.ok configMap) =
      if isMalformed exc = true then .ok { source with reportedUnavailable := true }
      else .error exc := by
  unfold PriorityConfigSource.refresh
  simp only [stale, Bool.false_eq_true, if_false, refused]

/-- A refresh whose payload is accepted. -/
theorem refresh_of_parse {codec : Codec} {source : PriorityConfigSource}
    {configMap : PublishedConfigMap} {tiers : Dict ℤ String}
    (stale : source.isApplied configMap.resourceVersion = false)
    (parsed : parse codec source.nodeName (configMap.data.get? assignmentsKey) = .ok tiers) :
    source.refresh codec (.ok configMap) = .ok { source with
      snapshot := source.baseline.update tiers
      resourceVersion := configMap.resourceVersion
      reportedUnavailable := false } := by
  unfold PriorityConfigSource.refresh
  simp only [stale, Bool.false_eq_true, if_false, parsed]

/-- **A poll survives a ConfigMap exactly when** it does not get to read its payload (no client, or
the version is the one applied last), or the payload is not fatal. -/
theorem poll_survives_iff (codec : Codec) (source : PriorityConfigSource) (clientLoads : Bool)
    (configMap : PublishedConfigMap) :
    source.Survives codec clientLoads configMap ↔
      ((source.hasApi || clientLoads) = true →
        source.isApplied configMap.resourceVersion = false →
        ¬ FatalPayload codec source.nodeName (configMap.data.get? assignmentsKey)) := by
  have outcome := classifies_parse codec source.nodeName (configMap.data.get? assignmentsKey)
  by_cases loaded : (source.hasApi || clientLoads) = true
  case neg =>
    refine ⟨fun _ here => absurd here loaded, fun _ => ⟨_, if_neg loaded, fun _ => ⟨rfl, rfl⟩⟩⟩
  unfold Survives
  rw [poll_eq_refresh loaded]
  cases applied : source.isApplied configMap.resourceVersion with
  | true =>
    refine ⟨fun _ _ differs => ?_, fun _ => ⟨_, if_pos applied, fun _ => ⟨rfl, rfl⟩⟩⟩
    exact absurd differs (by decide)
  | false =>
    have stale : { source with hasApi := true }.isApplied configMap.resourceVersion = false := applied
    constructor
    · rintro ⟨next, polled, _⟩ _ _ fatal
      obtain ⟨exc, raised, uncaught⟩ := outcome.raised fatal
      rw [refresh_of_parse_error stale raised, uncaught] at polled
      cases polled
    · intro harmless
      by_cases valid : ValidPayload codec source.nodeName (configMap.data.get? assignmentsKey)
      · obtain ⟨tiers, parsed⟩ := outcome.accepted valid
        exact ⟨_, refresh_of_parse stale parsed, fun invalid => absurd valid invalid⟩
      · obtain ⟨exc, refused, caught⟩ := outcome.refused valid (harmless loaded rfl)
        refine ⟨{ source with hasApi := true, reportedUnavailable := true }, ?_, fun _ => ⟨rfl, rfl⟩⟩
        rw [refresh_of_parse_error stale refused, if_pos caught]

/-- The one document with a boost no double can hold. -/
theorem fatalPayload_boost {boost : ℕ} (tooLarge : ¬ PyFloat.InRange boost) (digits : String) :
    FatalPayload (boostCodec boost digits) "node-a" (some (boostText digits)) := by
  have loaded : (boostCodec boost digits).loads (boostText digits) = .ok (boostDocument boost) := by
    rw [loads_boostCodec, if_pos rfl]
  have schema : (boostDocument boost).get? "schemaVersion" = some (.int 1) :=
    Json.get?_object (by simp) (by simp)
  have listed : (boostDocument boost).get? "assignments" = some (.arr [boostAssignment boost]) :=
    Json.get?_object (by simp) (by simp)
  have field : ∀ key value, (key, value) ∈ [("nodeName", Json.str "node-a"), ("gpuIndex", .int 0),
      ("priorityClass", .str "high"), ("gpuBoostPct", .int boost)] →
      ((boostAssignment boost).get? key).getD .null = value := by
    intro key value member
    rw [boostAssignment, Json.get?_object (by simp) member, Option.getD_some]
  have placed : Placed (boostAssignment boost) :=
    ⟨⟨0, field _ _ (by simp), le_rfl⟩, "high", by decide, field _ _ (by simp)⟩
  have own : isForNode "node-a" (boostAssignment boost) = true := by
    rw [isForNode, field "nodeName" (.str "node-a") (by simp)]
    rfl
  have lists : Lists (boostDocument boost) [boostAssignment boost] := by
    refine ⟨rfl, ?_, listed⟩
    rw [schema]
    rfl
  exact ⟨boostText digits, rfl, .inr ⟨boostDocument boost, loaded, [boostAssignment boost], lists,
    [], boostAssignment boost, [], rfl, List.forall_mem_nil _, rfl, own, placed, boost,
    field _ _ (by simp), tooLarge⟩⟩

/-- A boost of `10 ^ 400`, which `json.loads` reads as an integer, makes the poll raise. -/
theorem poll_raises_huge_boost :
    ∃ exc, (new "node-a" .empty true).poll
        (boostCodec (10 ^ 400) ("1" ++ String.ofList (List.replicate 400 '0')))
        ⟨true, .ok (published "1" (boostText ("1" ++ String.ofList (List.replicate 400 '0'))))⟩ =
          .error exc ∧ isMalformed exc = false := by
  generalize "1" ++ String.ofList (List.replicate 400 '0') = digits
  have tooLarge : ¬ PyFloat.InRange (10 ^ 400 : ℕ) := by decide +kernel
  generalize 10 ^ 400 = boost at *
  have outcome := classifies_parse (boostCodec boost digits) "node-a"
    ((published "1" (boostText digits)).data.get? assignmentsKey)
  have fatal := fatalPayload_boost tooLarge digits
  rw [← get?_published "1" (boostText digits)] at fatal
  obtain ⟨exc, raised, uncaught⟩ := outcome.raised fatal
  refine ⟨exc, ?_, uncaught⟩
  rw [poll_eq_refresh rfl, refresh_of_parse_error rfl raised, if_neg]
  rw [uncaught]
  exact Bool.false_ne_true

end PriorityConfigSource

end Opendps.Controller
