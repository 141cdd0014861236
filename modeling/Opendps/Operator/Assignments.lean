/-
**From Pods to assignments.**

`podGpuIndices` reads the GPU indices a node-side allocator wrote on a Pod, `resolvedAssignments`
turns the Pods a policy matches into the assignments it publishes, and `registryEntry` is the entry
the policy keeps in the boost registry.
-/

import Opendps.Operator.Api
import Mathlib.Data.Prod.Lex

namespace Opendps.Operator

open Opendps.Lib

def gpuIndicesAnnotation : String := "opendps.io/gpu-indices"

def boostSchemaVersion : ℤ := 1

/-- The indices of a list of tokens: all of them, or none when one is not a decimal. -/
def gpuTokens : List (List Char) → Except PyError (Option (List ℕ))
  | [] => .ok (some [])
  | item :: rest =>
    let token := strip item
    if token.isEmpty || !token.all isAsciiDigit then .ok none
    else do
      let index ← pyInt token
      let indices ← gpuTokens rest
      pure (indices.map (index :: ·))

/-- The explicitly assigned GPU indices of a Pod, or none when they are not advertised or not well
formed. -/
def podGpuIndices (pod : Pod) : Except PyError (Option (List ℕ)) :=
  match pod.annotations.get? gpuIndicesAnnotation with
  | none => .ok none
  | some raw =>
    if (strip raw.toList).isEmpty then .ok none
    else do
      match ← gpuTokens (raw.toList.splitOn ',') with
      | none => pure none
      | some indices => pure (if indices.Nodup then some (sortedBy id indices) else none)

/-- One GPU of one Pod, with what its policy says about it. -/
structure Assignment where
  gpuBoostPct : PyFloat
  gpuIndex : ℕ
  nodeName : String
  podUid : String
  policyGeneration : ℤ
  policyUid : String
  priorityClass : String
  deriving DecidableEq

def Assignment.toJson (assignment : Assignment) : Json :=
  .object [("gpuBoostPct", .float assignment.gpuBoostPct), ("gpuIndex", .int assignment.gpuIndex),
    ("nodeName", .str assignment.nodeName), ("podUid", .str assignment.podUid),
    ("policyGeneration", .int assignment.policyGeneration),
    ("policyUid", .str assignment.policyUid), ("priorityClass", .str assignment.priorityClass)]

/-- The order assignments are published in. -/
def Assignment.key (assignment : Assignment) : String ×ₗ ℤ ×ₗ String ×ₗ String :=
  toLex (assignment.nodeName, toLex ((assignment.gpuIndex : ℤ),
    toLex (assignment.podUid, assignment.policyUid)))

/-- The assignment of one GPU of one Pod under a policy. -/
def assignmentOf (policy : JobPowerPolicy) (podUid nodeName : String) (gpuIndex : ℕ) :
    Assignment where
  gpuBoostPct := policy.spec.gpuBoostPct
  gpuIndex := gpuIndex
  nodeName := nodeName
  podUid := podUid
  policyGeneration := policy.generation
  policyUid := policy.uid
  priorityClass := policy.spec.priorityClass

/-- The assignments of one Pod under a policy. A Pod without a UID, a node or well-formed indices
has none. -/
def podAssignments (policy : JobPowerPolicy) (pod : Pod) : Except PyError (List Assignment) :=
  match pod.uid, pod.nodeName with
  | some podUid, some nodeName =>
    if podUid = "" ∨ nodeName = "" then .ok []
    else do
      let gpuIndices ← podGpuIndices pod
      pure ((gpuIndices.getD []).map (assignmentOf policy podUid nodeName))
  | _, _ => .ok []

/-- The assignments of a policy over the Pods it matches. -/
def resolvedAssignments (policy : JobPowerPolicy) (pods : List Pod) :
    Except PyError (List Assignment) := do
  let assignments ← pods.mapM (podAssignments policy)
  pure (sortedBy Assignment.key assignments.flatten)

/-- The entry of a policy in the boost registry. -/
def registryEntry (policy : JobPowerPolicy) (matched : ℕ) (assignments : List Assignment) : Json :=
  .object [("matchLabels", .object (policy.spec.matchLabels.items.map fun item =>
      (item.1, .str item.2))),
    ("gpu_boost_pct", .float policy.spec.gpuBoostPct), ("priority", .str policy.spec.priorityClass),
    ("matched_pods", .int matched), ("assignments", .arr (assignments.map Assignment.toJson)),
    ("schemaVersion", .int boostSchemaVersion)]

/-! ### Reading an annotation -/

/-- An annotation whose decimal tokens are short enough for `int()`. -/
def ReadableIndices (pod : Pod) : Prop :=
  ∀ raw, pod.annotations.get? gpuIndicesAnnotation = some raw →
    ∀ item ∈ raw.toList.splitOn ',', (strip item).all isAsciiDigit = true →
      (strip item).length ≤ 4300

theorem gpuTokens_ok {tokens : List (List Char)}
    (short : ∀ item ∈ tokens, (strip item).all isAsciiDigit = true → (strip item).length ≤ 4300) :
    ∃ indices, gpuTokens tokens = .ok indices := by
  induction tokens with
  | nil => exact ⟨_, rfl⟩
  | cons item rest ih =>
    obtain ⟨others, parsed⟩ := ih fun other listed => short other (List.mem_cons_of_mem _ listed)
    by_cases decimal : (strip item).all isAsciiDigit = true
    · have fits : ¬ 4300 < (strip item).length :=
        Nat.not_lt.mpr (short item List.mem_cons_self decimal)
      simp only [gpuTokens, pyInt, fits, if_false, parsed, bind, Except.bind, pure, Except.pure]
      split <;> exact ⟨_, rfl⟩
    · simp only [gpuTokens, Bool.eq_false_iff.mpr decimal, Bool.not_false, Bool.or_true, if_true]
      exact ⟨_, rfl⟩

theorem podGpuIndices_ok {pod : Pod} (readable : ReadableIndices pod) :
    ∃ indices, podGpuIndices pod = .ok indices := by
  unfold podGpuIndices
  cases found : pod.annotations.get? gpuIndicesAnnotation with
  | none => exact ⟨_, rfl⟩
  | some raw =>
    obtain ⟨indices, parsed⟩ := gpuTokens_ok (readable raw found)
    simp only [parsed, bind, Except.bind]
    split
    · exact ⟨_, rfl⟩
    · cases indices <;> exact ⟨_, rfl⟩

/-! ### What a policy assigns -/

/-- A Pod puts a GPU of a node to a policy's use. -/
structure Occupies (pod : Pod) (podUid nodeName : String) (gpuIndex : ℕ) : Prop where
  uid : pod.uid = some podUid
  identified : podUid ≠ ""
  scheduled : pod.nodeName = some nodeName
  placed : nodeName ≠ ""
  listed : ∃ indices, podGpuIndices pod = .ok (some indices) ∧ gpuIndex ∈ indices

/-- The assignments of a Pod are those of the GPUs it occupies. -/
theorem mem_podAssignments {policy : JobPowerPolicy} {pod : Pod} {assignments : List Assignment}
    (resolved : podAssignments policy pod = .ok assignments) {assignment : Assignment} :
    assignment ∈ assignments ↔ ∃ podUid nodeName gpuIndex, Occupies pod podUid nodeName gpuIndex ∧
      assignment = assignmentOf policy podUid nodeName gpuIndex := by
  constructor
  · intro member
    unfold podAssignments at resolved
    split at resolved
    · next podUid nodeName uid node =>
      split at resolved
      · cases resolved
        cases member
      · next named =>
        push Not at named
        cases indices : podGpuIndices pod with
        | error exc =>
          rw [indices] at resolved
          cases resolved
        | ok gpuIndices =>
          rw [indices] at resolved
          cases resolved
          obtain ⟨gpuIndex, listed, rfl⟩ := List.mem_map.mp member
          cases gpuIndices with
          | none => cases listed
          | some gpuIndices =>
            exact ⟨podUid, nodeName, gpuIndex, ⟨uid, named.1, node, named.2, gpuIndices, indices,
              listed⟩, rfl⟩
    · cases resolved
      cases member
  · rintro ⟨podUid, nodeName, gpuIndex, ⟨uid, identified, node, placed, indices, parsed, listed⟩,
      rfl⟩
    have named : ¬ (podUid = "" ∨ nodeName = "") := not_or.mpr ⟨identified, placed⟩
    simp only [podAssignments, uid, node, named, if_false, parsed, bind, Except.bind, pure,
      Except.pure, Except.ok.injEq] at resolved
    rw [← resolved]
    exact List.mem_map_of_mem listed

theorem podAssignments_ok (policy : JobPowerPolicy) {pod : Pod} (readable : ReadableIndices pod) :
    ∃ assignments, podAssignments policy pod = .ok assignments := by
  obtain ⟨indices, parsed⟩ := podGpuIndices_ok readable
  unfold podAssignments
  split
  · split
    · exact ⟨_, rfl⟩
    · rw [parsed]
      exact ⟨_, rfl⟩
  · exact ⟨_, rfl⟩

/-- The assignments of some Pods are those of each of them. -/
theorem mapM_podAssignments_ok (policy : JobPowerPolicy) {pods : List Pod}
    (readable : ∀ pod ∈ pods, ReadableIndices pod) :
    ∃ assignments, pods.mapM (podAssignments policy) = .ok assignments ∧
      ∀ assignment, assignment ∈ assignments.flatten ↔ ∃ pod ∈ pods, ∃ podUid nodeName gpuIndex,
        Occupies pod podUid nodeName gpuIndex ∧
          assignment = assignmentOf policy podUid nodeName gpuIndex := by
  induction pods with
  | nil => exact ⟨[], rfl, fun assignment => by simp⟩
  | cons pod rest ih =>
    obtain ⟨first, parsed⟩ := podAssignments_ok policy (readable pod List.mem_cons_self)
    obtain ⟨others, mapped, members⟩ := ih fun other listed =>
      readable other (List.mem_cons_of_mem _ listed)
    refine ⟨first :: others, ?_, fun assignment => ?_⟩
    · rw [List.mapM_cons, parsed, mapped]
      rfl
    · rw [List.flatten_cons, List.mem_append, mem_podAssignments parsed, members,
        List.exists_mem_cons_iff]

/-- **What a policy assigns**: the GPUs its Pods occupy, when their annotations can be read. -/
theorem resolvedAssignments_ok (policy : JobPowerPolicy) {pods : List Pod}
    (readable : ∀ pod ∈ pods, ReadableIndices pod) :
    ∃ assignments, resolvedAssignments policy pods = .ok assignments ∧
      ∀ assignment, assignment ∈ assignments ↔ ∃ pod ∈ pods, ∃ podUid nodeName gpuIndex,
        Occupies pod podUid nodeName gpuIndex ∧
          assignment = assignmentOf policy podUid nodeName gpuIndex := by
  obtain ⟨assignments, mapped, members⟩ := mapM_podAssignments_ok policy readable
  refine ⟨sortedBy Assignment.key assignments.flatten, ?_, fun assignment => ?_⟩
  · rw [resolvedAssignments, mapped]
    rfl
  · rw [mem_sortedBy, members]

end Opendps.Operator
