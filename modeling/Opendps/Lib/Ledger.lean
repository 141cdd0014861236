/-
**Ledgers: dictionaries of amounts that entries are posted to.**

A ledger is a dictionary of amounts; a missing key stands for zero. `post` adds an amount to one key,
`postAll` a list of entries one after the other, and `total test` is the sum over the keys that pass a
test. Posting adds the amount to exactly the totals whose test the key passes (`total_post`,
`total_postAll`), so lookups, which are totals over one key (`total_key`), and the sum of all values
are accounted for by one lemma. With amounts that are not negative, what different keys hold is at
most what all hold (`sum_getD_le`).
-/

import Opendps.Lib.Dict
import Mathlib.Algebra.BigOperators.Group.List.Basic
import Mathlib.Algebra.Order.BigOperators.Group.List

set_option linter.unusedSectionVars false

namespace Opendps.Lib.Ledger

variable {κ K : Type*} [DecidableEq κ] [AddCommMonoid K]

/-- Add an amount to a key. -/
def post (ledger : Dict κ K) (key : κ) (amount : K) : Dict κ K :=
  ledger.set key (ledger.getD key 0 + amount)

/-- Post a list of entries. -/
def postAll (entries : List (κ × K)) (ledger : Dict κ K) : Dict κ K :=
  entries.foldl (fun ledger entry => post ledger entry.1 entry.2) ledger

/-- The amounts under the keys that pass a test. -/
def total (test : κ → Bool) (ledger : Dict κ K) : K :=
  ((ledger.items.filter fun item => test item.1).map Prod.snd).sum

variable {ledger : Dict κ K} {key : κ} {test : κ → Bool}

theorem total_empty : total test (Dict.empty : Dict κ K) = 0 := rfl

/-- Taking a key out of a ledger takes its amount out of the totals that count it. -/
theorem total_eq_add_pop (test : κ → Bool) (ledger : Dict κ K) (key : κ) :
    total test ledger = (if test key then ledger.getD key 0 else 0) + total test (ledger.pop key) := by
  cases found : ledger.get? key with
  | none =>
    have same : (ledger.pop key).items.Perm ledger.items := Dict.perm_of_get?_eq fun other => by
      rw [Dict.get?_pop]
      by_cases here : other = key
      · rw [if_pos here, here, found]
      · rw [if_neg here]
    have rest : total test (ledger.pop key) = total test ledger :=
      ((same.filter _).map Prod.snd).sum_eq
    rw [rest, Dict.getD_of_none found, ite_self, zero_add]
  | some amount =>
    have split := ((Dict.items_perm_cons_pop found).filter fun item => test item.1).map Prod.snd
    rw [total, split.sum_eq, Dict.getD_of_some found, total, List.filter_cons]
    cases test key <;> simp

theorem total_post (test : κ → Bool) (ledger : Dict κ K) (key : κ) (amount : K) :
    total test (post ledger key amount) =
      total test ledger + if test key then amount else 0 := by
  have rest : total test ((post ledger key amount).pop key) = total test (ledger.pop key) := by
    have same : ((post ledger key amount).pop key).items.Perm (ledger.pop key).items :=
      Dict.perm_of_get?_eq fun other => by
        by_cases here : other = key <;> simp [post, here]
    exact ((same.filter _).map Prod.snd).sum_eq
  have stored : (post ledger key amount).getD key 0 = ledger.getD key 0 + amount := by
    rw [post, Dict.getD_set_self]
  rw [total_eq_add_pop test (post ledger key amount) key, total_eq_add_pop test ledger key, rest,
    stored]
  cases test key
  · simp
  · simp only [if_true]
    exact add_right_comm _ _ _

theorem total_postAll (test : κ → Bool) (entries : List (κ × K)) (ledger : Dict κ K) :
    total test (postAll entries ledger) =
      total test ledger + ((entries.filter fun entry => test entry.1).map Prod.snd).sum := by
  induction entries generalizing ledger with
  | nil => simp [postAll]
  | cons entry rest ih =>
    have first : postAll (entry :: rest) ledger = postAll rest (post ledger entry.1 entry.2) := rfl
    rw [first, ih, total_post, add_assoc, List.filter_cons]
    cases test entry.1 <;> simp

/-- A lookup is the total over one key. -/
theorem total_key (ledger : Dict κ K) (key : κ) :
    total (fun other => decide (other = key)) ledger = ledger.getD key 0 := by
  have none : total (fun other => decide (other = key)) (ledger.pop key) = 0 := by
    have empty : (ledger.pop key).items.filter (fun item => decide (item.1 = key)) = [] := by
      refine List.filter_eq_nil_iff.mpr fun item inside same => ?_
      have found : (ledger.pop key).get? item.1 = some item.2 := Dict.get?_eq_some_iff.mpr inside
      rw [Dict.get?_pop, if_pos (of_decide_eq_true same)] at found
      cases found
    rw [total, empty]
    rfl
  rw [total_eq_add_pop, none, add_zero, if_pos (decide_eq_true rfl)]

/-- What a key holds after posting the items of another ledger. -/
theorem getD_postAll_items (entries ledger : Dict κ K) (key : κ) :
    (postAll entries.items ledger).getD key 0 = ledger.getD key 0 + entries.getD key 0 := by
  rw [← total_key, total_postAll, total_key, ← total_key entries]
  rfl

/-! ### Amounts that are not negative -/

section Ordered

variable [LinearOrder K] [IsOrderedAddMonoid K]

theorem getD_nonneg (nonneg : ∀ value ∈ ledger.values, 0 ≤ value) (key : κ) :
    0 ≤ ledger.getD key 0 :=
  Dict.getD_induction le_rfl fun value found =>
    nonneg value (List.mem_map.mpr ⟨_, Dict.get?_eq_some_iff.mp found, rfl⟩)

/-- Different keys hold at most what the whole ledger holds. -/
theorem sum_getD_le (nonneg : ∀ value ∈ ledger.values, 0 ≤ value) {keys : List κ}
    (nodup : keys.Nodup) : (keys.map fun key => ledger.getD key 0).sum ≤ ledger.values.sum := by
  -- missing keys hold nothing, the others are among those of the ledger
  have present : (keys.map fun key => ledger.getD key 0).sum =
      ((keys.filter fun key => decide (key ∈ ledger.keys)).map fun key => ledger.getD key 0).sum := by
    induction keys with
    | nil => rfl
    | cons key rest ih =>
      rw [List.map_cons, List.sum_cons, ih (List.nodup_cons.mp nodup).2, List.filter_cons]
      by_cases inside : key ∈ ledger.keys
      · simp [inside]
      · simp [inside, Dict.getD, Dict.get?_eq_none_iff.mpr inside]
  have inside : (keys.filter fun key => decide (key ∈ ledger.keys)) ⊆ ledger.keys :=
    fun key listed => of_decide_eq_true (List.mem_filter.mp listed).2
  obtain ⟨part, perm, sublist⟩ := List.subperm_of_subset (nodup.filter _) inside
  calc (keys.map fun key => ledger.getD key 0).sum
      = (part.map fun key => ledger.getD key 0).sum := by
        rw [present]
        exact ((perm.map _).sum_eq).symm
    _ ≤ (ledger.keys.map fun key => ledger.getD key 0).sum := by
        refine (sublist.map _).sum_le_sum fun value listed => ?_
        obtain ⟨key, _, rfl⟩ := List.mem_map.mp listed
        exact getD_nonneg nonneg key
    _ = ledger.values.sum := by rw [← Dict.values_eq_map_getD]

theorem nonneg_post (nonneg : ∀ value ∈ ledger.values, 0 ≤ value) (key : κ) {amount : K}
    (amountNonneg : 0 ≤ amount) : ∀ value ∈ (post ledger key amount).values, 0 ≤ value := by
  intro value listed
  rw [post, (Dict.values_set_perm_cons_pop ledger key _).mem_iff, List.mem_cons] at listed
  rcases listed with rfl | inside
  · exact add_nonneg (getD_nonneg nonneg key) amountNonneg
  · obtain ⟨item, popped, rfl⟩ := List.mem_map.mp inside
    exact nonneg item.2 (List.mem_map_of_mem (List.mem_of_mem_filter popped))

theorem nonneg_postAll {entries : List (κ × K)} (nonneg : ∀ value ∈ ledger.values, 0 ≤ value)
    (amounts : ∀ entry ∈ entries, 0 ≤ entry.2) :
    ∀ value ∈ (postAll entries ledger).values, 0 ≤ value := by
  induction entries generalizing ledger with
  | nil => exact nonneg
  | cons entry rest ih =>
    exact ih (nonneg_post nonneg entry.1 (amounts entry List.mem_cons_self))
      fun other inside => amounts other (List.mem_cons_of_mem entry inside)

end Ordered

end Opendps.Lib.Ledger
