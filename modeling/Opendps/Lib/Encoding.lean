/-
**Dictionaries under encoded keys.**

A dictionary keyed by `κ` is often kept as one keyed by codes: every key is replaced by `encode key`
when it is written and when it is looked up. Both are filled by the same writes, in the same order.

What is found under a code was last written under some key of that code (`exists_of_get?_encoded`). So
the two answer a key alike when all keys of its code are answered alike (`get?_encoded_of_alike`): for a
key that shares its code with no other that is always so, for the rest it depends on what was written.
-/

import Opendps.Lib.Dict
import Mathlib.Data.List.Induction

namespace Opendps.Lib.Dict

variable {κ μ ν : Type*} [DecidableEq μ]

theorem ofList_append_singleton (items : List (μ × ν)) (item : μ × ν) :
    ofList (items ++ [item]) = (ofList items).set item.1 item.2 := by
  rw [ofList, setAll, List.foldl_append]
  rfl

/-- The same writes under encoded keys. -/
def encoded (encode : κ → μ) (items : List (κ × ν)) : Dict μ ν :=
  ofList (items.map fun item => (encode item.1, item.2))

theorem encoded_append_singleton (encode : κ → μ) (items : List (κ × ν)) (item : κ × ν) :
    encoded encode (items ++ [item]) = (encoded encode items).set (encode item.1) item.2 := by
  rw [encoded, List.map_append, List.map_singleton, ofList_append_singleton]
  rfl

theorem mem_keys_encoded {encode : κ → μ} {items : List (κ × ν)} {code : μ} :
    code ∈ (encoded encode items).keys ↔ ∃ key ∈ items.map Prod.fst, encode key = code := by
  rw [encoded, mem_keys_ofList, List.map_map]
  simp only [List.mem_map, Function.comp_apply, exists_exists_and_eq_and]

variable [DecidableEq κ]

/-- What is found under a code was last written under some key of that code. -/
theorem exists_of_get?_encoded {encode : κ → μ} {items : List (κ × ν)} {code : μ} {value : ν}
    (found : (encoded encode items).get? code = some value) :
    ∃ key, encode key = code ∧ (ofList items).get? key = some value := by
  induction items using List.reverseRecOn with
  | nil => cases found
  | append_singleton items item ih =>
    rw [encoded_append_singleton, get?_set] at found
    by_cases same : code = encode item.1
    · rw [if_pos same] at found
      refine ⟨item.1, same.symm, ?_⟩
      rw [ofList_append_singleton, get?_set_self]
      exact found
    · rw [if_neg same] at found
      obtain ⟨key, sameCode, stored⟩ := ih found
      refine ⟨key, sameCode, ?_⟩
      have other : key ≠ item.1 := fun equal => same (by rw [← sameCode, equal])
      rw [ofList_append_singleton, get?_set_of_ne _ _ other]
      exact stored

/-- **Agreement under encoded keys.** A key is answered under its code as it is itself when all keys
of that code are answered alike. -/
theorem get?_encoded_of_alike {encode : κ → μ} {items : List (κ × ν)} {key : κ}
    (alike : ∀ other, encode other = encode key →
      (ofList items).get? other = (ofList items).get? key) :
    (encoded encode items).get? (encode key) = (ofList items).get? key := by
  cases found : (encoded encode items).get? (encode key) with
  | none =>
    rw [get?_eq_none_iff, mem_keys_encoded] at found
    refine (get?_eq_none_iff.mpr fun written => ?_).symm
    rw [mem_keys_ofList] at written
    exact found ⟨key, written, rfl⟩
  | some value =>
    obtain ⟨other, sameCode, stored⟩ := exists_of_get?_encoded found
    rw [← alike other sameCode, stored]

end Opendps.Lib.Dict
