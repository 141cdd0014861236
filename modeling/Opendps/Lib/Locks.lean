/-
**Sections behind two locks.**

A party takes an outer lock and then an inner one, works for some steps on what the two protect, and
gives them back in the reverse order (`TwoLocks.advance`). A lock that is held blocks. A party that
panics poisons the locks it holds, and to take a poisoned lock is to panic.

`Sound` says that the locks are held by those who are in a section, and that nobody has panicked. Any
number of parties keeps it (`Sound.advance`), at most one of them is in a section (`Sound.unique`), and
that one is never blocked: each of its steps brings it closer to the end (`Sound.remaining_advance`).
-/

import Mathlib.Logic.Function.Basic
import Mathlib.Data.Nat.Notation

namespace Opendps.Lib

/-- A lock and what it protects. -/
structure Lock (ι α : Type) where
  value : α
  holder : Option ι := none
  poisoned : Bool := false

/-- What a panic does to a lock that is held. -/
def Lock.poison {ι α : Type} (lock : Lock ι α) : Lock ι α :=
  { lock with holder := none, poisoned := true }

structure TwoLocks (ι α β : Type) where
  outer : Lock ι α
  inner : Lock ι β

/-- Where a party is: out of its section, before the outer lock, between the two, after some steps of its
work, with the inner lock given back, or panicked. -/
inductive Section where
  | done
  | wants
  | locking
  | inside (count : ℕ)
  | unlocking
  | dead
  deriving DecidableEq

namespace Section

def holdsOuter : Section → Bool
  | locking | inside _ | unlocking => true
  | _ => false

def holdsInner : Section → Bool
  | inside _ => true
  | _ => false

/-- The steps that are left in a section of `n` steps of work. -/
def remaining (n : ℕ) : Section → ℕ
  | locking => n + 3
  | inside count => n - count + 2
  | unlocking => 1
  | _ => 0

theorem holdsInner_of_outer {place : Section} (out : place.holdsOuter = false) :
    place.holdsInner = false := by
  cases place with
  | inside count => cases out
  | _ => rfl

theorem holdsOuter_of_inner {place : Section} (inside : place.holdsInner = true) :
    place.holdsOuter = true := by
  cases place with
  | inside count => rfl
  | _ => cases inside

theorem remaining_pos_iff {n : ℕ} {place : Section} :
    0 < place.remaining n ↔ place.holdsOuter = true := by
  cases place with
  | locking => exact iff_of_true (Nat.succ_pos _) rfl
  | inside count => exact iff_of_true (Nat.succ_pos _) rfl
  | unlocking => exact iff_of_true Nat.one_pos rfl
  | _ => exact iff_of_false (Nat.lt_irrefl 0) Bool.false_ne_true

theorem remaining_le (n : ℕ) (place : Section) : place.remaining n ≤ n + 3 := by
  cases place with
  | inside count =>
    show n - count + 2 ≤ n + 3
    omega
  | locking => exact Nat.le_refl _
  | unlocking => exact Nat.le_add_left 1 (n + 2)
  | _ => exact Nat.zero_le _

end Section

namespace TwoLocks

variable {ι α β γ : Type}

/-- One step of a party with something of its own. Its work, one step of it at a time, may panic. -/
def advance (party : ι) (n : ℕ) (work : ℕ → α → β → γ → Option (α × β × γ))
    (locks : TwoLocks ι α β) (own : γ) : Section → Section × TwoLocks ι α β × γ
  | .done => (.done, locks, own)
  | .wants =>
    if locks.outer.holder.isSome then (.wants, locks, own)
    else if locks.outer.poisoned then (.dead, locks, own)
    else (.locking, { locks with outer := { locks.outer with holder := some party } }, own)
  | .locking =>
    if locks.inner.holder.isSome then (.locking, locks, own)
    else if locks.inner.poisoned then (.dead, { locks with outer := locks.outer.poison }, own)
    else (.inside 0, { locks with inner := { locks.inner with holder := some party } }, own)
  | .inside count =>
    if count < n then
      match work count locks.outer.value locks.inner.value own with
      | none => (.dead, ⟨locks.outer.poison, locks.inner.poison⟩, own)
      | some (outer, inner, own) =>
        (.inside (count + 1),
          ⟨{ locks.outer with value := outer }, { locks.inner with value := inner }⟩, own)
    else (.unlocking, { locks with inner := { locks.inner with holder := none } }, own)
  | .unlocking => (.done, { locks with outer := { locks.outer with holder := none } }, own)
  | .dead => (.dead, locks, own)

/-- The locks are held by those who are in a section, and nobody has panicked. -/
structure Sound (locks : TwoLocks ι α β) (places : ι → Section) : Prop where
  outer : ∀ i, locks.outer.holder = some i ↔ (places i).holdsOuter = true
  inner : ∀ i, locks.inner.holder = some i ↔ (places i).holdsInner = true
  outerFine : locks.outer.poisoned = false
  innerFine : locks.inner.poisoned = false
  alive : ∀ i, places i ≠ .dead

variable {locks : TwoLocks ι α β} {places : ι → Section} {n : ℕ}
  {work : ℕ → α → β → γ → Option (α × β × γ)} {own : γ} {party : ι}

/-- **At most one party is in a section.** -/
theorem Sound.unique (sound : locks.Sound places) {i j : ι} (first : (places i).holdsOuter = true)
    (second : (places j).holdsOuter = true) : i = j := by
  have held := (sound.outer i).mpr first
  rw [(sound.outer j).mpr second] at held
  exact (Option.some.inj held).symm

/-- The inner lock is free for whoever has the outer one. -/
theorem Sound.inner_free (sound : locks.Sound places) {i : ι} (here : places i = .locking) :
    locks.inner.holder = none := by
  cases held : locks.inner.holder with
  | none => rfl
  | some j =>
    have inside := (sound.inner j).mp held
    have same : i = j := sound.unique (by rw [here]; rfl) (Section.holdsOuter_of_inner inside)
    rw [← same, here] at inside
    cases inside

/-! ### What a step does -/

section Steps

theorem advance_wants_free (free : locks.outer.holder = none) (fine : locks.outer.poisoned = false) :
    locks.advance party n work own .wants =
      (.locking, { locks with outer := { locks.outer with holder := some party } }, own) := by
  simp only [advance, free, fine, Option.isSome_none, Bool.false_eq_true, if_false]

theorem advance_wants_held {holder : ι} (held : locks.outer.holder = some holder) :
    locks.advance party n work own .wants = (.wants, locks, own) := by
  simp only [advance, held, Option.isSome_some, if_true]

theorem advance_locking (free : locks.inner.holder = none) (fine : locks.inner.poisoned = false) :
    locks.advance party n work own .locking =
      (.inside 0, { locks with inner := { locks.inner with holder := some party } }, own) := by
  simp only [advance, free, fine, Option.isSome_none, Bool.false_eq_true, if_false]

theorem advance_inside {count : ℕ} {outer : α} {inner : β} {next : γ} (more : count < n)
    (worked : work count locks.outer.value locks.inner.value own = some (outer, inner, next)) :
    locks.advance party n work own (.inside count) = (.inside (count + 1),
      ⟨{ locks.outer with value := outer }, { locks.inner with value := inner }⟩, next) := by
  simp only [advance, more, worked, if_true]

theorem advance_inside_end {count : ℕ} (ended : ¬ count < n) :
    locks.advance party n work own (.inside count) =
      (.unlocking, { locks with inner := { locks.inner with holder := none } }, own) := by
  simp only [advance, ended, if_false]

end Steps

/-- What a party does with one of the locks: it takes a free one, gives its own back, or neither. -/
inductive Move (party : ι) (held : Bool) : Option ι → Option ι → Prop where
  | takes (now : held = true) : Move party held none (some party)
  | gives (now : held = false) : Move party held (some party) none
  | keeps {holder : Option ι} (same : holder = some party ↔ held = true) : Move party held holder holder

/-- Whoever holds a lock is still the one who is where it is held. -/
theorem Move.holder_iff [DecidableEq ι] {holds : Section → Bool} {next : Section}
    {before after : Option ι} (holders : ∀ i, before = some i ↔ holds (places i) = true)
    (move : Move party (holds next) before after) (i : ι) :
    after = some i ↔ holds (Function.update places party next i) = true := by
  have other := holders i
  by_cases same : i = party
  · rw [same, Function.update_self]
    cases move with
    | takes now => exact iff_of_true rfl now
    | gives now => exact iff_of_false (fun held => (by cases held)) (by rw [now]; exact Bool.false_ne_true)
    | keeps same => exact same
  · rw [Function.update_of_ne same]
    cases move with
    | takes now =>
      refine (iff_of_false (fun held => same (Option.some.inj held).symm) fun held => ?_)
      cases other.mpr held
    | gives now =>
      refine (iff_of_false (fun held => (by cases held)) fun held => ?_)
      exact same (Option.some.inj (other.mpr held)).symm
    | keeps _ => exact other

/-- A step that poisons no lock, and moves both as its party does. -/
theorem Sound.moved [DecidableEq ι] (sound : locks.Sound places) {later : TwoLocks ι α β}
    {next : Section} (outer : Move party next.holdsOuter locks.outer.holder later.outer.holder)
    (inner : Move party next.holdsInner locks.inner.holder later.inner.holder)
    (outerFine : later.outer.poisoned = locks.outer.poisoned)
    (innerFine : later.inner.poisoned = locks.inner.poisoned) (alive : next ≠ .dead) :
    later.Sound (Function.update places party next) where
  outer := outer.holder_iff sound.outer
  inner := inner.holder_iff sound.inner
  outerFine := outerFine.trans sound.outerFine
  innerFine := innerFine.trans sound.innerFine
  alive i := by
    by_cases same : i = party
    · rw [same, Function.update_self]
      exact alive
    · rw [Function.update_of_ne same]
      exact sound.alive i

/-- **A step of any party keeps the locks sound**, where its work does not panic. -/
theorem Sound.advance [DecidableEq ι] (sound : locks.Sound places)
    (works : ∀ count, places party = .inside count → count < n →
      (work count locks.outer.value locks.inner.value own).isSome) :
    (locks.advance party n work own (places party)).2.1.Sound
      (Function.update places party (locks.advance party n work own (places party)).1) := by
  have outer := sound.outer party
  have inner := sound.inner party
  cases here : places party with
  | done => rwa [TwoLocks.advance, ← here, Function.update_eq_self]
  | dead => exact absurd here (sound.alive party)
  | wants =>
    rw [here] at inner
    cases held : locks.outer.holder with
    | none =>
      rw [advance_wants_free held sound.outerFine]
      exact sound.moved (held ▸ .takes rfl) (.keeps inner) rfl rfl Section.noConfusion
    | some other =>
      rw [advance_wants_held held]
      rwa [← here, Function.update_eq_self]
  | locking =>
    rw [here] at outer
    have free := sound.inner_free here
    rw [advance_locking free sound.innerFine]
    exact sound.moved (.keeps outer) (free ▸ .takes rfl) rfl rfl Section.noConfusion
  | inside count =>
    rw [here] at outer inner
    by_cases more : count < n
    · obtain ⟨⟨outerValue, innerValue, next⟩, worked⟩ :=
        Option.isSome_iff_exists.mp (works count here more)
      rw [advance_inside more worked]
      exact sound.moved (.keeps outer) (.keeps inner) rfl rfl Section.noConfusion
    · rw [advance_inside_end more]
      exact sound.moved (.keeps outer) (inner.mpr rfl ▸ .gives rfl) rfl rfl Section.noConfusion
  | unlocking =>
    rw [here] at outer inner
    exact sound.moved (outer.mpr rfl ▸ .gives rfl) (.keeps inner) rfl rfl Section.noConfusion

/-- **Whoever is in a section gets on.** -/
theorem Sound.remaining_advance (sound : locks.Sound places)
    (works : ∀ count, places party = .inside count → count < n →
      (work count locks.outer.value locks.inner.value own).isSome)
    (inSection : 0 < (places party).remaining n) :
    (locks.advance party n work own (places party)).1.remaining n + 1 = (places party).remaining n := by
  cases here : places party with
  | locking => rw [advance_locking (sound.inner_free here) sound.innerFine]; rfl
  | inside count =>
    by_cases more : count < n
    · obtain ⟨⟨outerValue, innerValue, next⟩, worked⟩ :=
        Option.isSome_iff_exists.mp (works count here more)
      rw [advance_inside more worked]
      show n - (count + 1) + 2 + 1 = n - count + 2
      omega
    · rw [advance_inside_end more]
      show 1 + 1 = n - count + 2
      omega
  | unlocking => rfl
  | _ => rw [here] at inSection; cases inSection

/-- Where the outer lock is free, so is the inner one. -/
theorem Sound.both_free (sound : locks.Sound places) (free : locks.outer.holder = none) :
    locks.inner.holder = none := by
  cases held : locks.inner.holder with
  | none => rfl
  | some i =>
    have inside := (sound.inner i).mp held
    rw [(sound.outer i).mpr (Section.holdsOuter_of_inner inside)] at free
    cases free

end TwoLocks

end Opendps.Lib
