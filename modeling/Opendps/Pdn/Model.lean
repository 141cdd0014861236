/-
**The power distribution network: domains, PDUs, racks, and the budget a brain may hand out.**

Watts are exact rationals. `PDNTopology.domainBudgetW` is the one number every brain is meant to
size its caps against: a budget adopted from the cluster coordinator if there is one, else the
static budget scaled to the rack's share, in both cases minus the node's overhead and never below
zero (`domainBudgetW_nonneg`).
-/

import Opendps.Lib.Dict
import Opendps.Lib.Python
import Mathlib.Algebra.Order.Ring.Rat

namespace Opendps.Pdn

open Opendps.Lib

/-- The index of a GPU on its node. -/
abbrev GpuIndex := ℤ

/-- One power domain. -/
structure PowerDomain where
  name : String
  budgetW : ℚ
  gpuIndices : List GpuIndex
  pduName : String
  priority : ℤ := 0
  nodeOverheadW : ℚ := 0
  rackName : Option String := none

structure PDU where
  name : String
  capacityW : ℚ
  derating : ℚ := 9 / 10

/-- A rack-level power budget shared by its member domains. -/
structure Rack where
  name : String
  budgetW : ℚ

structure PDNTopology where
  pdus : Dict String PDU
  domains : Dict String PowerDomain
  racks : Dict String Rack := .empty
  adoptedBudgetW : Dict String ℚ := .empty

namespace PDNTopology

/-- `self.domains[domain_name]`. -/
def domain (topology : PDNTopology) (domainName : String) : Except PyError PowerDomain :=
  match topology.domains.get? domainName with
  | some found => .ok found
  | none => .error (.keyError domainName)

theorem contains_of_domain {topology : PDNTopology} {domainName : String} {found : PowerDomain}
    (present : topology.domain domainName = .ok found) : topology.domains.contains domainName := by
  unfold PDNTopology.domain at present
  cases stored : topology.domains.get? domainName with
  | none =>
    rw [stored] at present
    cases present
  | some domain =>
    rw [Dict.contains, stored]
    rfl

theorem not_contains_of_domain {topology : PDNTopology} {domainName : String} {exc : PyError}
    (missing : topology.domain domainName = .error exc) :
    topology.domains.contains domainName = false := by
  unfold PDNTopology.domain at missing
  cases stored : topology.domains.get? domainName with
  | none =>
    rw [Dict.contains, stored]
    rfl
  | some domain =>
    rw [stored] at missing
    cases missing

/-- Override a domain's base budget at runtime. -/
def adoptBudget (topology : PDNTopology) (domainName : String) (budgetW : ℚ) : PDNTopology :=
  { topology with adoptedBudgetW := topology.adoptedBudgetW.set domainName budgetW }

def releaseBudget (topology : PDNTopology) (domainName : String) : PDNTopology :=
  { topology with adoptedBudgetW := topology.adoptedBudgetW.pop domainName }

def domainsOnRack (topology : PDNTopology) (rackName : Option String) : List PowerDomain :=
  topology.domains.values.filter fun domain => decide (domain.rackName = rackName)

/-- The rack a domain belongs to. An empty rack name is falsy and means no rack. -/
def rackOf (topology : PDNTopology) (domain : PowerDomain) : Option Rack :=
  match domain.rackName with
  | none => none
  | some rackName => if rackName = "" then none else topology.racks.get? rackName

def rackForDomain (topology : PDNTopology) (domainName : String) : Except PyError (Option Rack) := do
  let domain ← topology.domain domainName
  pure (topology.rackOf domain)

/-- The static budget of a domain, scaled down to its proportional share of a rack whose budget is
positive and below the sum of its domains' budgets. -/
def rackScaledBudgetW (topology : PDNTopology) (domain : PowerDomain) : ℚ :=
  match topology.rackOf domain with
  | none => domain.budgetW
  | some rack =>
    let total := ((topology.domainsOnRack domain.rackName).map PowerDomain.budgetW).sum
    if rack.budgetW < total ∧ 0 < rack.budgetW then domain.budgetW * rack.budgetW / total
    else domain.budgetW

/-- The budget the brains allocate GPU caps against: an adopted budget supersedes the static one,
and the node's overhead is taken off either. -/
def domainBudgetW (topology : PDNTopology) (domainName : String) : Except PyError ℚ := do
  let domain ← topology.domain domainName
  match topology.adoptedBudgetW.get? domainName with
  | some adopted => pure (max 0 (adopted - domain.nodeOverheadW))
  | none => pure (max 0 (topology.rackScaledBudgetW domain - domain.nodeOverheadW))

/-- A domain that does not exist has none. -/
theorem domainBudgetW_error {topology : PDNTopology} {domainName : String} {exc : PyError}
    (missing : topology.domain domainName = .error exc) :
    topology.domainBudgetW domainName = .error exc := by
  unfold domainBudgetW
  rw [missing]
  rfl

/-- A domain that exists has a budget. -/
theorem domainBudgetW_isOk {topology : PDNTopology} {domainName : String} {found : PowerDomain}
    (present : topology.domain domainName = .ok found) :
    ∃ budget, topology.domainBudgetW domainName = .ok budget := by
  unfold domainBudgetW
  rw [present]
  cases adopted : topology.adoptedBudgetW.get? domainName with
  | some value => exact ⟨max 0 (value - found.nodeOverheadW), by
      simp [bind, Except.bind]
      rfl⟩
  | none =>
    exact ⟨max 0 (topology.rackScaledBudgetW found - found.nodeOverheadW), by
      simp [bind, Except.bind]
      rfl⟩

/-- A domain's budget is one of its domains, its racks and the budget adopted for it. -/
theorem domainBudgetW_congr {first second : PDNTopology} {domainName : String}
    (domains : second.domains = first.domains) (racks : second.racks = first.racks)
    (adopted : second.adoptedBudgetW.get? domainName = first.adoptedBudgetW.get? domainName) :
    second.domainBudgetW domainName = first.domainBudgetW domainName := by
  have scaled : second.rackScaledBudgetW = first.rackScaledBudgetW := by
    funext domain
    unfold rackScaledBudgetW rackOf
    rw [racks]
    simp only [domainsOnRack, domains]
    rfl
  simp only [domainBudgetW, domain, domains, adopted, scaled]

theorem domainBudgetW_nonneg {topology : PDNTopology} {domainName : String} {budget : ℚ}
    (answer : topology.domainBudgetW domainName = .ok budget) : 0 ≤ budget := by
  unfold domainBudgetW at answer
  cases present : topology.domain domainName with
  | error exc =>
    rw [present] at answer
    cases answer
  | ok found =>
    rw [present] at answer
    cases adopted : topology.adoptedBudgetW.get? domainName with
    | some value =>
      have shape : max 0 (value - found.nodeOverheadW) = budget := by
        simpa [bind, Except.bind, pure, Except.pure, adopted] using answer
      exact shape ▸ le_max_left _ _
    | none =>
      have shape : max 0 (topology.rackScaledBudgetW found - found.nodeOverheadW) = budget := by
        simpa [bind, Except.bind, pure, Except.pure, adopted] using answer
      exact shape ▸ le_max_left _ _

end PDNTopology

end Opendps.Pdn
