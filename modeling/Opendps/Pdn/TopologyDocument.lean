/-
**Loading a topology from any document.**

`LoadedTopology.fromDict` is `from_dict` on every JSON value: what the program converts has been
converted, and what it does not look at (the GPU indices, the name of a PDU or of a rack) is whatever
the document has there. A topology whose numbers are finite is one of these (`ofTopology`), and
`fromDict_documentOfConfig` says that on the documents of the expected types the loader is the one on
their values.
-/

import Opendps.Pdn.Loading

namespace Opendps.Pdn

open Opendps.Lib

structure LoadedPDU where
  name : String
  capacityW : PyFloat
  derating : PyFloat

structure LoadedRack where
  name : String
  budgetW : PyFloat

structure LoadedDomain where
  name : String
  budgetW : PyFloat
  gpuIndices : List Json
  pduName : Json
  priority : ℤ
  nodeOverheadW : PyFloat
  rackName : Json

structure LoadedTopology where
  pdus : Dict String LoadedPDU
  domains : Dict String LoadedDomain
  racks : Dict String LoadedRack
  adoptedBudgetW : Dict String PyFloat := .empty

/-! ### The loader -/

def LoadedPDU.ofEntry (name : String) (spec : Json) : Except PyError LoadedPDU := do
  let capacityW ← (← spec.item "capacity_w").floatOf
  let derating ← (← spec.getOr "derating" (.float (.finite (9 / 10)))).floatOf
  pure { name := name, capacityW := capacityW, derating := derating }

def LoadedRack.ofEntry (name : String) (spec : Json) : Except PyError LoadedRack := do
  let budgetW ← (← spec.item "budget_w").floatOf
  pure { name := name, budgetW := budgetW }

def LoadedDomain.ofEntry (name : String) (spec : Json) : Except PyError LoadedDomain := do
  let budgetW ← (← spec.item "budget_w").floatOf
  let gpuIndices ← (← spec.item "gpu_indices").iterate
  let pduName ← spec.item "pdu_name"
  let priority ← (← spec.getOr "priority" (.int 0)).intOf
  let nodeOverheadW ← (← spec.getOr "node_overhead_w" (.float (.finite 0))).floatOf
  let rackName ← spec.getOr "rack_name" .null
  pure { name := name, budgetW := budgetW, gpuIndices := gpuIndices, pduName := pduName
         priority := priority, nodeOverheadW := nodeOverheadW, rackName := rackName }

/-- Build one value for each named entry. -/
def loadAll {β : Type} (build : String → Json → Except PyError β) (entries : List (String × Json)) :
    Except PyError (Dict String β) :=
  entries.foldlM (fun (table : Dict String β) entry => do
    let value ← build entry.1 entry.2
    pure (table.set entry.1 value)) .empty

namespace LoadedTopology

/-- A domain that names a rack the topology does not have. A list or an object cannot be looked up. -/
def unknownRack (racks : Dict String LoadedRack) (domain : LoadedDomain) : Option PyError :=
  match domain.rackName with
  | .null => none
  | .str rackName =>
    if racks.contains rackName then none
    else some (rackRefused domain.name (reprText rackName))
  | .arr elements => some (Json.arr elements).unhashable
  | .obj items => some (Json.obj items).unhashable
  | rackName => some (rackRefused domain.name rackName.repr)

/-- Build a topology from a plain config dict. -/
def fromDict (config : Json) : Except PyError LoadedTopology := do
  let pdus ← loadAll LoadedPDU.ofEntry (← (← config.item "pdus").itemsOf)
  let racks ← loadAll LoadedRack.ofEntry (← (← config.getOr "racks" (.obj [])).itemsOf)
  let domains ← loadAll LoadedDomain.ofEntry (← (← config.item "domains").itemsOf)
  match domains.values.findSome? (unknownRack racks) with
  | some exc => .error exc
  | none => pure { pdus := pdus, domains := domains, racks := racks }

/-! ### Topologies as loaded ones -/

def ofPdu (pdu : PDU) : LoadedPDU where
  name := pdu.name
  capacityW := .finite pdu.capacityW
  derating := .finite pdu.derating

def ofRack (rack : Rack) : LoadedRack where
  name := rack.name
  budgetW := .finite rack.budgetW

/-- The rack's name, or nothing. -/
def rackNameOf : Option String → Json
  | none => .null
  | some rackName => .str rackName

def ofDomain (domain : PowerDomain) : LoadedDomain where
  name := domain.name
  budgetW := .finite domain.budgetW
  gpuIndices := domain.gpuIndices.map .int
  pduName := .str domain.pduName
  priority := domain.priority
  nodeOverheadW := .finite domain.nodeOverheadW
  rackName := rackNameOf domain.rackName

/-- A topology with finite numbers. -/
def ofTopology (topology : PDNTopology) : LoadedTopology where
  pdus := topology.pdus.mapVals fun _ => ofPdu
  domains := topology.domains.mapVals fun _ => ofDomain
  racks := topology.racks.mapVals fun _ => ofRack
  adoptedBudgetW := topology.adoptedBudgetW.mapVals fun _ => .finite

/-! ### Documents whose values have the expected types -/

/-- A number of watts in a document. -/
def watts (value : ℚ) : Json := .float (.finite value)

def entryOfPdu (spec : PDUSpec) : Json :=
  .ofFields [("capacity_w", spec.capacityW.map watts), ("derating", spec.derating.map watts)]

def entryOfRack (spec : RackSpec) : Json := .ofFields [("budget_w", spec.budgetW.map watts)]

def entryOfDomain (spec : DomainSpec) : Json :=
  .ofFields [("budget_w", spec.budgetW.map watts),
    ("gpu_indices", spec.gpuIndices.map fun gpus => .arr (gpus.map .int)),
    ("pdu_name", spec.pduName.map .str), ("priority", spec.priority.map .int),
    ("node_overhead_w", spec.nodeOverheadW.map watts), ("rack_name", spec.rackName.map .str)]

def documentOfTable {α : Type} (entryOf : α → Json) (specs : Dict String α) : Json :=
  .obj (specs.items.map fun item => (item.1, entryOf item.2))

def documentOfConfig (config : TopologyConfig) : Json :=
  .ofFields [("pdus", config.pdus.map (documentOfTable entryOfPdu)),
    ("racks", config.racks.map (documentOfTable entryOfRack)),
    ("domains", config.domains.map (documentOfTable entryOfDomain))]

theorem ofEntry_entryOfPdu (name : String) (spec : PDUSpec) :
    LoadedPDU.ofEntry name (entryOfPdu spec) = (PDU.ofSpec name spec).map ofPdu := by
  have hasCapacity : (entryOfPdu spec).item "capacity_w" =
      required "capacity_w" (spec.capacityW.map watts) := item_ofFields (by simp) (by simp)
  have hasDerating : (entryOfPdu spec).getOr "derating" (.float (.finite (9 / 10))) =
      .ok ((spec.derating.map watts).getD (watts (9 / 10))) :=
    Json.getOr_ofFields (by simp) (by simp) _
  unfold LoadedPDU.ofEntry PDU.ofSpec
  rw [hasCapacity, hasDerating]
  cases spec.capacityW with
  | none => rfl
  | some capacityW => cases spec.derating <;> rfl

theorem ofEntry_entryOfRack (name : String) (spec : RackSpec) :
    LoadedRack.ofEntry name (entryOfRack spec) = (Rack.ofSpec name spec).map ofRack := by
  have hasBudget : (entryOfRack spec).item "budget_w" =
      required "budget_w" (spec.budgetW.map watts) := item_ofFields (by simp) (by simp)
  unfold LoadedRack.ofEntry Rack.ofSpec
  rw [hasBudget]
  cases spec.budgetW <;> rfl

theorem ofEntry_entryOfDomain (name : String) (spec : DomainSpec) :
    LoadedDomain.ofEntry name (entryOfDomain spec) = (PowerDomain.ofSpec name spec).map ofDomain := by
  have hasBudget : (entryOfDomain spec).item "budget_w" =
      required "budget_w" (spec.budgetW.map watts) := item_ofFields (by simp) (by simp)
  have hasIndices : (entryOfDomain spec).item "gpu_indices" =
      required "gpu_indices" (spec.gpuIndices.map fun gpus => .arr (gpus.map .int)) :=
    item_ofFields (by simp) (by simp)
  have hasPdu : (entryOfDomain spec).item "pdu_name" =
      required "pdu_name" (spec.pduName.map .str) := item_ofFields (by simp) (by simp)
  have hasPriority : (entryOfDomain spec).getOr "priority" (.int 0) =
      .ok ((spec.priority.map .int).getD (.int 0)) := Json.getOr_ofFields (by simp) (by simp) _
  have hasOverhead : (entryOfDomain spec).getOr "node_overhead_w" (.float (.finite 0)) =
      .ok ((spec.nodeOverheadW.map watts).getD (watts 0)) :=
    Json.getOr_ofFields (by simp) (by simp) _
  have hasRack : (entryOfDomain spec).getOr "rack_name" .null =
      .ok ((spec.rackName.map .str).getD .null) := Json.getOr_ofFields (by simp) (by simp) _
  unfold LoadedDomain.ofEntry PowerDomain.ofSpec
  rw [hasBudget, hasIndices, hasPdu, hasPriority, hasOverhead, hasRack]
  obtain ⟨budgetW, gpuIndices, pduName, priority, nodeOverheadW, rackName⟩ := spec
  -- what is missing first is what is raised
  cases budgetW with
  | none => rfl
  | some budgetW =>
    cases gpuIndices with
    | none => rfl
    | some gpuIndices =>
      cases pduName with
      | none => rfl
      | some pduName => cases priority <;> cases nodeOverheadW <;> cases rackName <;> rfl

/-- A table of entries is loaded entry by entry. -/
theorem loadAll_documentOfTable {α β γ : Type} {build : String → Json → Except PyError γ}
    {buildSpec : String → α → Except PyError β} {entryOf : α → Json} {embed : β → γ}
    (builds : ∀ name spec, build name (entryOf spec) = (buildSpec name spec).map embed)
    (specs : Dict String α) :
    loadAll build (specs.items.map fun item => (item.1, entryOf item.2)) =
      (buildAll buildSpec specs).map (Dict.mapVals fun _ => embed) := by
  -- along the loop, for any table to start from
  have along : ∀ (items : List (String × α)) (start : Dict String β),
      (items.map fun item => (item.1, entryOf item.2)).foldlM
          (fun (table : Dict String γ) entry => do
            let value ← build entry.1 entry.2
            pure (table.set entry.1 value)) (start.mapVals fun _ => embed) =
        (items.foldlM (fun (table : Dict String β) (item : String × α) => do
          let value ← buildSpec item.1 item.2
          pure (table.set item.1 value)) start).map (Dict.mapVals fun _ => embed) := by
    intro items
    induction items with
    | nil => exact fun start => rfl
    | cons item rest ih =>
      intro start
      rw [List.map_cons, List.foldlM_cons, List.foldlM_cons, builds]
      cases buildSpec item.1 item.2 with
      | error exc => rfl
      | ok value =>
        have stored := Dict.mapVals_set (fun _ => embed) start item.1 value
        exact (congrArg (List.foldlM _ · _) stored.symm).trans (ih (start.set item.1 value))
  exact along specs.items .empty

theorem unknownRack_ofDomain (racks : Dict String Rack) (domain : PowerDomain) :
    unknownRack (racks.mapVals fun _ => ofRack) (ofDomain domain) =
      Pdn.unknownRack racks domain := by
  unfold unknownRack Pdn.unknownRack
  cases names : domain.rackName with
  | none => simp only [ofDomain, names, rackNameOf]
  | some rackName =>
    simp only [ofDomain, names, rackNameOf, Dict.contains, Dict.get?_mapVals, Option.isSome_map]
    rfl

theorem findSome?_unknownRack (racks : Dict String Rack) (domains : Dict String PowerDomain) :
    (domains.mapVals fun _ => ofDomain).values.findSome?
        (unknownRack (racks.mapVals fun _ => ofRack)) =
      domains.values.findSome? (Pdn.unknownRack racks) := by
  have sameCheck : unknownRack (racks.mapVals fun _ => ofRack) ∘ ofDomain =
      Pdn.unknownRack racks := by
    funext domain
    exact unknownRack_ofDomain racks domain
  rw [Dict.values_mapVals, List.findSome?_map, sameCheck]

/-- **On the documents of the expected types the loader is the one on their values.** -/
theorem fromDict_documentOfConfig (config : TopologyConfig) :
    fromDict (documentOfConfig config) = (PDNTopology.fromDict config).map ofTopology := by
  have hasPdus : (documentOfConfig config).item "pdus" =
      required "pdus" (config.pdus.map (documentOfTable entryOfPdu)) :=
    item_ofFields (by simp) (by simp)
  have hasRacks : (documentOfConfig config).getOr "racks" (.obj []) =
      .ok ((config.racks.map (documentOfTable entryOfRack)).getD (.obj [])) :=
    Json.getOr_ofFields (by simp) (by simp) _
  have hasDomains : (documentOfConfig config).item "domains" =
      required "domains" (config.domains.map (documentOfTable entryOfDomain)) :=
    item_ofFields (by simp) (by simp)
  have racksListed : ((config.racks.map (documentOfTable entryOfRack)).getD (.obj [])).itemsOf =
      .ok ((config.racks.getD .empty).items.map fun item => (item.1, entryOfRack item.2)) := by
    cases config.racks <;> rfl
  unfold fromDict PDNTopology.fromDict
  rw [hasPdus, hasRacks, hasDomains]
  cases config.pdus with
  | none => rfl
  | some pdus =>
    show (loadAll _ _ >>= fun _ => Json.itemsOf _ >>= _) =
      (buildAll PDU.ofSpec pdus >>= fun _ => _).map ofTopology
    rw [loadAll_documentOfTable ofEntry_entryOfPdu, racksListed]
    cases buildAll PDU.ofSpec pdus with
    | error exc => rfl
    | ok pdus =>
      show (loadAll _ _ >>= _) = (buildAll Rack.ofSpec _ >>= _).map ofTopology
      rw [loadAll_documentOfTable ofEntry_entryOfRack]
      cases buildAll Rack.ofSpec (config.racks.getD .empty) with
      | error exc => rfl
      | ok racks =>
        cases config.domains with
        | none => rfl
        | some domains =>
          show (loadAll _ _ >>= _) = (buildAll PowerDomain.ofSpec _ >>= _).map ofTopology
          rw [loadAll_documentOfTable ofEntry_entryOfDomain]
          cases buildAll PowerDomain.ofSpec domains with
          | error exc => rfl
          | ok domains =>
            simp only [Except.map, bind, Except.bind, findSome?_unknownRack]
            cases domains.values.findSome? (Pdn.unknownRack racks) <;> rfl

end LoadedTopology

end Opendps.Pdn
