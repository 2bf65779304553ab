import FswCore.Hkstore.StructureMap
import FswCore.Pus.AppLayout

/-!
Contract: the structure management of service 3, exactly.

Owns:
- `StructureRequest`, what the octets of a request ask for, and the layout they
  must have;
- when a request succeeds and what it makes of the map of structures;
- over runs, the store is simulated by a partial map.

Does not own: the reports of a structure.
-/

namespace FswCore

open Library Library.BigEndian

variable {cfg : Config} {store : Hkstore} {app : List UInt8}

/-! ### Requests -/

inductive StructureRequest where
  | create (sid : UInt16) (paramIds : List UInt16) (intervalSec : UInt32)
  | delete (sid : UInt16)
  | setEnabled (sid : UInt16) (enabled : Bool)
deriving DecidableEq, Repr

namespace StructureRequest

def sid : StructureRequest → UInt16
  | .create sid _ _ | .delete sid | .setEnabled sid _ => sid

def paramIds : StructureRequest → List UInt16
  | .create _ paramIds _ => paramIds
  | .delete _ | .setEnabled _ _ => []

def subtype : StructureRequest → UInt8
  | .create _ _ _ => pus3SubtypeCreateStructure
  | .delete _ => pus3SubtypeDeleteStructure
  | .setEnabled _ true => pus3SubtypeEnableStructure
  | .setEnabled _ false => pus3SubtypeDisableStructure

/-- The application data of a request. -/
def image : StructureRequest → List UInt8
  | .create sid paramIds intervalSec =>
      put16 sid ++ [UInt8.ofNat paramIds.length] ++ paramIds.flatMap put16 ++ put32 intervalSec
  | .delete sid | .setEnabled sid _ => put16 sid

/-- The octets are this request; what they count is counted in one octet. -/
structure NamedBy (request : StructureRequest) (serviceSubtype : UInt8) (app : List UInt8) :
    Prop where
  subtype : request.subtype = serviceSubtype
  layout : app = request.image
  counted : request.paramIds.length < 256

/-- When the map admits a request. -/
def Admitted (cfg : Config) (map : HkMap) : StructureRequest → Prop
  | .create sid paramIds _ => CreateAdmitted cfg map sid paramIds
  | .delete sid | .setEnabled sid _ => map sid ≠ none

/-- What an admitted request makes of the map. -/
def apply (map : HkMap) : StructureRequest → HkMap
  | .create sid paramIds intervalSec =>
      Function.update map sid (some ⟨paramIds, intervalSec, false⟩)
  | .delete sid => Function.update map sid none
  | .setEnabled sid enabled => map.setEnabled sid enabled

/-- A request touches the entry of its own identifier only. -/
theorem apply_other {request : StructureRequest} (map : HkMap) {other : UInt16}
    (elsewhere : request.sid ≠ other) : request.apply map other = map other := by
  cases request <;> exact Function.update_of_ne (Ne.symm elsewhere) _ _

end StructureRequest

/-! ### The octets -/

/-- The octets of a create are decoded to what they were made of. -/
theorem pus3ExecCreate_image (sid : UInt16) {paramIds : List UInt16} (intervalSec : UInt32)
    (counted : paramIds.length < 256) :
    pus3ExecCreate cfg store (StructureRequest.create sid paramIds intervalSec).image =
      if paramIds.length > cfg.hkstoreMaxParams then (.errExecFailed, store)
      else pus3Return (hkstoreCreate cfg store sid paramIds intervalSec) := by
  have idsLength : (paramIds.flatMap put16).length = 2 * paramIds.length :=
    length_flatMap_eq fun id _ => put16_length id
  generalize octets : (StructureRequest.create sid paramIds intervalSec).image = app
  rw [StructureRequest.image] at octets
  have total : app.length = 7 + 2 * paramIds.length := by
    rw [← octets]
    simp only [List.length_append, List.length_singleton, put16_length, put32_length, idsLength]
    omega
  have count : (app.getD 2 0).toNat = paramIds.length := by
    have octet : app.getD 2 0 = UInt8.ofNat paramIds.length := by
      rw [← octets]
      rfl
    rw [octet, UInt8.toNat_ofNat', Nat.mod_eq_of_lt counted]
  have isSid : be16At app 0 = sid := by
    rw [← octets, List.append_assoc, List.append_assoc]
    exact be16At_append [] _ sid
  have ids : (List.range paramIds.length).map (fun index => be16At app (3 + 2 * index)) =
      paramIds := by
    rw [← octets]
    exact map_be16At_flatMap (put16 sid ++ [UInt8.ofNat paramIds.length]) (put32 intervalSec)
      paramIds
  have interval : be32At app (3 + 2 * paramIds.length) = intervalSec := by
    have last := be32At_append (put16 sid ++ [UInt8.ofNat paramIds.length] ++
      paramIds.flatMap put16) [] intervalSec
    rw [List.append_nil, octets] at last
    rw [← last]
    congr 1
    simp only [List.length_append, List.length_singleton, put16_length, idsLength]
  rw [pus3ExecCreate, if_neg (by omega)]
  simp only [total, count, isSid, ids, interval]
  rw [if_neg (not_not.mpr rfl)]

theorem pus3Return_ok {result : HkstoreStatus × Hkstore} :
    (pus3Return result).1 = .ok ↔ result.1 = .ok := by
  rw [pus3Return]
  by_cases succeeded : result.1 = .ok
  · rw [if_pos succeeded]
    exact ⟨fun _ => succeeded, fun _ => rfl⟩
  · rw [if_neg succeeded]
    constructor
    · intro refused
      contradiction
    · intro done
      exact absurd done succeeded

/-- Items of two octets are the words read from them. -/
theorem flatten_words {items : List (List UInt8)} (words : ∀ item ∈ items, item.length = 2) :
    items.flatten = (items.map fun item => be16At item 0).flatMap put16 := by
  induction items with
  | nil => rfl
  | cons item rest inductionHypothesis =>
      have others := inductionHypothesis fun other member =>
        words other (List.mem_cons_of_mem _ member)
      have word := eq_put16 (words item List.mem_cons_self)
      rw [List.flatten_cons, List.map_cons, List.flatMap_cons, ← word, others]

/-- What succeeds has the layout of a request. -/
theorem pus3Execute_named {serviceSubtype : UInt8}
    (succeeded : (pus3Execute cfg store serviceSubtype app).1 = .ok) :
    ∃ request : StructureRequest, request.NamedBy serviceSubtype app := by
  rw [pus3Execute] at succeeded
  split at succeeded
  · rename_i create
    obtain ⟨sid, ids, interval, layout, _, counted, _⟩ := pus3ExecCreate_layout succeeded
    obtain ⟨items, isIds, few, _, words⟩ := counted
    have values := flatten_words words
    refine ⟨.create sid (items.map fun item => be16At item 0) interval, create.symm, ?_, ?_⟩
    · rw [layout, isIds, values, StructureRequest.image, List.length_map]
      simp
    · simpa [StructureRequest.paramIds] using few
  split at succeeded
  · rename_i sidOnly
    obtain ⟨sid, layout⟩ := pus3ExecSidOnly_layout succeeded
    have noIds : ([] : List UInt16).length < 256 := by decide
    rcases sidOnly with delete | enable | disable
    · exact ⟨.delete sid, delete.symm, layout, noIds⟩
    · exact ⟨.setEnabled sid true, enable.symm, layout, noIds⟩
    · exact ⟨.setEnabled sid false, disable.symm, layout, noIds⟩
  · contradiction

/-! ### One request -/

/-- What a request that is named does. -/
structure RequestExact (cfg : Config) (store : Hkstore) (request : StructureRequest)
    (result : Pus3Status × Hkstore) : Prop where
  succeeds_iff : result.1 = .ok ↔ request.Admitted cfg store.toMap
  applied : result.1 = .ok → result.2.toMap = request.apply store.toMap

theorem pus3ExecCreate_exact (wellFormed : store.WellFormed cfg) (sid : UInt16)
    {paramIds : List UInt16} (intervalSec : UInt32) (counted : paramIds.length < 256) :
    RequestExact cfg store (.create sid paramIds intervalSec)
      (pus3ExecCreate cfg store (StructureRequest.create sid paramIds intervalSec).image) := by
  rw [pus3ExecCreate_image sid intervalSec counted]
  split
  · rename_i tooMany
    constructor
    · constructor
      · intro succeeded
        contradiction
      · intro admitted
        exact absurd admitted.params_le (Nat.not_le.mpr tooMany)
    · intro succeeded
      contradiction
  · constructor
    · rw [pus3Return_ok]
      exact hkstoreCreate_ok_iff wellFormed sid paramIds intervalSec
    · intro succeeded
      rw [pus3Return_ok] at succeeded
      rcases hkstoreCreate_cases cfg store sid paramIds intervalSec with ⟨failed, _⟩ | ⟨_, done⟩
      · exact absurd succeeded failed
      · exact done.toMap

theorem pus3ExecDelete_exact (wellFormed : store.WellFormed cfg) (sid : UInt16) :
    RequestExact cfg store (.delete sid) (pus3Return (hkstoreDelete store sid)) := by
  constructor
  · rw [pus3Return_ok]
    exact hkstoreDelete_ok_iff wellFormed sid
  · intro succeeded
    rw [pus3Return_ok] at succeeded
    rcases hkstoreDelete_cases store sid with ⟨failed, _⟩ | ⟨_, done⟩
    · exact absurd succeeded failed
    · exact (done.toMap wellFormed).1

theorem pus3ExecSetEnabled_exact (wellFormed : store.WellFormed cfg) (sid : UInt16)
    (enabled : Bool) :
    RequestExact cfg store (.setEnabled sid enabled)
      (pus3Return (hkstoreSetEnabled store sid enabled)) := by
  constructor
  · rw [pus3Return_ok]
    exact hkstoreSetEnabled_ok_iff store sid enabled
  · intro succeeded
    rw [pus3Return_ok] at succeeded
    exact hkstoreSetEnabled_toMap wellFormed succeeded

theorem pus3Execute_request (wellFormed : store.WellFormed cfg) {request : StructureRequest}
    {serviceSubtype : UInt8} (named : request.NamedBy serviceSubtype app) :
    RequestExact cfg store request (pus3Execute cfg store serviceSubtype app) := by
  obtain ⟨rfl, rfl, counted⟩ := named
  have word (sid : UInt16) : be16At (put16 sid) 0 = sid := be16At_append [] [] sid
  cases request with
  | create sid paramIds intervalSec => exact pus3ExecCreate_exact wellFormed sid intervalSec counted
  | delete sid =>
      have executed : pus3Execute cfg store pus3SubtypeDeleteStructure (put16 sid) =
          pus3Return (hkstoreDelete store (be16At (put16 sid) 0)) := rfl
      rw [word] at executed
      exact executed ▸ pus3ExecDelete_exact wellFormed sid
  | setEnabled sid enabled =>
      cases enabled with
      | true =>
          have executed : pus3Execute cfg store pus3SubtypeEnableStructure (put16 sid) =
              pus3Return (hkstoreSetEnabled store (be16At (put16 sid) 0) true) := rfl
          rw [word] at executed
          exact executed ▸ pus3ExecSetEnabled_exact wellFormed sid true
      | false =>
          have executed : pus3Execute cfg store pus3SubtypeDisableStructure (put16 sid) =
              pus3Return (hkstoreSetEnabled store (be16At (put16 sid) 0) false) := rfl
          rw [word] at executed
          exact executed ▸ pus3ExecSetEnabled_exact wellFormed sid false

/-! ### Runs -/

/-- The map takes a request, with its subtype and its octets: one that is admitted
is carried out, any other leaves the map as it is. -/
inductive HkMapStep (cfg : Config) (map : HkMap) (serviceSubtype : UInt8) (app : List UInt8) :
    Bool → HkMap → Prop where
  | accepted (request : StructureRequest) (named : request.NamedBy serviceSubtype app)
      (admitted : request.Admitted cfg map) :
      HkMapStep cfg map serviceSubtype app true (request.apply map)
  | refused (nothing : ∀ request : StructureRequest, request.NamedBy serviceSubtype app →
      ¬request.Admitted cfg map) :
      HkMapStep cfg map serviceSubtype app false map

inductive HkMapRun (cfg : Config) :
    HkMap → List (UInt8 × List UInt8) → List Bool → HkMap → Prop where
  | nil (map : HkMap) : HkMapRun cfg map [] [] map
  | cons {map middle last : HkMap} {serviceSubtype : UInt8} {app : List UInt8}
      {accepted : Bool} {requests : List (UInt8 × List UInt8)} {outcomes : List Bool}
      (step : HkMapStep cfg map serviceSubtype app accepted middle)
      (rest : HkMapRun cfg middle requests outcomes last) :
      HkMapRun cfg map ((serviceSubtype, app) :: requests) (accepted :: outcomes) last

/-- The statuses of a run of requests, each a subtype and application data, and the
store behind it. -/
def pus3Run (cfg : Config) (store : Hkstore) :
    List (UInt8 × List UInt8) → List Pus3Status × Hkstore
  | [] => ([], store)
  | (serviceSubtype, app) :: rest =>
      let result := pus3Execute cfg store serviceSubtype app
      let run := pus3Run cfg result.2 rest
      (result.1 :: run.1, run.2)

/-- One request is a step of the map. -/
theorem pus3Execute_step (wellFormed : store.WellFormed cfg) (serviceSubtype : UInt8)
    (app : List UInt8) :
    HkMapStep cfg store.toMap serviceSubtype app
      ((pus3Execute cfg store serviceSubtype app).1 == .ok)
      (pus3Execute cfg store serviceSubtype app).2.toMap := by
  by_cases succeeded : (pus3Execute cfg store serviceSubtype app).1 = .ok
  · obtain ⟨request, named⟩ := pus3Execute_named succeeded
    have exactly := pus3Execute_request wellFormed named
    rw [beq_iff_eq.mpr succeeded, exactly.applied succeeded]
    exact .accepted request named (exactly.succeeds_iff.mp succeeded)
  · rw [beq_eq_false_iff_ne.mpr succeeded, pus3Execute_refused succeeded]
    apply HkMapStep.refused
    intro request named admitted
    exact succeeded ((pus3Execute_request wellFormed named).succeeds_iff.mpr admitted)

theorem pus3Run_simulated (wellFormed : store.WellFormed cfg)
    (requests : List (UInt8 × List UInt8)) :
    HkMapRun cfg store.toMap requests ((pus3Run cfg store requests).1.map (· == .ok))
        (pus3Run cfg store requests).2.toMap ∧
      (pus3Run cfg store requests).2.WellFormed cfg := by
  induction requests generalizing store with
  | nil => exact ⟨.nil store.toMap, wellFormed⟩
  | cons head rest inductionHypothesis =>
      have step := pus3Execute_step wellFormed head.1 head.2
      have after := pus3Execute_wellFormed wellFormed head.1 head.2
      have run := inductionHypothesis after
      exact ⟨.cons step run.1, run.2⟩

theorem HkMapStep.other {map after : HkMap} {serviceSubtype : UInt8} {accepted : Bool}
    (step : HkMapStep cfg map serviceSubtype app accepted after) {sid : UInt16}
    (elsewhere : ∀ request : StructureRequest, request.NamedBy serviceSubtype app →
      request.sid ≠ sid) : after sid = map sid := by
  cases step with
  | accepted request named admitted => exact request.apply_other map (elsewhere request named)
  | refused nothing => rfl

/-- A run of requests, as the map it simulates sees it, and whatever request is
next. -/
structure StructureRunRefines (cfg : Config) (requests : List (UInt8 × List UInt8))
    (result : List Pus3Status × Hkstore) : Prop where
  simulated : HkMapRun cfg (fun _ => none) requests (result.1.map (· == .ok)) result.2.toMap
  capacity : mapSize result.2.toMap ≤ cfg.hkstoreCapacity
  succeeds_iff : ∀ serviceSubtype app, (pus3Execute cfg result.2 serviceSubtype app).1 = .ok ↔
    ∃ request : StructureRequest, request.NamedBy serviceSubtype app ∧
      request.Admitted cfg result.2.toMap
  refused : ∀ serviceSubtype app, (pus3Execute cfg result.2 serviceSubtype app).1 ≠ .ok →
    (pus3Execute cfg result.2 serviceSubtype app).2.toMap = result.2.toMap
  others : ∀ serviceSubtype app sid, (∀ request : StructureRequest,
      request.NamedBy serviceSubtype app → request.sid ≠ sid) →
    (pus3Execute cfg result.2 serviceSubtype app).2.toMap sid = result.2.toMap sid

/-- For any run of requests from an empty store. -/
theorem pus3Run_refines (cfg : Config) (requests : List (UInt8 × List UInt8)) :
    StructureRunRefines cfg requests (pus3Run cfg (hkstoreInit cfg) requests) := by
  have run := pus3Run_simulated (hkstoreInit_wellFormed cfg) requests
  rw [hkstoreInit_toMap] at run
  obtain ⟨simulated, wellFormed⟩ := run
  constructor
  · exact simulated
  · exact wellFormed.mapSize_le
  · intro serviceSubtype app
    constructor
    · intro succeeded
      obtain ⟨request, named⟩ := pus3Execute_named succeeded
      exact ⟨request, named, (pus3Execute_request wellFormed named).succeeds_iff.mp succeeded⟩
    · rintro ⟨request, named, admitted⟩
      exact (pus3Execute_request wellFormed named).succeeds_iff.mpr admitted
  · intro serviceSubtype app failed
    rw [pus3Execute_refused failed]
  · intro serviceSubtype app sid elsewhere
    exact (pus3Execute_step wellFormed serviceSubtype app).other elsewhere

end FswCore
