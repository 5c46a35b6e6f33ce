import DetectorSim.Geometry.Setup
import DetectorSim.Proofs.Pipeline.Expansion
import Mathlib.Data.List.Induction

/-! What can be done to a setup, and what every history of it keeps: the index leads to each
detector, each detector stays at its slot, and the objects of all detectors are frozen just if the
setup is sealed. -/

namespace DetectorSim

namespace Geometry

/-- What is done to a setup. -/
inductive Operation where
  | addModel (m : DetectorModel)
  | addDetector (name typeName : String) (position orientation : Vector Float 3)
  | use (q : ObjectQuestion)
  | freeze

/-- Does something to a setup; what is refused leaves it as it is. -/
def perform (g : Geometry) : Operation → Geometry
  | .addModel m => (g.addModel m).toOption.getD g
  | .addDetector name typeName position orientation =>
    (g.addDetector name typeName position orientation).toOption.getD g
  | .use q => (g.use q).2
  | .freeze => g.freeze

/-- The setup after a history. -/
def after (g : Geometry) (history : List Operation) : Geometry :=
  history.foldl perform g

theorem after_append (g : Geometry) (history more : List Operation) :
    g.after (history ++ more) = (g.after history).after more :=
  List.foldl_append

/-- Whether something freezes the setup. -/
def Operation.freezes : Operation → Bool
  | .freeze => true
  | _ => false

/-- The object that something puts under a key of a detector; what is refused puts none. -/
def Operation.puts (g : Geometry) (d : Detector) (key : String) : Operation → Option AttachedObject
  | .use (.attach e under object) =>
    if e.slot = d.slot ∧ under = key ∧ (g.attach e under object).toBool then some object else none
  | _ => none

/-- The index leads from the name of each detector to its only place. -/
def Coherent (g : Geometry) : Prop :=
  ∀ name slot, g.index.find? name = some slot ↔
    ∃ placement, g.placements[slot]? = some placement ∧ placement.detector.name = name

theorem coherent_empty : empty.Coherent := by
  intro name slot
  constructor
  · intro found
    cases found
  · rintro ⟨placement, present, _⟩
    cases present

theorem coherent_iff (g : Geometry) :
    g.Coherent ↔ ∀ name slot, g.index.find? name = some slot ↔
      ∃ d, g.detectors[slot]? = some d ∧ d.name = name := by
  refine forall_congr' fun name => forall_congr' fun slot => iff_congr .rfl ?_
  rw [detectors, List.getElem?_map]
  cases g.placements[slot]? <;> simp

/-- Other objects at the same places do not change where detectors are. -/
theorem Coherent.of_sameDetectors {g h : Geometry} (same : g.SameDetectors h)
    (coherent : g.Coherent) : h.Coherent := by
  rw [coherent_iff, same.index, same.detectors]
  exact (coherent_iff g).mp coherent

/-- Each detector is at its slot, and its objects are frozen just if the setup is sealed. -/
structure InPlace (g : Geometry) : Prop where
  slot : ∀ (slot : Nat) (p : Placement), g.placements[slot]? = some p → p.detector.slot = slot
  frozen : ∀ p ∈ g.placements, p.objects.isFrozen = g.isSealed

theorem inPlace_empty : empty.InPlace where
  slot slot p found := by cases found
  frozen := List.forall_mem_nil _

theorem InPlace.placement {g : Geometry} (inPlace : g.InPlace) {d : Detector}
    (member : d ∈ g.detectors) : ∃ p, g.placements[d.slot]? = some p ∧ p.detector = d := by
  obtain ⟨p, present, rfl⟩ := List.mem_map.mp member
  obtain ⟨slot, found⟩ := List.getElem?_of_mem present
  exact ⟨p, inPlace.slot slot p found ▸ found, rfl⟩

theorem InPlace.eq_of_slot {g : Geometry} (inPlace : g.InPlace) {d e : Detector}
    (member : d ∈ g.detectors) (other : e ∈ g.detectors) (same : d.slot = e.slot) : d = e := by
  obtain ⟨p, found, rfl⟩ := inPlace.placement member
  obtain ⟨q, there, rfl⟩ := inPlace.placement other
  rw [same, there, Option.some.injEq] at found
  rw [found]

section Adding

variable {g h : Geometry} {name typeName : String} {position orientation : Vector Float 3}

/-- A detector is as it was asked for, and its model is the one registered in its slot. -/
structure Fits (g : Geometry) (name typeName : String) (position orientation : Vector Float 3)
    (d : Detector) : Prop where
  name : d.name = name
  slot : d.slot = g.placements.length
  type : d.modelType = typeName
  position : d.position = position
  orientation : d.orientation = orientation
  registered : g.models[d.modelSlot]? = some d.model

/-- A detector is added behind the others, under a name that is new and without objects. -/
theorem addDetector_eq_ok (added : g.addDetector name typeName position orientation = .ok h) :
    g.isSealed = false ∧ g.index.find? name = none ∧
      ∃ d : Detector, g.Fits name typeName position orientation d ∧
        h = { g with
          placements := g.placements ++ [⟨d, .empty⟩]
          index := g.index.insert name g.placements.length } := by
  rw [addDetector] at added
  split at added
  · cases added
  · rename_i unsealed
    split at added
    · cases added
    · rename_i absent
      split at added
      · cases added
      · rename_i slot found
        cases added
        rw [hasDetector, Dictionary.contains] at absent
        have type : g.models[slot].typeName = typeName :=
          beq_iff_eq.mp (List.findFinIdx?_eq_some_iff.mp found).1
        exact ⟨Bool.eq_false_iff.mpr unsealed, Option.not_isSome_iff_eq_none.mp absent,
          ⟨name, g.placements.length, slot, g.models[slot], position, orientation⟩,
          ⟨rfl, rfl, type, rfl, rfl, List.getElem?_eq_getElem slot.isLt⟩, rfl⟩

theorem addModel_eq_ok {m : DetectorModel} (added : g.addModel m = .ok h) :
    g.isSealed = false ∧ (∀ other ∈ g.models, other.typeName ≠ m.typeName) ∧
      h = { g with models := g.models ++ [m] } := by
  rw [addModel] at added
  split at added
  · cases added
  · rename_i unsealed
    split at added
    · cases added
    · rename_i absent
      cases added
      refine ⟨Bool.eq_false_iff.mpr unsealed, fun other member same => absent ?_, rfl⟩
      rw [model?, List.find?_isSome]
      exact ⟨other, member, beq_iff_eq.mpr same⟩

theorem Coherent.addDetector (coherent : g.Coherent)
    (added : g.addDetector name typeName position orientation = .ok h) : h.Coherent := by
  obtain ⟨_, absent, d, ⟨named, _⟩, rfl⟩ := addDetector_eq_ok added
  intro other slot
  rw [Dictionary.find?_insert]
  by_cases same : other = name
  · subst same
    rw [if_pos rfl]
    constructor
    · rintro ⟨⟩
      exact ⟨⟨d, .empty⟩, List.getElem?_concat_length .., named⟩
    · rintro ⟨placement, present, bears⟩
      by_cases within : slot < g.placements.length
      · rw [List.getElem?_append_left within] at present
        have known := (coherent other slot).mpr ⟨placement, present, bears⟩
        rw [absent] at known
        cases known
      · have inside := (List.getElem?_eq_some_iff.mp present).1
        rw [List.length_append, List.length_singleton] at inside
        exact congrArg some (by omega)
  · rw [if_neg same, coherent other slot]
    refine exists_congr fun placement => and_congr_left fun bears => ?_
    constructor
    · intro present
      rwa [List.getElem?_append_left (List.getElem?_eq_some_iff.mp present).1]
    · intro present
      by_cases within : slot < g.placements.length
      · rwa [List.getElem?_append_left within] at present
      · rw [List.getElem?_append_right (Nat.not_lt.mp within)] at present
        have last := List.mem_singleton.mp (List.mem_of_getElem? present)
        rw [last] at bears
        exact absurd (bears.symm.trans named) same

theorem InPlace.addDetector (inPlace : g.InPlace)
    (added : g.addDetector name typeName position orientation = .ok h) : h.InPlace := by
  obtain ⟨unsealed, _, d, fits, rfl⟩ := addDetector_eq_ok added
  constructor
  · intro slot p found
    rcases Nat.lt_or_ge slot g.placements.length with before | behind
    · rw [List.getElem?_append_left before] at found
      exact inPlace.slot slot p found
    · have inside := (List.getElem?_eq_some_iff.mp found).1
      rw [List.length_append, List.length_singleton] at inside
      obtain rfl : slot = g.placements.length := by omega
      rw [List.getElem?_concat_length, Option.some.injEq] at found
      subst found
      exact fits.slot
  · intro p member
    rcases List.mem_append.mp member with before | last
    · exact inPlace.frozen p before
    · rw [List.mem_singleton.mp last]
      exact unsealed.symm

end Adding

section Attaching

variable {g h : Geometry} {e : Detector} {under : String} {object : AttachedObject}

theorem InPlace.attach (inPlace : g.InPlace) (attached : g.attach e under object = .ok h) :
    h.InPlace := by
  obtain ⟨p, found, _, rfl⟩ := attach_eq_ok_iff.mp attached
  constructor
  · intro slot q here
    by_cases same : e.slot = slot
    · subst same
      rw [List.getElem?_set_self (List.getElem?_eq_some_iff.mp found).1, Option.some.injEq] at here
      subst here
      exact inPlace.slot e.slot p found
    · rw [List.getElem?_set_ne same] at here
      exact inPlace.slot slot q here
  · intro q member
    rcases List.mem_or_eq_of_mem_set member with before | rfl
    · exact inPlace.frozen q before
    · exact inPlace.frozen p (List.mem_of_getElem? found)

end Attaching

section Freezing

variable {g : Geometry}

theorem foldl_freezeObjects (g : Geometry) (detectors : List Detector) :
    detectors.foldl freezeObjects g =
      { g with
        placements := detectors.foldl (fun placements d =>
          placements.modify d.slot Placement.freeze) g.placements } := by
  induction detectors generalizing g with
  | nil => rfl
  | cons d rest ih => exact ih (g.freezeObjects d)

/-- The loop freezes the objects at the slots of the detectors that it comes to. -/
theorem getElem?_freezeAll (detectors : List Detector) (placements : List Placement) (slot : Nat) :
    (detectors.foldl (fun placements d => placements.modify d.slot Placement.freeze)
      placements)[slot]? =
      placements[slot]?.map fun p => if ∃ d ∈ detectors, d.slot = slot then p.freeze else p := by
  induction detectors generalizing placements with
  | nil => simp
  | cons d rest ih =>
    rw [List.foldl_cons, ih, List.getElem?_modify]
    cases placements[slot]? with
    | none => rfl
    | some p =>
      refine congrArg some ?_
      by_cases here : d.slot = slot <;> by_cases later : ∃ d ∈ rest, d.slot = slot <;>
        simp [here, later, Placement.freeze, ObjectTable.freeze]

/-- Freezing a setup reaches the objects of each detector. -/
theorem InPlace.freeze_eq (inPlace : g.InPlace) :
    g.freeze = { g with placements := g.placements.map Placement.freeze, isSealed := true } := by
  rw [freeze, foldl_freezeObjects]
  refine congrArg (Geometry.mk g.models · g.index true) (List.ext_getElem? fun slot => ?_)
  rw [getElem?_freezeAll, List.getElem?_map]
  cases found : g.placements[slot]? with
  | none => rfl
  | some p =>
    have member : p.detector ∈ g.detectors := List.mem_map_of_mem (List.mem_of_getElem? found)
    exact congrArg some (if_pos ⟨p.detector, member, inPlace.slot slot p found⟩)

theorem InPlace.freeze (inPlace : g.InPlace) : g.freeze.InPlace := by
  rw [inPlace.freeze_eq]
  constructor
  · intro slot p found
    rw [List.getElem?_map, Option.map_eq_some_iff] at found
    obtain ⟨q, before, rfl⟩ := found
    exact inPlace.slot slot q before
  · intro p member
    obtain ⟨q, _, rfl⟩ := List.mem_map.mp member
    rfl

theorem Coherent.freeze (coherent : g.Coherent) : g.freeze.Coherent :=
  coherent.of_sameDetectors g.sameDetectors_freeze

theorem models_freeze (g : Geometry) : g.freeze.models = g.models := by
  rw [freeze, foldl_freezeObjects]

theorem isSealed_freeze (g : Geometry) : g.freeze.isSealed = true := by
  rw [freeze, foldl_freezeObjects]

end Freezing

/-- What something does to a setup: nothing, because it is refused or only looks at something, or one
of four changes. -/
inductive Change (g : Geometry) : Operation → Geometry → Prop where
  | none {operation : Operation} (freezes : operation.freezes = false)
      (puts : ∀ d key, operation.puts g d key = .none) : Change g operation g
  | model {m : DetectorModel} {h : Geometry} (added : g.addModel m = .ok h) :
      Change g (.addModel m) h
  | detector {name typeName : String} {position orientation : Vector Float 3} {h : Geometry}
      (added : g.addDetector name typeName position orientation = .ok h) :
      Change g (.addDetector name typeName position orientation) h
  | object {d : Detector} {key : String} {object : AttachedObject} {h : Geometry}
      (attached : g.attach d key object = .ok h) : Change g (.use (.attach d key object)) h
  | frozen : Change g .freeze g.freeze

theorem change_perform (g : Geometry) (operation : Operation) :
    g.Change operation (g.perform operation) := by
  cases operation with
  | addModel m =>
    rw [perform]
    cases added : g.addModel m with
    | error e => exact .none rfl fun _ _ => rfl
    | ok h => exact .model added
  | addDetector name typeName position orientation =>
    rw [perform]
    cases added : g.addDetector name typeName position orientation with
    | error e => exact .none rfl fun _ _ => rfl
    | ok h => exact .detector added
  | use q =>
    cases q with
    | attach d key object =>
      rw [perform, use]
      cases attached : g.attach d key object with
      | error e =>
        refine .none rfl fun e under => if_neg fun put => ?_
        rw [attached] at put
        cases put.2.2
      | ok h => exact .object attached
    | _ => exact .none rfl fun _ _ => rfl
  | freeze => exact .frozen

namespace Change

variable {g h : Geometry} {operation : Operation}

theorem isSealed (change : g.Change operation h) :
    h.isSealed = (g.isSealed || operation.freezes) := by
  cases change with
  | none freezes => rw [freezes, Bool.or_false]
  | model added =>
    obtain ⟨_, _, rfl⟩ := addModel_eq_ok added
    exact (Bool.or_false _).symm
  | detector added =>
    obtain ⟨_, _, _, _, rfl⟩ := addDetector_eq_ok added
    exact (Bool.or_false _).symm
  | object attached =>
    obtain ⟨_, _, _, rfl⟩ := attach_eq_ok_iff.mp attached
    exact (Bool.or_false _).symm
  | frozen => exact g.isSealed_freeze.trans (Bool.or_true _).symm

theorem coherent (change : g.Change operation h) (coherent : g.Coherent) : h.Coherent := by
  cases change with
  | none => exact coherent
  | model added =>
    obtain ⟨_, _, rfl⟩ := addModel_eq_ok added
    exact coherent
  | detector added => exact coherent.addDetector added
  | object attached => exact coherent.of_sameDetectors (sameDetectors_attach attached)
  | frozen => exact coherent.freeze

theorem inPlace (change : g.Change operation h) (inPlace : g.InPlace) : h.InPlace := by
  cases change with
  | none => exact inPlace
  | model added =>
    obtain ⟨_, _, rfl⟩ := addModel_eq_ok added
    exact ⟨inPlace.slot, inPlace.frozen⟩
  | detector added => exact inPlace.addDetector added
  | object attached => exact inPlace.attach attached
  | frozen => exact inPlace.freeze

theorem mem_detectors (change : g.Change operation h) {d : Detector} (member : d ∈ g.detectors) :
    d ∈ h.detectors := by
  cases change with
  | none => exact member
  | model added =>
    obtain ⟨_, _, rfl⟩ := addModel_eq_ok added
    exact member
  | detector added =>
    obtain ⟨_, _, new, _, rfl⟩ := addDetector_eq_ok added
    rw [detectors, List.map_append]
    exact List.mem_append_left _ member
  | object attached => exact (sameDetectors_attach attached).detectors.symm ▸ member
  | frozen => exact g.sameDetectors_freeze.detectors.symm ▸ member

end Change

/-- What every change keeps, every history keeps. -/
theorem after_keeps {keeps : Geometry → Prop}
    (step : ∀ {g h operation}, Change g operation h → keeps g → keeps h) {g : Geometry}
    (start : keeps g) (history : List Operation) : keeps (g.after history) := by
  induction history generalizing g with
  | nil => exact start
  | cons operation rest ih => exact ih (step (g.change_perform operation) start)

section History

variable {g : Geometry}

theorem isSealed_after (g : Geometry) (history : List Operation) :
    (g.after history).isSealed = (g.isSealed || history.any Operation.freezes) := by
  induction history generalizing g with
  | nil => exact (Bool.or_false _).symm
  | cons operation rest ih =>
    refine (ih _).trans ?_
    rw [(g.change_perform operation).isSealed, List.any_cons, Bool.or_assoc]

theorem Coherent.after (coherent : g.Coherent) (history : List Operation) :
    (g.after history).Coherent :=
  after_keeps Change.coherent coherent history

theorem InPlace.after (inPlace : g.InPlace) (history : List Operation) :
    (g.after history).InPlace :=
  after_keeps Change.inPlace inPlace history

theorem mem_detectors_after {d : Detector} (member : d ∈ g.detectors) (history : List Operation) :
    d ∈ (g.after history).detectors :=
  after_keeps (fun change => change.mem_detectors) member history

/-- Whether something adds a model or a detector. -/
def Operation.adds : Operation → Bool
  | .addModel _ | .addDetector .. => true
  | _ => false

/-- One setup arose from another by adding models and detectors. -/
def Grows (g h : Geometry) : Prop :=
  ∃ history : List Operation, (∀ operation ∈ history, operation.adds = true) ∧ h = g.after history

theorem Grows.refl (g : Geometry) : g.Grows g :=
  ⟨[], List.forall_mem_nil _, rfl⟩

theorem Grows.cons {h : Geometry} (operation : Operation) (adds : operation.adds = true)
    (grows : (g.perform operation).Grows h) : g.Grows h := by
  obtain ⟨history, rest, rfl⟩ := grows
  exact ⟨operation :: history, List.forall_mem_cons.mpr ⟨adds, rest⟩, rfl⟩

theorem Grows.trans {h k : Geometry} (first : g.Grows h) (second : h.Grows k) : g.Grows k := by
  obtain ⟨history, adds, rfl⟩ := first
  obtain ⟨more, addsMore, rfl⟩ := second
  refine ⟨history ++ more, List.forall_mem_append.mpr ⟨adds, addsMore⟩, ?_⟩
  exact (g.after_append history more).symm

/-- A setup that was given by its history, or else arose by adding, is the one after some history. -/
theorem exists_history {given : Option (List Operation)}
    (origin : (given.map empty.after).elim (empty.Grows g) (g = ·)) :
    ∃ base, g = empty.after base ∧ (∀ history ∈ given, base = history) ∧
      (given = none → ∀ operation ∈ base, operation.adds = true) := by
  cases given with
  | none =>
    obtain ⟨base, adds, rfl⟩ := origin
    refine ⟨base, rfl, fun _ member => ?_, fun _ => adds⟩
    cases member
  | some history =>
    refine ⟨history, origin, fun _ member => ?_, fun none => ?_⟩
    · cases member
      rfl
    · cases none

theorem grows_addModels {h : Geometry} {sections : List Config.Section}
    (added : g.addModels sections = .ok h) : g.Grows h := by
  induction sections generalizing g with
  | nil =>
    cases added
    exact .refl _
  | cons s rest ih =>
    rw [addModels] at added
    split at added
    · cases added
    · rename_i m read
      refine .cons (.addModel m) rfl ?_
      rw [Geometry.perform]
      cases first : g.addModel m with
      | error e =>
        rw [first] at added
        cases added
      | ok next =>
        rw [first] at added
        exact ih added

theorem grows_addDetectors {h : Geometry} {sections : List Config.Section}
    (added : g.addDetectors sections = .ok h) : g.Grows h := by
  induction sections generalizing g with
  | nil =>
    cases added
    exact .refl _
  | cons s rest ih =>
    rw [addDetectors] at added
    split at added
    · cases added
    · rename_i typeName position orientation read
      refine .cons (.addDetector s.name typeName position orientation) rfl ?_
      rw [Geometry.perform]
      cases first : g.addDetector s.name typeName position orientation with
      | error e =>
        rw [first] at added
        cases added
      | ok next =>
        rw [first] at added
        exact ih added

theorem grows_ofSections {h : Geometry} {models detectors : List Config.Section}
    (made : ofSections models detectors = .ok h) : empty.Grows h := by
  rw [ofSections] at made
  cases first : empty.addModels models with
  | error e =>
    rw [first] at made
    cases made
  | ok next =>
    rw [first] at made
    exact (grows_addModels first).trans (grows_addDetectors made)

/-- A setup that sections of models and of detectors describe. -/
def IsConfigured (g : Geometry) : Prop :=
  ∃ models detectors, ofSections models detectors = .ok g

theorem isConfigured_empty : empty.IsConfigured :=
  ⟨[], [], rfl⟩

theorem IsConfigured.grows (configured : g.IsConfigured) : empty.Grows g := by
  obtain ⟨_, _, made⟩ := configured
  exact grows_ofSections made

theorem Coherent.after_empty (history : List Operation) : (empty.after history).Coherent :=
  coherent_empty.after history

theorem InPlace.after_empty (history : List Operation) : (empty.after history).InPlace :=
  inPlace_empty.after history

/-- A sealed setup is not changed by anything. -/
theorem InPlace.perform_of_isSealed (inPlace : g.InPlace) (stopped : g.isSealed = true)
    (operation : Operation) : g.perform operation = g := by
  have change := g.change_perform operation
  generalize g.perform operation = h at change ⊢
  cases change with
  | none => rfl
  | model added =>
    rw [(addModel_eq_ok added).1] at stopped
    cases stopped
  | detector added =>
    rw [(addDetector_eq_ok added).1] at stopped
    cases stopped
  | object attached =>
    obtain ⟨p, found, unfrozen, _⟩ := attach_eq_ok_iff.mp attached
    rw [inPlace.frozen p (List.mem_of_getElem? found), stopped] at unfrozen
    cases unfrozen
  | frozen =>
    have same : g.placements.map Placement.freeze = g.placements := by
      refine (List.map_congr_left fun p member => ?_).trans (List.map_id _)
      have frozen := (inPlace.frozen p member).trans stopped
      obtain ⟨d, entries, _⟩ := p
      cases frozen
      rfl
    rw [inPlace.freeze_eq, same, ← stopped]

end History

end Geometry

end DetectorSim
