import DetectorSim.Pipeline.Instances
import DetectorSim.Proofs.Config.Access

/-! What sections stand for, said without the loop that builds instances: each section has a list of
slots, and what it reads of the detector setup is not changed by attached objects. -/

namespace DetectorSim

open Config

namespace Geometry

theorem detector_eq_ok_iff (g : Geometry) (name : String) (d : Detector) :
    g.detector name = .ok d ↔
      ((g.index.find? name).bind fun slot => g.detectors[slot]?) = some d := by
  rw [detector, place, place?]
  cases g.index.find? name with
  | none => simp [Except.map]
  | some slot =>
    cases present : g.placements[slot]? <;> simp [detectors, present, Except.map]

/-- Two setups have the same detectors under the same names, whatever is attached to them. -/
structure SameDetectors (g h : Geometry) : Prop where
  detectors : h.detectors = g.detectors
  index : h.index = g.index

namespace SameDetectors

variable {g h k : Geometry}

theorem refl (g : Geometry) : g.SameDetectors g :=
  ⟨rfl, rfl⟩

theorem symm (same : g.SameDetectors h) : h.SameDetectors g :=
  ⟨same.detectors.symm, same.index.symm⟩

theorem trans (first : g.SameDetectors h) (second : h.SameDetectors k) : g.SameDetectors k :=
  ⟨second.detectors.trans first.detectors, second.index.trans first.index⟩

theorem detector_eq_ok (same : g.SameDetectors h) {name : String} {d : Detector} :
    h.detector name = .ok d ↔ g.detector name = .ok d := by
  rw [detector_eq_ok_iff, detector_eq_ok_iff, same.detectors, same.index]

end SameDetectors

/-- An object is attached at the place of the detector, unless the objects there are frozen. -/
theorem attach_eq_ok_iff {g h : Geometry} {d : Detector} {key : String} {object : AttachedObject} :
    g.attach d key object = .ok h ↔
      ∃ p, g.placements[d.slot]? = some p ∧ p.objects.isFrozen = false ∧
        h = { g with
          placements := g.placements.set d.slot
            { p with
              objects := { p.objects with entries := p.objects.entries.insert key object } } } := by
  rw [attach]
  cases g.placements[d.slot]? with
  | none => simp
  | some p =>
    simp only [Placement.attach, ObjectTable.insert]
    cases frozen : p.objects.isFrozen <;> simp [frozen, Except.map, eq_comm (a := h)]

theorem sameDetectors_attach {g h : Geometry} {d : Detector} {key : String}
    {object : AttachedObject} (attached : g.attach d key object = .ok h) : g.SameDetectors h := by
  obtain ⟨p, found, _, rfl⟩ := attach_eq_ok_iff.mp attached
  refine ⟨?_, rfl⟩
  have same : g.detectors[d.slot]? = some p.detector := by
    rw [detectors, List.getElem?_map, found, Option.map_some]
  obtain ⟨within, equal⟩ := List.getElem?_eq_some_iff.mp same
  rw [detectors, List.map_set, ← equal]
  exact List.set_getElem_self within

theorem sameDetectors_use (g : Geometry) (q : ObjectQuestion) : g.SameDetectors (g.use q).2 := by
  cases q with
  | attach d key object =>
    rw [use]
    split
    · rename_i attached
      exact sameDetectors_attach attached
    · exact .refl g
  | detector name => exact .refl g
  | attached d key kind => exact .refl g
  | has d key => exact .refl g

theorem sameDetectors_freezeObjects (g : Geometry) (d : Detector) :
    g.SameDetectors (g.freezeObjects d) := by
  refine ⟨List.ext_getElem? fun place => ?_, rfl⟩
  rw [detectors, detectors, List.getElem?_map, List.getElem?_map, freezeObjects,
    List.getElem?_modify]
  cases g.placements[place]? with
  | none => rfl
  | some p => exact congrArg some ((apply_ite Placement.detector _ _ _).trans (ite_self _))

theorem sameDetectors_freeze (g : Geometry) : g.SameDetectors g.freeze := by
  have loop (h : Geometry) (detectors : List Detector) :
      h.SameDetectors (detectors.foldl freezeObjects h) := by
    induction detectors generalizing h with
    | nil => exact .refl h
    | cons d rest ih => exact (h.sameDetectors_freezeObjects d).trans (ih _)
  exact SameDetectors.trans (h := { g with isSealed := true }) ⟨rfl, rfl⟩ (loop _ g.detectors)

theorem foldl_addDistinct (seen texts : List String) :
    texts.foldl addDistinct seen = seen ++ (texts.filter (· ∉ seen)).eraseDups := by
  induction texts generalizing seen with
  | nil => simp
  | cons text rest ih =>
    rw [List.foldl_cons, ih, addDistinct]
    by_cases known : text ∈ seen
    · simp [known]
    · simp only [known, if_false, List.append_assoc, List.singleton_append, not_false_eq_true,
        decide_true, List.filter_cons_of_pos, List.eraseDups_cons, List.filter_filter]
      congr 3
      refine List.filter_congr fun other _ => ?_
      by_cases same : other = text <;> simp [same]

/-- The model types in use are listed once each, in the order of their first detectors. -/
theorem modelTypes_eq (g : Geometry) :
    g.modelTypes = (g.detectors.map Detector.modelType).eraseDups := by
  rw [modelTypes, foldl_addDistinct, List.nil_append, List.filter_eq_self.mpr]
  simp

end Geometry

namespace Config.Section

/-- The model types that the key `type` of a section lists, if it is set. -/
inductive Restricts (s : Section) : Option (List String) → Prop where
  | free (absent : s.values.find? "type" = none) : Restricts s none
  | listed {raw : String} {names : List String} (present : s.values.find? "type" = some raw)
      (reads : Kind.readText (.list .text) raw = .ok names) : Restricts s (some names)

/-- Whether a restriction lets a model type pass. -/
def passes (types : Option (List String)) (model : String) : Bool :=
  types.all fun names => model ∈ names

/-- The bindings that a section stands for in a scope, each with its detectors: one for a global
module; the detector of the header, or else each detector in the order of the setup that the key
`type` lets pass; each model type in use, in the order of the first detector of each, with all its
detectors. -/
inductive Binds (g : Geometry) (s : Section) : Scope → List (Binding × List Detector) → Prop where
  | global (unqualified : s.detector = none) : Binds g s .global [(.global, [])]
  | named {name : String} {d : Detector} (qualified : s.detector = some name)
      (unrestricted : s.values.find? "type" = none) (found : g.detector name = .ok d) :
      Binds g s .perDetector [(.detector name, [d])]
  | each {types : Option (List String)} (unqualified : s.detector = none)
      (restricted : s.Restricts types) :
      Binds g s .perDetector ((g.detectors.filter (passes types ·.modelType)).map fun d =>
        (.detector d.name, [d]))
  | eachType {types : Option (List String)} (unqualified : s.detector = none)
      (restricted : s.Restricts types) :
      Binds g s .perDetectorType
        (((g.detectors.map Detector.modelType).eraseDups.filter (passes types)).map fun model =>
          (.detectorType model, g.detectors.filter (·.modelType == model)))

theorem Restricts.absent {s : Section} (free : s.Restricts none) :
    s.values.find? "type" = none := by
  cases free
  assumption

theorem restricts_iff (s : Section) (types : Option (List String)) :
    ((Access.read? (.list .text) "type").on s).1 = .ok types ↔ s.Restricts types := by
  rw [Access.on_read?, has, Dictionary.contains, reading]
  cases present : s.values.find? "type" with
  | none =>
    constructor
    · rintro ⟨⟩
      exact .free present
    · rintro (absent | ⟨set, reads⟩)
      · rfl
      · cases present.symm.trans set
  | some raw =>
    constructor
    · intro same
      cases reads : Kind.readText (.list .text) raw with
      | error fault =>
        simp only [reads] at same
        cases same
      | ok names =>
        simp only [reads] at same
        exact Except.ok.inj same ▸ .listed present reads
    · rintro (absent | ⟨set, reads⟩)
      · cases present.symm.trans absent
      · cases present.symm.trans set
        simp only [reads]
        rfl

/-- Binding a section succeeds just with the bindings that it stands for. -/
theorem bindings_eq_ok_iff (scope : Scope) (s : Section) (g : Geometry)
    (bound : List (Binding × List Detector)) :
    (bindings scope s g).1 = .ok bound ↔ s.Binds g scope bound := by
  have restricted := restricts_iff s
  cases scope with
  | global =>
    rw [bindings]
    constructor
    · intro same
      split at same
      · cases same
      · rename_i unqualified
        cases same
        exact .global (Option.not_isSome_iff_eq_none.mp unqualified)
    · rintro ⟨unqualified⟩
      simp [unqualified]
  | perDetectorType =>
    rw [bindings]
    generalize (Access.read? (.list .text) "type").on s = read at restricted ⊢
    obtain ⟨outcome, after⟩ := read
    constructor
    · intro same
      cases outcome with
      | error e => cases same
      | ok types =>
        simp only at same
        split at same
        · cases same
        · rename_i unqualified
          cases same
          rw [Geometry.modelTypes_eq]
          exact .eachType (Option.not_isSome_iff_eq_none.mp unqualified) ((restricted types).mp rfl)
    · rintro (_ | _ | _ | ⟨unqualified, restriction⟩)
      obtain rfl := (restricted _).mpr restriction
      simp only [unqualified, Option.isSome_none, Bool.false_eq_true, if_false]
      rw [Geometry.modelTypes_eq]
      rfl
  | perDetector =>
    rw [bindings]
    generalize (Access.read? (.list .text) "type").on s = read at restricted ⊢
    obtain ⟨outcome, after⟩ := read
    constructor
    · intro same
      cases outcome with
      | error e => cases same
      | ok types =>
        have restriction := (restricted types).mp rfl
        cases qualifier : s.detector with
        | none =>
          simp only [qualifier] at same
          cases same
          exact .each qualifier restriction
        | some name =>
          simp only [qualifier] at same
          split at same
          · cases same
          · rename_i unrestricted
            split at same
            · rename_i found
              cases same
              rw [Option.not_isSome_iff_eq_none.mp unrestricted] at restriction
              exact .named qualifier restriction.absent found
            · cases same
    · rintro (_ | ⟨qualified, unrestricted, found⟩ | ⟨unqualified, restriction⟩)
      · obtain rfl := (restricted none).mpr (.free unrestricted)
        simp only [qualified, found]
        rfl
      · obtain rfl := (restricted _).mpr restriction
        simp only [unqualified]
        rfl

theorem Binds.of_sameDetectors {g h : Geometry} {s : Section} {scope : Scope}
    {bound : List (Binding × List Detector)} (same : g.SameDetectors h)
    (binds : s.Binds g scope bound) : s.Binds h scope bound := by
  cases binds with
  | global unqualified => exact .global unqualified
  | named qualified unrestricted found =>
    exact .named qualified unrestricted (same.detector_eq_ok.mpr found)
  | each unqualified restricted =>
    rw [← same.detectors]
    exact .each unqualified restricted
  | eachType unqualified restricted =>
    rw [← same.detectors]
    exact .eachType unqualified restricted

end Config.Section

end DetectorSim
