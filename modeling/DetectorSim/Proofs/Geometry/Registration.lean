import DetectorSim.Proofs.Geometry.Operations
import Mathlib.Data.List.Nodup

/-! The registry of models and detectors over any history. Names stay unique, the index leads to
each detector, and detectors share the models that are registered; a call that fails changes
nothing. -/

namespace DetectorSim

/-- What a detector was added with. -/
def Detector.request (d : Detector) : String × String × Vector Float 3 × Vector Float 3 :=
  (d.name, d.modelType, d.position, d.orientation)

namespace Geometry

/-- A call that adds a model or a detector. -/
inductive Registration where
  | model (m : DetectorModel)
  | detector (name typeName : String) (position orientation : Vector Float 3)

namespace Registration

/-- The call among all that is done to a setup. -/
def operation : Registration → Operation
  | .model m => .addModel m
  | .detector name typeName position orientation =>
    .addDetector name typeName position orientation

/-- What the call returns. -/
def outcome (g : Geometry) : Registration → Except GeometryError Geometry
  | .model m => g.addModel m
  | .detector name typeName position orientation =>
    g.addDetector name typeName position orientation

/-- The model that the call is to add. -/
def model? : Registration → Option DetectorModel
  | .model m => some m
  | .detector .. => none

/-- What the detector is to be added with. -/
def request? : Registration → Option (String × String × Vector Float 3 × Vector Float 3)
  | .model _ => none
  | .detector name typeName position orientation => some (name, typeName, position, orientation)

/-- The calls that succeed, in order. -/
def accepted (g : Geometry) : List Registration → List Registration
  | [] => []
  | call :: rest =>
    match call.outcome g with
    | .ok h => call :: accepted h rest
    | .error _ => accepted g rest

/-- Why a call fails on a setup: its name is in use, or else there is no model of its type. -/
inductive Fails (g : Geometry) : Registration → GeometryError → Prop where
  | duplicateModel {m : DetectorModel} (used : ∃ other ∈ g.models, other.typeName = m.typeName) :
      Fails g (.model m) (.duplicateModel m.typeName)
  | duplicateDetector {name typeName : String} {position orientation : Vector Float 3}
      (used : ∃ d ∈ g.detectors, d.name = name) :
      Fails g (.detector name typeName position orientation) (.duplicateDetector name)
  | unknownModel {name typeName : String} {position orientation : Vector Float 3}
      (fresh : ∀ d ∈ g.detectors, d.name ≠ name) (unknown : ∀ m ∈ g.models, m.typeName ≠ typeName) :
      Fails g (.detector name typeName position orientation) (.unknownModel name typeName)

end Registration

/-- Type names are unique, the index leads to each detector, and each detector has the model that is
registered in its slot. -/
structure Registered (g : Geometry) : Prop where
  types : (g.models.map DetectorModel.typeName).Nodup
  coherent : g.Coherent
  slots : ∀ d ∈ g.detectors, g.models[d.modelSlot]? = some d.model

theorem registered_empty : empty.Registered :=
  ⟨List.nodup_nil, coherent_empty, List.forall_mem_nil _⟩

namespace Coherent

variable {g : Geometry} {name : String}

/-- Two detectors of one name would be at one place. -/
theorem nodup_names (coherent : g.Coherent) : (g.detectors.map Detector.name).Nodup := by
  rw [List.nodup_iff_getElem?_ne_getElem?]
  intro i j before within same
  rw [List.getElem?_map, List.getElem?_map] at same
  rw [List.length_map] at within
  have second : g.detectors[j]? = some g.detectors[j] := List.getElem?_eq_getElem within
  have first : g.detectors[i]? = some g.detectors[i] :=
    List.getElem?_eq_getElem (Nat.lt_trans before within)
  rw [first, second, Option.map_some, Option.map_some, Option.some.injEq] at same
  have leads := (coherent_iff g).mp coherent g.detectors[j].name
  have here := (leads i).mpr ⟨_, first, same⟩
  have there := (leads j).mpr ⟨_, second, rfl⟩
  rw [here, Option.some.injEq] at there
  omega

theorem detector_eq_ok_iff_mem (coherent : g.Coherent) {d : Detector} :
    g.detector name = .ok d ↔ d ∈ g.detectors ∧ d.name = name := by
  have leads := (coherent_iff g).mp coherent name
  rw [detector_eq_ok_iff, Option.bind_eq_some_iff]
  constructor
  · rintro ⟨slot, indexed, present⟩
    obtain ⟨other, there, named⟩ := (leads slot).mp indexed
    rw [present, Option.some.injEq] at there
    subst there
    exact ⟨List.mem_of_getElem? present, named⟩
  · rintro ⟨member, named⟩
    obtain ⟨slot, present⟩ := List.getElem?_of_mem member
    exact ⟨slot, (leads slot).mpr ⟨d, present, named⟩, present⟩

theorem hasDetector_iff_mem (coherent : g.Coherent) :
    g.hasDetector name = true ↔ ∃ d ∈ g.detectors, d.name = name := by
  have leads := (coherent_iff g).mp coherent name
  rw [hasDetector, Dictionary.contains, Option.isSome_iff_exists]
  constructor
  · rintro ⟨slot, indexed⟩
    obtain ⟨d, present, named⟩ := (leads slot).mp indexed
    exact ⟨d, List.mem_of_getElem? present, named⟩
  · rintro ⟨d, member, named⟩
    obtain ⟨slot, present⟩ := List.getElem?_of_mem member
    exact ⟨slot, (leads slot).mpr ⟨d, present, named⟩⟩

end Coherent

namespace Registered

variable {g h : Geometry}

theorem addModel {m : DetectorModel} (registered : g.Registered) (added : g.addModel m = .ok h) :
    h.Registered := by
  have coherent := registered.coherent
  obtain ⟨_, fresh, rfl⟩ := addModel_eq_ok added
  refine ⟨?_, coherent, fun d member => ?_⟩
  · rw [List.map_append, List.map_singleton, ← List.concat_eq_append]
    refine registered.types.concat fun used => ?_
    obtain ⟨other, member, same⟩ := List.mem_map.mp used
    exact fresh other member same
  · have slot := registered.slots d member
    rw [List.getElem?_append_left (List.getElem?_eq_some_iff.mp slot).1]
    exact slot

theorem addDetector {name typeName : String} {position orientation : Vector Float 3}
    (registered : g.Registered)
    (added : g.addDetector name typeName position orientation = .ok h) : h.Registered := by
  have coherent := registered.coherent.addDetector added
  obtain ⟨_, _, d, fits, rfl⟩ := addDetector_eq_ok added
  refine ⟨registered.types, coherent, fun other member => ?_⟩
  rw [detectors, List.map_append] at member
  rcases List.mem_append.mp member with before | last
  · exact registered.slots other before
  · rw [List.mem_singleton.mp last]
    exact fits.registered

theorem of_sameDetectors (registered : g.Registered) (same : g.SameDetectors h)
    (models : h.models = g.models) : h.Registered where
  types := models ▸ registered.types
  coherent := registered.coherent.of_sameDetectors same
  slots := by
    rw [models, same.detectors]
    exact registered.slots

theorem change {operation : Operation} (registered : g.Registered)
    (change : g.Change operation h) : h.Registered := by
  cases change with
  | none => exact registered
  | model added => exact registered.addModel added
  | detector added => exact registered.addDetector added
  | object attached =>
    refine registered.of_sameDetectors (sameDetectors_attach attached) ?_
    obtain ⟨_, _, _, rfl⟩ := attach_eq_ok_iff.mp attached
    rfl
  | frozen => exact registered.of_sameDetectors g.sameDetectors_freeze g.models_freeze

theorem after_empty (history : List Operation) : (empty.after history).Registered :=
  after_keeps (fun changed registered => registered.change changed) registered_empty history

theorem sameSlot (registered : g.Registered) {d e : Detector} (first : d ∈ g.detectors)
    (second : e ∈ g.detectors) (same : d.modelType = e.modelType) : d.modelSlot = e.modelSlot := by
  have one := registered.slots d first
  have other := registered.slots e second
  have within := (List.getElem?_eq_some_iff.mp one).1
  refine (List.getElem?_inj (by simpa using within) registered.types).mp ?_
  rw [List.getElem?_map, List.getElem?_map, one, other]
  exact congrArg some same

end Registered

section Refusing

variable {g : Geometry} {e : GeometryError} {name typeName : String}
  {position orientation : Vector Float 3}

theorem addModel_eq_error_iff (unsealed : g.isSealed = false) {m : DetectorModel} :
    g.addModel m = .error e ↔
      (∃ other ∈ g.models, other.typeName = m.typeName) ∧ e = .duplicateModel m.typeName := by
  have used : (g.model? m.typeName).isSome = true ↔
      ∃ other ∈ g.models, other.typeName = m.typeName := by
    simp [model?]
  rw [addModel, if_neg (Bool.eq_false_iff.mp unsealed), ← used]
  split
  · rename_i present
    rw [Except.error.injEq, and_iff_right present, eq_comm]
  · rename_i absent
    exact iff_of_false (fun same => by cases same) fun refused => absent refused.1

/-- A name in use is reported before an unknown model type. -/
theorem Coherent.addDetector_eq_error_iff (coherent : g.Coherent) (unsealed : g.isSealed = false) :
    g.addDetector name typeName position orientation = .error e ↔
      (∃ d ∈ g.detectors, d.name = name) ∧ e = .duplicateDetector name ∨
      (∀ d ∈ g.detectors, d.name ≠ name) ∧ (∀ m ∈ g.models, m.typeName ≠ typeName) ∧
        e = .unknownModel name typeName := by
  have fresh : (∀ d ∈ g.detectors, d.name ≠ name) ↔ ¬∃ d ∈ g.detectors, d.name = name := by
    simp
  rw [Geometry.addDetector, if_neg (Bool.eq_false_iff.mp unsealed), fresh,
    ← coherent.hasDetector_iff_mem]
  split
  · rename_i present
    simp [present, eq_comm]
  · rename_i absent
    rw [iff_false_intro absent, false_and, false_or, and_iff_right id]
    cases search : g.models.findFinIdx? (·.typeName == typeName) with
    | none =>
      have unknown : ∀ m ∈ g.models, m.typeName ≠ typeName := by
        simpa using List.findFinIdx?_eq_none_iff.mp search
      rw [and_iff_right unknown, Except.error.injEq, eq_comm]
    | some slot =>
      have found := (List.findFinIdx?_eq_some_iff.mp search).1
      refine iff_of_false (fun same => by cases same) fun refused => ?_
      exact refused.1 _ (List.getElem_mem _) (beq_iff_eq.mp found)

end Refusing

namespace Registration

variable {g h : Geometry}

theorem perform_operation (g : Geometry) (call : Registration) :
    g.perform call.operation = (call.outcome g).toOption.getD g := by
  cases call <;> rfl

theorem isSealed_after (calls : List Registration) :
    (empty.after (calls.map operation)).isSealed = false := by
  rw [Geometry.isSealed_after, List.any_map]
  refine (Bool.false_or _).trans (List.any_eq_false.mpr fun call _ => ?_)
  cases call <;> exact Bool.false_ne_true

/-- What a call leaves behind: what it was to add stands behind what was there. -/
structure Adds (g h : Geometry) (call : Registration) : Prop where
  models : h.models = g.models ++ call.model?.toList
  detectors : ∃ added, h.detectors = g.detectors ++ added ∧
    added.map Detector.request = call.request?.toList

theorem adds_of_ok {call : Registration} (made : call.outcome g = .ok h) : Adds g h call := by
  cases call with
  | model m =>
    obtain ⟨_, _, rfl⟩ := addModel_eq_ok made
    exact ⟨rfl, [], (List.append_nil _).symm, rfl⟩
  | detector name typeName position orientation =>
    obtain ⟨_, _, d, fits, rfl⟩ := addDetector_eq_ok made
    refine ⟨(List.append_nil _).symm, [d], List.map_append, ?_⟩
    rw [List.map_singleton, Detector.request, fits.name, fits.type, fits.position, fits.orientation]
    rfl

/-- On a setup that is not sealed, a call fails for the reasons in `Fails` and no others. -/
theorem outcome_eq_error_iff (coherent : g.Coherent) (unsealed : g.isSealed = false)
    (call : Registration) {e : GeometryError} : call.outcome g = .error e ↔ Fails g call e := by
  cases call with
  | model m =>
    rw [outcome, addModel_eq_error_iff unsealed]
    constructor
    · rintro ⟨used, rfl⟩
      exact .duplicateModel used
    · rintro ⟨used⟩
      exact ⟨used, rfl⟩
  | detector name typeName position orientation =>
    rw [outcome, coherent.addDetector_eq_error_iff unsealed]
    constructor
    · rintro (⟨used, rfl⟩ | ⟨fresh, unknown, rfl⟩)
      · exact .duplicateDetector used
      · exact .unknownModel fresh unknown
    · intro fails
      cases fails with
      | duplicateDetector used => exact .inl ⟨used, rfl⟩
      | unknownModel fresh unknown => exact .inr ⟨fresh, unknown, rfl⟩

/-- Models and detectors stand in the order of the calls that succeeded. -/
theorem after_calls (g : Geometry) (calls : List Registration) :
    (g.after (calls.map operation)).models =
        g.models ++ (accepted g calls).filterMap Registration.model? ∧
      (g.after (calls.map operation)).detectors.map Detector.request =
        g.detectors.map Detector.request ++ (accepted g calls).filterMap request? := by
  induction calls generalizing g with
  | nil => exact ⟨(List.append_nil _).symm, (List.append_nil _).symm⟩
  | cons call rest ih =>
    have performed := perform_operation g call
    rw [List.map_cons, after, List.foldl_cons, ← after, accepted]
    cases made : call.outcome g with
    | error e =>
      rw [made] at performed
      rw [performed]
      exact ih g
    | ok next =>
      rw [made] at performed
      rw [performed]
      obtain ⟨models, added, detectors, requests⟩ := adds_of_ok made
      obtain ⟨behind, others⟩ := ih next
      constructor
      · refine behind.trans ?_
        rw [models, List.append_assoc]
        cases call <;> rfl
      · refine others.trans ?_
        rw [detectors, List.map_append, requests, List.append_assoc]
        cases call <;> rfl

end Registration

/-- After any calls on a new setup, successful or not, names of model types and of detectors are
unique, the index leads from each name to its detector, and detectors of one type share its
registered model. Models and detectors stand in the order of the calls that succeeded. The next call
fails just for a name in use or else an unknown model type; then it changes nothing. -/
theorem registry_stays_consistent (calls : List Registration) :
    let g := empty.after (calls.map Registration.operation)
    (g.models.map DetectorModel.typeName).Nodup ∧ (g.detectors.map Detector.name).Nodup ∧
      (∀ name slot, g.index.find? name = some slot ↔
        ∃ d, g.detectors[slot]? = some d ∧ d.name = name) ∧
      (∀ name d, g.detector name = .ok d ↔ d ∈ g.detectors ∧ d.name = name) ∧
      (∀ name, g.hasDetector name = (g.detector name).toBool) ∧
      (∀ d ∈ g.detectors, g.models[d.modelSlot]? = some d.model) ∧
      (∀ d ∈ g.detectors, ∀ e ∈ g.detectors, d.modelType = e.modelType →
        d.modelSlot = e.modelSlot) ∧
      g.models = (Registration.accepted empty calls).filterMap Registration.model? ∧
      g.detectors.map Detector.request =
        (Registration.accepted empty calls).filterMap Registration.request? ∧
      ∀ call : Registration,
        (∀ e, call.outcome g = .error e ↔ Registration.Fails g call e) ∧
          (∀ e, call.outcome g = .error e → g.perform call.operation = g) ∧
          ∀ h, call.outcome g = .ok h →
            g.perform call.operation = h ∧ Registration.Adds g h call := by
  intro g
  have registered : g.Registered := .after_empty _
  have coherent := registered.coherent
  obtain ⟨models, requests⟩ := Registration.after_calls empty calls
  refine ⟨registered.types, coherent.nodup_names, (coherent_iff g).mp coherent,
    fun name d => coherent.detector_eq_ok_iff_mem, fun name => ?_, registered.slots,
    fun d first e second same => registered.sameSlot first second same, models, requests,
    fun call => ⟨fun e => ?_, fun e failed => ?_, fun h made => ⟨?_, ?_⟩⟩⟩
  · rw [Bool.eq_iff_iff, coherent.hasDetector_iff_mem]
    constructor
    · rintro ⟨d, found⟩
      rw [coherent.detector_eq_ok_iff_mem.mpr found]
      rfl
    · intro found
      cases answer : g.detector name with
      | error e =>
        rw [answer] at found
        cases found
      | ok d => exact ⟨d, coherent.detector_eq_ok_iff_mem.mp answer⟩
  · exact Registration.outcome_eq_error_iff coherent (Registration.isSealed_after calls) call
  · rw [Registration.perform_operation, failed]
    rfl
  · rw [Registration.perform_operation, made]
    rfl
  · exact Registration.adds_of_ok made

/-- A model is added twice, a detector of a missing type once, and a detector under the name of
another; three of these calls fail. -/
theorem failed_calls_leave_two_planes :
    let alpide : DetectorModel := ⟨"alpide", 8, 4, .replicate 2 0, 0, .monolithic⟩
    let placed (name typeName : String) : Registration :=
      .detector name typeName (.replicate 3 0) (.replicate 3 0)
    let calls := [.model alpide, .model alpide, placed "plane0" "alpide",
      placed "plane1" "timepix", placed "plane0" "timepix", placed "plane1" "alpide"]
    let g := empty.after (calls.map Registration.operation)
    g.models = [alpide] ∧ g.detectors.map Detector.name = ["plane0", "plane1"] ∧
      (∃ d ∈ g.detectors, g.detector "plane1" = .ok d) ∧
      (placed "plane0" "timepix").outcome g = .error (.duplicateDetector "plane0") ∧
      (placed "dut" "timepix").outcome g = .error (.unknownModel "dut" "timepix") ∧
      g.perform (placed "dut" "timepix").operation = g := by
  intro alpide placed calls g
  obtain ⟨_, _, _, leads, _, _, _, models, _, next⟩ := registry_stays_consistent calls
  have only : g.models = [alpide] := models.trans rfl
  have named : g.detectors.map Detector.name = ["plane0", "plane1"] := by decide +kernel
  obtain ⟨d, member, same⟩ : ∃ d ∈ g.detectors, d.name = "plane1" := by
    rw [← List.mem_map, named]
    exact List.mem_of_mem_tail (List.mem_singleton_self _)
  have repeated := (next (placed "plane0" "timepix")).1 (.duplicateDetector "plane0")
  obtain ⟨unknown, unchanged, _⟩ := next (placed "dut" "timepix")
  have refused := (unknown (.unknownModel "dut" "timepix")).mpr (.unknownModel ?_ ?_)
  · refine ⟨only, named, ⟨d, member, (leads "plane1" d).mpr ⟨member, same⟩⟩, ?_, refused,
      unchanged _ refused⟩
    refine repeated.mpr (.duplicateDetector ?_)
    rw [← List.mem_map, named]
    exact List.mem_cons_self
  · intro other present
    have listed := List.mem_map_of_mem (f := Detector.name) present
    rw [named] at listed
    intro same
    rw [same] at listed
    revert listed
    decide
  · intro m present
    rw [only] at present
    rw [List.mem_singleton.mp present]
    decide

end Geometry

end DetectorSim
