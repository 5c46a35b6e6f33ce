import DetectorSim.Proofs.Geometry.Types
import DetectorSim.Proofs.Pipeline.Instantiation

/-! Instances of module types that have one for each model type in use. They share the detectors of
the setup out among them. -/

namespace DetectorSim

open Config

variable {σ ω β : Type} {registry : Registry σ ω} {g : Geometry}

namespace Instance

/-- Instances fill the slots that sections stand for. -/
def StandFor (registry : Registry σ ω) (g : Geometry) (sections : List Section)
    (instances : List (Instance β)) : Prop :=
  ∃ parts, List.Forall₂ (Section.Expands registry g) sections parts ∧
    List.Forall₂ Instance.Fills instances parts.flatten

/-- An instance is the one of its module type for a model type, with all detectors of that type. -/
structure IsFor (type : ModuleType σ ω) (g : Geometry) (i : Instance β) (model : String) :
    Prop where
  identifier : i.identifier = ⟨type.name, .detectorType model⟩
  detectors : i.detectors = g.detectorsOfType model

theorem StandFor.eq_nil {instances : List (Instance β)}
    (standFor : StandFor registry g [] instances) : instances = [] := by
  obtain ⟨_, expanded, filled⟩ := standFor
  cases expanded
  cases filled
  rfl

/-- The instances of one section stand between those of the sections before and behind it. -/
theorem StandFor.around {before later : List Section} {s : Section} {slots : List (Slot σ ω)}
    {instances : List (Instance β)}
    (standFor : StandFor registry g (before ++ s :: later) instances)
    (expands : s.Expands registry g slots) : ∃ first mine last, instances = first ++ mine ++ last ∧
      StandFor registry g before first ∧ List.Forall₂ Instance.Fills mine slots ∧
        StandFor registry g later last := by
  obtain ⟨parts, expanded, filled⟩ := standFor
  obtain ⟨earlier, rest, rfl, first, others⟩ := exists_beside_append expanded.flip
  obtain _ | ⟨expands', behind⟩ := others
  cases expands.unique expands'
  rw [List.flatten_append, List.flatten_cons] at filled
  obtain ⟨one, more, rfl, fillsFirst, others⟩ := exists_beside_append filled
  obtain ⟨mine, last, rfl, fillsMine, fillsLast⟩ := exists_beside_append others
  exact ⟨one, mine, last, (List.append_assoc ..).symm, ⟨_, first.flip, fillsFirst⟩, fillsMine,
    _, behind.flip, fillsLast⟩

end Instance

namespace Config.Section

variable {s : Section} {types : Option (List String)} {type : ModuleType σ ω}

/-- A section of a module type with an instance for each model type has a slot for each model type
that it lets pass. -/
theorem expands_modelTypes (resolved : registry.resolve s.name = .ok type)
    (scope : type.scope = .perDetectorType) (unqualified : s.detector = none)
    (restricted : s.Restricts types) :
    s.Expands registry g ((g.modelTypes.filter (passes types)).map fun model =>
      ⟨type, .detectorType model, g.detectorsOfType model⟩) := by
  have binds := Binds.eachType (g := g) unqualified restricted
  rw [← scope, ← Geometry.modelTypes_eq] at binds
  have expands := Expands.intro resolved binds
  rwa [List.map_map] at expands

end Config.Section

namespace Instance

variable {type : ModuleType σ ω}

theorem isFor_of_fills {models : List String} {instances : List (Instance β)}
    (filled : List.Forall₂ Instance.Fills instances
      (models.map fun model => ⟨type, .detectorType model, g.detectorsOfType model⟩)) :
    List.Forall₂ (IsFor type g) instances models := by
  rw [List.forall₂_map_right_iff] at filled
  exact filled.imp fun i model fills => ⟨fills.identifier, fills.detectors⟩

theorem flatMap_detectors {models : List String} {instances : List (Instance β)}
    (share : List.Forall₂ (IsFor type g) instances models) :
    instances.flatMap (·.detectors) = models.flatMap g.detectorsOfType := by
  induction share with
  | nil => rfl
  | cons isFor _ ih => rw [List.flatMap_cons, List.flatMap_cons, isFor.detectors, ih]

/-- On a setup after any calls, the model types in use are listed once each, in the order of their
first detectors, and their detectors are a partition of all detectors. The instances of a module
type that has one for each model type hold these detectors; the key `type` leaves the instances of
the types that it lists. Nothing but a constructor keeps such a section from having them. -/
theorem type_instances_partition_detectors (registry : Registry σ ω)
    (calls : List Geometry.Registration) :
    let g := Geometry.empty.after (calls.map Geometry.Registration.operation)
    (g.modelTypes.Nodup ∧ (∀ model, model ∈ g.modelTypes ↔ ∃ d ∈ g.detectors, d.modelType = model) ∧
      g.modelTypes.Pairwise fun m n =>
        g.detectors.findIdx (·.modelType == m) < g.detectors.findIdx (·.modelType == n)) ∧
    ((g.detectors.map Detector.name).Nodup ∧
      (∀ model ∈ g.modelTypes, g.detectorsOfType model ≠ []) ∧
      (∀ model, (g.detectorsOfType model).Sublist g.detectors) ∧
      (g.modelTypes.Pairwise fun m n => (g.detectorsOfType m).Disjoint (g.detectorsOfType n)) ∧
      (g.modelTypes.flatMap g.detectorsOfType).Perm g.detectors) ∧
    ∀ (s : Section) (type : ModuleType σ ω) (types : Option (List String)),
      registry.resolve s.name = .ok type → type.scope = .perDetectorType → s.detector = none →
      s.Restricts types → ∀ (a : SetupState ω) (τ : Type)
        (answers : Interaction.Answers fileInterface τ) (files : τ), a.geometry = g →
      (∀ before later instances,
        ((instantiate registry (before ++ s :: later)).resultFrom a answers files).1 =
          .ok instances →
        ∃ first mine last, instances = first ++ mine ++ last ∧ StandFor registry g before first ∧
          StandFor registry g later last ∧
          (types = none → List.Forall₂ (IsFor type g) mine g.modelTypes ∧
            (mine.flatMap (·.detectors)).Perm g.detectors) ∧
          ∀ names, types = some names →
            List.Forall₂ (IsFor type g) mine (g.modelTypes.filter (· ∈ names))) ∧
      ∀ e, ((instantiate registry [s]).resultFrom a answers files).1 = .error e →
        ∃ owner fault, e = .construction owner fault := by
  intro g
  have once := g.listsOnce_modelTypes
  have registered : g.Registered := .after_empty _
  refine ⟨⟨once.nodup, fun model => Geometry.mem_modelTypes, g.modelTypes_ordered⟩,
    ⟨registered.coherent.nodup_names, fun model => Geometry.detectorsOfType_ne_nil,
      fun model => List.filter_sublist, once.nodup.imp Geometry.disjoint_detectorsOfType,
      g.detectorsOfType_perm⟩, ?_⟩
  intro s type types resolved scope unqualified restricted a τ answers files here
  have expands := Section.expands_modelTypes (g := g) resolved scope unqualified restricted
  constructor
  · intro before later instances made
    obtain ⟨parts, expanded, valid⟩ := (instantiate_leads registry _ a).ok made
    rw [here] at expanded
    obtain ⟨first, mine, last, rfl, earlier, filled, behind⟩ :=
      StandFor.around ⟨parts, expanded, valid.filled⟩ expands
    have share := isFor_of_fills filled
    refine ⟨first, mine, last, rfl, earlier, behind, ?_, ?_⟩
    · rintro rfl
      have all : g.modelTypes.filter (Section.passes none) = g.modelTypes :=
        List.filter_eq_self.mpr fun _ _ => rfl
      rw [all] at share
      refine ⟨share, ?_⟩
      rw [flatMap_detectors share]
      exact g.detectorsOfType_perm
    · rintro names rfl
      exact share
  · intro e failed
    obtain ⟨_, refused⟩ := (instantiate_leads registry [s] a).error failed
    rw [here] at refused
    cases refused _ (.cons expands .nil) with
    | refused owner fault => exact ⟨owner, fault, rfl⟩
    | @repeated first rest slot split distinct member =>
      -- each model type has one slot
      have identifiers := (once.nodup.filter (Section.passes types)).map
        (f := fun model => (⟨type.name, .detectorType model⟩ : Identifier)) fun m n same => by
          cases same
          rfl
      rw [List.flatten_singleton] at split
      have listed := congrArg (List.map Slot.identifier) split
      rw [List.map_map, List.map_append, List.map_cons] at listed
      exact absurd rfl ((List.nodup_append.mp (listed ▸ identifiers)).2.2 _ member _
        List.mem_cons_self)

private def calibration : ModuleType Unit Unit :=
  ⟨"Calibration", .perDetectorType, true, fun _ =>
    pure (Module.blueprint ⟨(), fun _ => pure (), fun _ => pure ()⟩)⟩

/-- A detector of another model stands between two planes. -/
theorem planes_and_dut_are_shared_out :
    let model (name : String) : Geometry.Registration :=
      .model ⟨name, 8, 4, .replicate 2 0, 0, .monolithic⟩
    let placed (name typeName : String) : Geometry.Registration :=
      .detector name typeName (.replicate 3 0) (.replicate 3 0)
    let calls := [model "timepix", model "alpide", placed "plane0" "alpide",
      placed "dut" "timepix", placed "plane1" "alpide"]
    let g := Geometry.empty.after (calls.map Geometry.Registration.operation)
    let ended (s : Section) := ((instantiate ⟨[calibration]⟩ [s]).resultFrom (.start g)
      FileTree.answers ⟨[]⟩).1
    g.modelTypes = ["alpide", "timepix"] ∧
      (∃ all, ended (.new "Calibration" none) = .ok all ∧
        all.map (·.detectors.map Detector.name) = [["plane0", "plane1"], ["dut"]] ∧
        (all.flatMap (·.detectors)).Perm g.detectors) ∧
      ∃ some, ended ((Section.new "calibration" none).set "type" "timepix") = .ok some ∧
        List.Forall₂ (IsFor calibration g) some ["timepix"] := by
  intro model placed calls g ended
  have shares := (type_instances_partition_detectors ⟨[calibration]⟩ calls).2.2
  have types : g.modelTypes = ["alpide", "timepix"] := by decide +kernel
  have seen : (ended (.new "Calibration" none)).map (List.map (·.detectors.map Detector.name)) =
      .ok [["plane0", "plane1"], ["dut"]] := by decide +kernel
  have seen' : (ended ((Section.new "calibration" none).set "type" "timepix")).map List.length =
      .ok 1 := by decide +kernel
  obtain ⟨all, made, names⟩ := ok_of_map seen
  obtain ⟨some, made', _⟩ := ok_of_map seen'
  obtain ⟨first, mine, last, rfl, before, later, partition, _⟩ :=
    (shares (.new "Calibration" none) calibration _ rfl rfl rfl (.free rfl) (.start g) _
      FileTree.answers ⟨[]⟩ rfl).1 [] [] _ made
  obtain ⟨first', mine', last', rfl, before', later', _, restricted⟩ :=
    (shares ((Section.new "calibration" none).set "type" "timepix") calibration _ rfl rfl rfl
      (.listed rfl rfl) (.start g) _ FileTree.answers ⟨[]⟩ rfl).1 [] [] _ made'
  cases before.eq_nil
  cases later.eq_nil
  cases before'.eq_nil
  cases later'.eq_nil
  rw [List.nil_append, List.append_nil] at made made' names
  have listed : g.modelTypes.filter (· ∈ ["timepix"]) = ["timepix"] := by
    rw [types]
    decide
  exact ⟨types, ⟨mine, made, names, (partition rfl).2⟩, mine', made', listed ▸ restricted _ rfl⟩

end Instance

end DetectorSim
