import DetectorSim.Proofs.Geometry.Registration
import DetectorSim.Proofs.Grouping

/-! The model types in use. The loop that collects them lists each at its first detector, and the
detectors of the types are all detectors, each once. -/

namespace DetectorSim

namespace Geometry

/-- Every text of a list is listed once, in the order of its first places. -/
structure ListsOnce (texts listed : List String) : Prop where
  nodup : listed.Nodup
  mem_iff : ∀ text, text ∈ listed ↔ text ∈ texts
  ordered : listed.Pairwise fun s t => texts.idxOf s < texts.idxOf t

/-- A text that is new has its first place behind those of all others. -/
theorem ListsOnce.addDistinct {texts listed : List String} (once : ListsOnce texts listed)
    (text : String) : ListsOnce (texts ++ [text]) (addDistinct listed text) := by
  have ordered : listed.Pairwise fun s t =>
      (texts ++ [text]).idxOf s < (texts ++ [text]).idxOf t := by
    refine once.ordered.imp_of_mem fun first second before => ?_
    rwa [List.idxOf_append_of_mem ((once.mem_iff _).mp first),
      List.idxOf_append_of_mem ((once.mem_iff _).mp second)]
  rw [Geometry.addDistinct]
  by_cases known : text ∈ listed
  · rw [if_pos known]
    refine ⟨once.nodup, fun other => ?_, ordered⟩
    rw [once.mem_iff, List.mem_append, List.mem_singleton]
    refine ⟨.inl, Or.rec id ?_⟩
    rintro rfl
    exact (once.mem_iff other).mp known
  · rw [if_neg known]
    have absent : text ∉ texts := mt (once.mem_iff text).mpr known
    refine ⟨?_, fun other => ?_, ?_⟩
    · rw [← List.concat_eq_append]
      exact once.nodup.concat known
    · rw [List.mem_append, once.mem_iff, List.mem_append]
    · refine List.pairwise_append.mpr ⟨ordered, List.pairwise_singleton .., ?_⟩
      intro other member last same
      rw [List.mem_singleton.mp same, List.idxOf_append_of_mem ((once.mem_iff other).mp member),
        List.idxOf_append_of_notMem absent]
      exact Nat.lt_add_right _ (List.idxOf_lt_length_of_mem ((once.mem_iff other).mp member))

theorem listsOnce_modelTypes (g : Geometry) :
    ListsOnce (g.detectors.map Detector.modelType) g.modelTypes := by
  rw [modelTypes]
  generalize g.detectors.map Detector.modelType = types
  induction types using List.reverseRecOn with
  | nil => exact ⟨.nil, fun _ => .rfl, .nil⟩
  | append_singleton types last ih =>
    rw [List.foldl_append]
    exact ih.addDistinct last

variable {g : Geometry}

theorem mem_modelTypes {typeName : String} :
    typeName ∈ g.modelTypes ↔ ∃ d ∈ g.detectors, d.modelType = typeName := by
  rw [g.listsOnce_modelTypes.mem_iff, List.mem_map]

/-- Model types stand in the order of their first detectors. -/
theorem modelTypes_ordered (g : Geometry) :
    g.modelTypes.Pairwise fun s t =>
      g.detectors.findIdx (·.modelType == s) < g.detectors.findIdx (·.modelType == t) := by
  refine g.listsOnce_modelTypes.ordered.imp fun {s t} before => ?_
  rwa [List.idxOf, List.idxOf, List.findIdx_map, List.findIdx_map] at before

theorem mem_detectorsOfType {typeName : String} {d : Detector} :
    d ∈ g.detectorsOfType typeName ↔ d ∈ g.detectors ∧ d.modelType = typeName := by
  rw [detectorsOfType, List.mem_filter, beq_iff_eq]

theorem detectorsOfType_ne_nil {typeName : String} (used : typeName ∈ g.modelTypes) :
    g.detectorsOfType typeName ≠ [] := by
  obtain ⟨d, member, type⟩ := mem_modelTypes.mp used
  exact List.ne_nil_of_mem (mem_detectorsOfType.mpr ⟨member, type⟩)

theorem disjoint_detectorsOfType {s t : String} (apart : s ≠ t) :
    (g.detectorsOfType s).Disjoint (g.detectorsOfType t) := by
  intro d first second
  exact apart ((mem_detectorsOfType.mp first).2.symm.trans (mem_detectorsOfType.mp second).2)

theorem detectorsOfType_perm (g : Geometry) :
    (g.modelTypes.flatMap g.detectorsOfType).Perm g.detectors :=
  flatMap_groups_perm Detector.modelType g.listsOnce_modelTypes.nodup fun d member =>
    mem_modelTypes.mpr ⟨d, member, rfl⟩

end Geometry

end DetectorSim
