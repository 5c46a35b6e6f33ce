import DetectorSim.Geometry.Setup
import DetectorSim.Proofs.Config.Access
import DetectorSim.Proofs.Decimal.Comparison
import DetectorSim.Proofs.Geometry.Registration

/-! What sections of detector models say. A model is read exactly from the sections that describe it,
and every detector of a configured setup has a model that some section describes; so no matrix is
empty. -/

namespace DetectorSim

open Config

namespace DetectorModel

/-- The section describes the model. Its matrix has pixels along both axes; its pitch is not at or
below zero, which a number that compares with nothing is not either. -/
structure DescribedBy (m : DetectorModel) (s : Section) : Prop where
  name : m.typeName = s.name
  assembly : (readAssembly.on s).1 = .ok m.assembly
  matrix : ∃ pixels : Vector IntegerType.u32.Carrier 2,
    s.reading (.array 2 .u32) "number_of_pixels" = .ok pixels ∧ (∀ n ∈ pixels, n.val ≠ 0) ∧
      m.columns = UInt32.ofNat (pixels.get 0).val.toNat ∧
      m.rows = UInt32.ofNat (pixels.get 1).val.toNat
  pitch : s.reading (.array 2 .float64) "pixel_size" = .ok m.pitch
  extent : ∀ p ∈ m.pitch, 0.0 < p ∨ p.isNaN = true
  thickness : s.reading .float64 "sensor_thickness" = .ok m.thickness

theorem onlyMarks_readAssembly : readAssembly.OnlyMarks := by
  refine Access.onlyMarks_bind (Access.onlyMarks_choice _ _) fun kind => ?_
  split
  · refine Access.onlyMarks_bind (Access.onlyMarks_read _ _) fun chip => ?_
    refine Access.onlyMarks_bind (Access.onlyMarks_readOr _ _ _) fun bump => ?_
    exact Access.onlyMarks_pure _
  · exact Access.onlyMarks_pure _

theorem outcome_read (s : Section) :
    (read.on s).1 = (readAssembly.on s).1.bind fun assembly =>
      (s.reading (.array 2 .u32) "number_of_pixels").bind
        fun pixels : Vector IntegerType.u32.Carrier 2 =>
      if pixels.any (·.val == 0) = true then
        .error (.unacceptable s.identifier "number_of_pixels" .emptyMatrix)
      else (s.reading (.array 2 .float64) "pixel_size").bind fun pitch : Vector Float 2 =>
      if pitch.any (· ≤ 0.0) = true then
        .error (.unacceptable s.identifier "pixel_size" .pitchNotPositive)
      else (s.reading .float64 "sensor_thickness").bind fun thickness : Float =>
        .ok ⟨s.name, UInt32.ofNat (pixels.get 0).val.toNat,
          UInt32.ofNat (pixels.get 1).val.toNat, pitch, thickness, assembly⟩ := by
  obtain ⟨keys, marked⟩ := onlyMarks_readAssembly s
  generalize first : readAssembly.on s = assembled at marked ⊢
  obtain ⟨outcome, after⟩ := assembled
  subst marked
  refine (Access.outcome_bind first).trans (congrArg _ (funext fun assembly => ?_))
  refine (Access.outcome_bind (Access.on_read ..)).trans ?_
  rw [Section.reading_foldl_mark]
  refine congrArg _ (funext fun pixels => ?_)
  refine Access.outcome_unless.trans ?_
  rw [Section.identifier_mark, Section.identifier_foldl_mark]
  refine if_congr Iff.rfl rfl ((Access.outcome_bind (Access.on_read ..)).trans ?_)
  rw [Section.reading_mark, Section.reading_foldl_mark]
  refine congrArg _ (funext fun pitch => ?_)
  refine Access.outcome_unless.trans ?_
  rw [Section.identifier_mark, Section.identifier_mark, Section.identifier_foldl_mark]
  refine if_congr Iff.rfl rfl ((Access.outcome_bind (Access.on_read ..)).trans ?_)
  rw [Section.reading_mark, Section.reading_mark, Section.reading_foldl_mark]
  refine congrArg _ (funext fun thickness => ?_)
  have name : ((((keys.foldl Section.mark s).mark "number_of_pixels").mark "pixel_size").mark
      "sensor_thickness").name = s.name := by
    rw [Section.name_mark, Section.name_mark, Section.name_mark, Section.name_foldl_mark]
  exact congrArg (fun name => Except.ok (DetectorModel.mk name _ _ _ _ _)) name

theorem has_pixels_iff (pixels : Vector IntegerType.u32.Carrier 2) :
    ¬pixels.any (·.val == 0) = true ↔ ∀ n ∈ pixels, n.val ≠ 0 := by
  simp only [Vector.any_eq_true', beq_iff_eq, not_exists, not_and, ne_eq]

theorem has_extent_iff (pitch : Vector Float 2) :
    ¬pitch.any (· ≤ 0.0) = true ↔ ∀ p ∈ pitch, 0.0 < p ∨ p.isNaN = true := by
  simp only [Vector.any_eq_true', decide_eq_true_iff, not_exists, not_and, Decimal.not_le_zero_iff]

/-- A model is read exactly from the sections that describe it. -/
theorem read_eq_ok_iff {s : Section} {m : DetectorModel} :
    (read.on s).1 = .ok m ↔ m.DescribedBy s := by
  rw [outcome_read]
  constructor
  · intro read
    obtain ⟨assembly, assembled, read⟩ := bind_eq_ok_iff.mp read
    obtain ⟨pixels, counted, read⟩ := bind_eq_ok_iff.mp read
    obtain ⟨inhabited, read⟩ := refused_or_iff.mp read
    obtain ⟨pitch, sized, read⟩ := bind_eq_ok_iff.mp read
    obtain ⟨extent, read⟩ := refused_or_iff.mp read
    obtain ⟨thickness, thick, same⟩ := bind_eq_ok_iff.mp read
    cases same
    exact ⟨rfl, assembled, ⟨pixels, counted, (has_pixels_iff pixels).mp inhabited, rfl, rfl⟩, sized,
      (has_extent_iff pitch).mp extent, thick⟩
  · rintro ⟨name, assembled, ⟨pixels, counted, inhabited, columns, rows⟩, sized, extent, thick⟩
    refine bind_eq_ok_iff.mpr ⟨_, assembled, bind_eq_ok_iff.mpr ⟨pixels, counted, ?_⟩⟩
    refine refused_or_iff.mpr ⟨(has_pixels_iff pixels).mpr inhabited, ?_⟩
    refine bind_eq_ok_iff.mpr ⟨_, sized, refused_or_iff.mpr ⟨(has_extent_iff _).mpr extent, ?_⟩⟩
    refine bind_eq_ok_iff.mpr ⟨_, thick, ?_⟩
    rw [← name, ← columns, ← rows]

theorem DescribedBy.matrix_pos {m : DetectorModel} {s : Section} (described : m.DescribedBy s) :
    1 ≤ m.columns.toNat ∧ 1 ≤ m.rows.toNat := by
  obtain ⟨pixels, _, inhabited, columns, rows⟩ := described.matrix
  have least : ∀ n ∈ pixels, 1 ≤ (UInt32.ofNat n.val.toNat).toNat := by
    intro n member
    have low : 0 ≤ n.val := n.property.1
    have high : n.val ≤ 0xffffffff := n.property.2
    have some := inhabited n member
    rw [UInt32.toNat_ofNat_of_lt' (by rw [UInt32.size]; omega)]
    omega
  rw [columns, rows]
  exact ⟨least _ (Vector.getElem_mem _), least _ (Vector.getElem_mem _)⟩

end DetectorModel

namespace Geometry

variable {g h : Geometry} {m : DetectorModel}

/-- A model that is in a setup after sections were added was there before, or is described by one of
them. -/
theorem mem_addModels {sections : List Section} (added : g.addModels sections = .ok h)
    (member : m ∈ h.models) : m ∈ g.models ∨ ∃ s ∈ sections, m.DescribedBy s := by
  induction sections generalizing g with
  | nil =>
    cases added
    exact .inl member
  | cons s rest ih =>
    rw [addModels] at added
    split at added
    · cases added
    · rename_i own read
      obtain ⟨next, here, added⟩ := bind_eq_ok_iff.mp added
      obtain ⟨_, _, rfl⟩ := addModel_eq_ok here
      rcases ih added with before | ⟨s, listed, described⟩
      · rcases List.mem_append.mp before with before | last
        · exact .inl before
        · rw [List.mem_singleton.mp last]
          exact .inr ⟨s, List.mem_cons_self, DetectorModel.read_eq_ok_iff.mp read⟩
      · exact .inr ⟨s, List.mem_cons_of_mem _ listed, described⟩

theorem models_addDetectors {sections : List Section} (added : g.addDetectors sections = .ok h) :
    h.models = g.models := by
  induction sections generalizing g with
  | nil =>
    cases added
    rfl
  | cons s rest ih =>
    rw [addDetectors] at added
    split at added
    · cases added
    · obtain ⟨next, here, added⟩ := bind_eq_ok_iff.mp added
      obtain ⟨_, _, _, _, same⟩ := addDetector_eq_ok here
      rw [ih added, same]

/-- The model of every detector in a configured setup is described by one of the sections. -/
theorem exists_section_of_mem {models detectors : List Section}
    (made : ofSections models detectors = .ok g) {d : Detector} (member : d ∈ g.detectors) :
    ∃ s ∈ models, d.model.DescribedBy s := by
  obtain ⟨history, _, rfl⟩ := grows_ofSections made
  have slot := (Registered.after_empty history).slots d member
  obtain ⟨between, first, second⟩ := bind_eq_ok_iff.mp made
  rw [models_addDetectors second] at slot
  rcases mem_addModels first (List.mem_of_getElem? slot) with before | described
  · cases before
  · exact described

theorem IsConfigured.matrix_pos (configured : g.IsConfigured) {d : Detector}
    (member : d ∈ g.detectors) : 1 ≤ d.model.columns.toNat ∧ 1 ≤ d.model.rows.toNat := by
  obtain ⟨models, detectors, made⟩ := configured
  obtain ⟨s, _, described⟩ := exists_section_of_mem made member
  exact described.matrix_pos

end Geometry

end DetectorSim
