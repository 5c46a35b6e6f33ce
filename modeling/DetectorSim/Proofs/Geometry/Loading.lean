import DetectorSim.Files.Tree
import DetectorSim.Proofs.Config.Access
import DetectorSim.Proofs.Grouping
import DetectorSim.Proofs.Pipeline.SideBySide
import DetectorSim.Run.Simulation

/-! Detector setups from files. What is read of models and detectors does not depend on the file
that a section is from, and whether a section is a model or a detector shows by its keys; so a setup
may be written to one file or to two. -/

namespace DetectorSim

open Config

variable {ω α β τ : Type}

namespace Config.Section

/-- The section as it is read from a file. -/
def inFile (s : Section) (path : Path) : Section :=
  { s with origin := some path }

theorem mark_inFile (s : Section) (path : Path) (key : String) :
    (s.inFile path).mark key = (s.mark key).inFile path := by
  change (if key ∈ s.marks then s.inFile path else _) = (if key ∈ s.marks then s else _).inFile path
  split <;> rfl

theorem has_of_reading {s : Section} {kind : Kind} {key : String} {value : kind.Carrier}
    (read : s.reading kind key = .ok value) : s.has key = true := by
  rw [reading] at read
  cases found : s.values.find? key with
  | none =>
    rw [found] at read
    cases read
  | some raw => rw [has, Dictionary.contains, found, Option.isSome_some]

end Config.Section

namespace Config.Access

@[simp] theorem path_mark (key other : String) (s : Section) :
    ((path key).on (s.mark other)).1 = ((path key).on s).1 := by
  rw [on_path, on_path, Section.reading_mark]
  exact congrArg (Except.map · _) (funext (s.locate_mark other))

theorem has_of_path {key : String} {s : Section} {path : Path}
    (named : ((Access.path key).on s).1 = .ok path) : s.has key = true := by
  rw [on_path] at named
  cases read : s.reading .path key with
  | ok written => exact Section.has_of_reading read
  | error e =>
    rw [read] at named
    cases named

/-- Reading that does not depend on the file that a section is from. -/
def IgnoresOrigin (access : Access α) : Prop :=
  ∀ (s : Section) (path : Path),
    access.on (s.inFile path) = ((access.on s).1, (access.on s).2.inFile path)

theorem ignoresOrigin_pure (value : α) : (pure value : Access α).IgnoresOrigin :=
  fun _ _ => rfl

theorem ignoresOrigin_refuse (key : String) (rule : ValueRule) :
    (refuse key rule : Access α).IgnoresOrigin :=
  fun _ _ => rfl

theorem ignoresOrigin_bind {access : Access α} {next : α → Access β}
    (first : access.IgnoresOrigin) (onwards : ∀ value, (next value).IgnoresOrigin) :
    (access >>= next).IgnoresOrigin := by
  intro s path
  rw [on_bind, on_bind, first s path]
  generalize access.on s = read
  obtain ⟨outcome, after⟩ := read
  cases outcome with
  | ok value => exact onwards value after path
  | error e => rfl

theorem ignoresOrigin_read (kind : Kind) (key : String) : (read kind key).IgnoresOrigin := by
  intro s path
  rw [on_read, on_read, Section.mark_inFile]
  rfl

theorem ignoresOrigin_readOr (kind : Kind) (key : String) (default : kind.Carrier) :
    (readOr kind key default).IgnoresOrigin := by
  intro s path
  rw [on_readOr, on_readOr, Section.mark_inFile]
  rfl

theorem ignoresOrigin_unless {c : Prop} [Decidable c] {key : String} {rule : ValueRule}
    {next : Unit → Access α} (onwards : ∀ u, (next u).IgnoresOrigin) :
    (if c then refuse key rule >>= next else next ()).IgnoresOrigin := by
  split
  · exact ignoresOrigin_bind (ignoresOrigin_refuse key rule) onwards
  · exact onwards ()

theorem ignoresOrigin_choice (key : String) (choices : List String) :
    (choice key choices).IgnoresOrigin := by
  refine ignoresOrigin_bind (ignoresOrigin_read .text key) fun given => ?_
  split
  · exact ignoresOrigin_pure _
  · exact ignoresOrigin_refuse _ _

end Config.Access

section Contents

open Access

theorem DetectorModel.ignoresOrigin_read : DetectorModel.read.IgnoresOrigin := by
  have assembly : readAssembly.IgnoresOrigin := by
    refine ignoresOrigin_bind (ignoresOrigin_choice _ _) fun kind => ?_
    split
    · refine ignoresOrigin_bind (Access.ignoresOrigin_read _ _) fun chip => ?_
      refine ignoresOrigin_bind (ignoresOrigin_readOr _ _ _) fun bump => ?_
      exact ignoresOrigin_pure _
    · exact ignoresOrigin_pure _
  refine ignoresOrigin_bind assembly fun assembly => ?_
  refine ignoresOrigin_bind (Access.ignoresOrigin_read _ _) fun pixels => ?_
  refine ignoresOrigin_unless fun _ => ?_
  refine ignoresOrigin_bind (Access.ignoresOrigin_read _ _) fun pitch => ?_
  refine ignoresOrigin_unless fun _ => ?_
  refine ignoresOrigin_bind (Access.ignoresOrigin_read _ _) fun thickness => ?_
  exact fun _ _ => rfl

theorem Geometry.ignoresOrigin_readPlacement : Geometry.readPlacement.IgnoresOrigin := by
  refine ignoresOrigin_bind (Access.ignoresOrigin_read _ _) fun typeName => ?_
  refine ignoresOrigin_bind (ignoresOrigin_readOr _ _ _) fun position => ?_
  refine ignoresOrigin_bind (ignoresOrigin_readOr _ _ _) fun orientation => ?_
  exact ignoresOrigin_pure _

end Contents

namespace Geometry

theorem addModels_inFile (g : Geometry) (models : List Section) (path : Path) :
    g.addModels (models.map (·.inFile path)) = g.addModels models := by
  induction models generalizing g with
  | nil => rfl
  | cons s rest ih =>
    rw [List.map_cons, addModels, addModels, DetectorModel.ignoresOrigin_read]
    cases (DetectorModel.read.on s).1 with
    | error e => rfl
    | ok m => exact congrArg _ (funext ih)

theorem addDetectors_inFile (g : Geometry) (detectors : List Section) (path : Path) :
    g.addDetectors (detectors.map (·.inFile path)) = g.addDetectors detectors := by
  induction detectors generalizing g with
  | nil => rfl
  | cons s rest ih =>
    rw [List.map_cons, addDetectors, addDetectors, ignoresOrigin_readPlacement]
    cases (readPlacement.on s).1 with
    | error e => rfl
    | ok placed => exact congrArg _ (funext ih)

/-- A setup does not depend on the files that its sections are from. -/
theorem ofSections_inFile (models detectors : List Section) (path other : Path) :
    ofSections (models.map (·.inFile path)) (detectors.map (·.inFile other)) =
      ofSections models detectors := by
  rw [ofSections, ofSections, addModels_inFile]
  exact congrArg _ (funext fun g => addDetectors_inFile g detectors other)

end Geometry

/-- There is a file at a path that holds these sections, and to look at it changes no files. -/
structure Path.Holds (path : Path) (answers : Interaction.Answers fileInterface τ) (files : τ)
    (sections : List Section) : Prop where
  present : answers (.present path) files = (true, files)
  readable : ∃ text, answers (.read path) files = (Except.ok text, files) ∧
    Document.read (some path) text = .ok (sections.map (·.inFile path))

section Files

variable {answers : Interaction.Answers fileInterface τ} {files : τ} {path other : Path}
  {sections : List Section}

theorem Path.Holds.load (holds : path.Holds answers files sections) :
    (Document.load path).run answers files = (.ok (sections.map (·.inFile path)), files) := by
  obtain ⟨text, found, read⟩ := holds.readable
  have asked : (FileProgram.read path).run answers files = (.ok text, files) := found
  rw [Document.load, Interaction.run_bind, asked]
  exact congrArg (·, files) read

theorem Geometry.run_ofFile (holds : path.Holds answers files sections) :
    (ofFile path).run answers files =
      (.ok (ofSections (sections.filter (!·.has "type")) (sections.filter (·.has "type"))),
        files) := by
  rw [ofFile, Interaction.run_bind, holds.load]
  have parts (p : Section → Bool) (same : ∀ s, p (s.inFile path) = p s) :
      (sections.map (·.inFile path)).filter p = (sections.filter p).map (·.inFile path) := by
    rw [List.filter_map]
    exact congrArg _ (List.filter_congr fun s _ => same s)
  refine congrArg (fun setup => (Except.ok setup, files)) (Eq.trans ?_
    (ofSections_inFile _ _ path path))
  exact congr (congrArg ofSections (parts _ fun _ => rfl)) (parts _ fun _ => rfl)

theorem Geometry.run_ofFiles {models detectors : List Section}
    (first : path.Holds answers files models) (second : other.Holds answers files detectors) :
    (ofFiles path other).run answers files = (ofSections models detectors, files) := by
  rw [ofFiles, Interaction.run_bind, first.load]
  dsimp only
  rw [Interaction.run_bind, second.load]
  exact congrArg (·, files) (ofSections_inFile models detectors path other)

namespace SetupM

variable {s : Section} {key : String} {a : SetupState ω}

/-- Steps go on behind a path at which there is something. -/
theorem run_path (named : ((Access.path key).on s).1 = .ok path)
    (present : answers (.present path) files = (true, files))
    (next : Path × Section → SetupM ω β) :
    ((SetupM.path s key >>= next).run.run a).run answers files =
      ((next (path, s.mark key)).run.run a).run answers files := by
  have found : (Access.path key).on s = (.ok path, s.mark key) := by
    rw [← named, Access.on_path]
  have looked : (s.path key true).run answers files = ((.ok path, s.mark key), files) := by
    have asked : (FileProgram.present path).run answers files = (true, files) := present
    rw [Section.path, found]
    simp only [if_true]
    rw [Interaction.run_bind, asked]
    rfl
  rw [SetupM.path, bind_assoc, run_onFiles, looked]
  rfl

variable {models detectors : List Section}

/-- A setup from one file is that of its sections, the detectors being those with a type. -/
theorem loadGeometry_single (named : ((Access.path "detectors_file").on s).1 = .ok path)
    (alone : s.has "models_file" = false) (holds : path.Holds answers files sections) :
    (loadGeometry s).resultFrom a answers files =
      (((Geometry.ofSections (sections.filter (!·.has "type"))
        (sections.filter (·.has "type"))).mapError .geometry).map (·, s.mark "detectors_file"),
          a) := by
  rw [resultFrom, loadGeometry]
  simp only [Access.has_of_path named, Bool.not_true, Bool.false_eq_true, if_false]
  rw [run_path named holds.present]
  simp only [Section.has_mark, alone, Bool.false_eq_true, if_false]
  rw [run_onFiles, Geometry.run_ofFile holds]
  cases Geometry.ofSections (sections.filter (!·.has "type")) (sections.filter (·.has "type")) <;>
    rfl

/-- A setup from two files is that of the sections of the first as models and of the second as
detectors. -/
theorem loadGeometry_double (named : ((Access.path "detectors_file").on s).1 = .ok path)
    (also : ((Access.path "models_file").on s).1 = .ok other)
    (first : other.Holds answers files models) (second : path.Holds answers files detectors) :
    (loadGeometry s).resultFrom a answers files =
      (((Geometry.ofSections models detectors).mapError .geometry).map
        (·, (s.mark "detectors_file").mark "models_file"), a) := by
  rw [resultFrom, loadGeometry]
  simp only [Access.has_of_path named, Bool.not_true, Bool.false_eq_true, if_false]
  rw [run_path named second.present]
  simp only [Section.has_mark, Access.has_of_path also, if_true]
  rw [run_path ((Access.path_mark ..).trans also) first.present, run_onFiles,
    Geometry.run_ofFiles first second]
  cases Geometry.ofSections models detectors <;> rfl

end SetupM

end Files

namespace SetupM

/-- One file of a setup equals two. Sections without a type and sections with one, mixed in any way
that keeps the order within each, describe the same setup as the former as models and the latter as
detectors; and loading them from one file gives the same as loading the former from a file of models
and the latter from a file of detectors, be it a setup or an error. -/
theorem one_setup_file_equals_two {υ : Type} {models detectors mixed : List Section}
    (untyped : ∀ s ∈ models, s.has "type" = false) (typed : ∀ s ∈ detectors, s.has "type" = true)
    (mixes : Interleaves models detectors mixed) :
    Geometry.ofSections (mixed.filter (!·.has "type")) (mixed.filter (·.has "type")) =
        Geometry.ofSections models detectors ∧
      ∀ (single double : Section) (answers : Interaction.Answers fileInterface τ) (files : τ)
        (answers' : Interaction.Answers fileInterface υ) (files' : υ) (whole first second : Path)
        (a b : SetupState ω),
        single.has "models_file" = false →
        ((Access.path "detectors_file").on single).1 = .ok whole →
        whole.Holds answers files mixed →
        ((Access.path "models_file").on double).1 = .ok first →
        ((Access.path "detectors_file").on double).1 = .ok second →
        first.Holds answers' files' models → second.Holds answers' files' detectors →
        let ofOne := (loadGeometry single).resultFrom a answers files
        let ofTwo := (loadGeometry double).resultFrom b answers' files'
        ofOne.1.map Prod.fst = ofTwo.1.map Prod.fst ∧
          ofTwo.1.map Prod.fst = (Geometry.ofSections models detectors).mapError .geometry ∧
          ofOne.2 = a ∧ ofTwo.2 = b := by
  have apart : mixed.filter (!·.has "type") = models :=
    mixes.filter_eq (fun s member => by rw [untyped s member, Bool.not_false])
      fun s member => by rw [typed s member, Bool.not_true]
  have own : mixed.filter (·.has "type") = detectors := mixes.swap.filter_eq typed untyped
  refine ⟨by rw [apart, own], ?_⟩
  intro single double answers files answers' files' whole first second a b alone names holds
    namesModels namesDetectors holdsModels holdsDetectors ofOne ofTwo
  have one : ofOne = _ := loadGeometry_single names alone holds
  have two : ofTwo = _ := loadGeometry_double namesDetectors namesModels holdsModels holdsDetectors
  rw [apart, own] at one
  have shed (outcome : Except SetupError Geometry) (globals : Section) :
      (outcome.map (·, globals)).map Prod.fst = outcome := by
    cases outcome <;> rfl
  refine ⟨?_, ?_, congrArg Prod.snd one, congrArg Prod.snd two⟩
  · rw [one, two, shed, shed]
  · rw [two, shed]

private def modelText : String :=
  "[tile]\nassembly=monolithic\nnumber_of_pixels=[8,8]\npixel_size=[1,1]\nsensor_thickness=1"

private def planesText : String :=
  "[dut]\ntype=tile\n[ref]\ntype=tile"

private def mixedText : String :=
  "[dut]\ntype=tile\n" ++ modelText ++ "\n[ref]\ntype=tile"

private def setupFiles : FileTree :=
  .ofList [(⟨"models.conf"⟩, some modelText), (⟨"planes.conf"⟩, some planesText),
    (⟨"setup.conf"⟩, some mixedText)]

private def tileModel : Section :=
  ((((Section.new "tile" none).set "assembly" "monolithic").set "number_of_pixels" "[8,8]").set
    "pixel_size" "[1,1]").set "sensor_thickness" "1"

private def tilePlane (name : String) : Section :=
  (Section.new name none).set "type" "tile"

private def inOneFile : Section :=
  (Section.new globalName none).set "detectors_file" "setup.conf"

private def inTwoFiles : Section :=
  ((Section.new globalName none).set "detectors_file" "planes.conf").set "models_file" "models.conf"

/-- A model between two detectors, one of which comes before it in the file. -/
theorem model_between_its_detectors :
    let loaded (globals : Section) := ((loadGeometry globals : SetupM Unit _).resultFrom
      (.start .empty) FileTree.answers setupFiles).1.map Prod.fst
    Interleaves [tileModel] [tilePlane "dut", tilePlane "ref"]
        [tilePlane "dut", tileModel, tilePlane "ref"] ∧
      loaded inOneFile = loaded inTwoFiles ∧
      (loaded inTwoFiles).map (fun g => (g.models.map (·.typeName), g.detectors.map (·.name))) =
        .ok (["tile"], ["dut", "ref"]) := by
  intro loaded
  have mixes : Interleaves [tileModel] [tilePlane "dut", tilePlane "ref"]
      [tilePlane "dut", tileModel, tilePlane "ref"] := .right _ (.left _ (.right _ .nil))
  have lines : Text.lines mixedText.toList = (Text.lines planesText.toList).take 2 ++
      Text.lines modelText.toList ++ (Text.lines planesText.toList).drop 2 := by decide +kernel
  have whole : Path.Holds ⟨"setup.conf"⟩ FileTree.answers setupFiles
      [tilePlane "dut", tileModel, tilePlane "ref"] := by
    refine ⟨rfl, mixedText, rfl, ?_⟩
    rw [Document.read, Document.sections, lines]
    rfl
  have models : Path.Holds ⟨"models.conf"⟩ FileTree.answers setupFiles [tileModel] :=
    ⟨rfl, modelText, rfl, rfl⟩
  have planes : Path.Holds ⟨"planes.conf"⟩ FileTree.answers setupFiles
      [tilePlane "dut", tilePlane "ref"] := ⟨rfl, planesText, rfl, rfl⟩
  obtain ⟨same, described, _⟩ := (one_setup_file_equals_two (by decide) (by decide) mixes).2
    inOneFile inTwoFiles FileTree.answers setupFiles FileTree.answers setupFiles ⟨"setup.conf"⟩
    ⟨"models.conf"⟩ ⟨"planes.conf"⟩ (.start .empty : SetupState Unit) (.start .empty)
    rfl rfl whole rfl rfl models planes
  refine ⟨mixes, same, ?_⟩
  rw [show loaded inTwoFiles = _ from described]
  decide +kernel

end SetupM

end DetectorSim
