import DetectorSim.Proofs.Geometry.Registration
import DetectorSim.Proofs.Pipeline.Headers

/-! A section without qualifier stands for sections with the qualifiers of its detectors. Spelling
them out changes nothing that can be seen from outside the modules. -/

namespace DetectorSim

open Config

variable {σ ω : Type}

namespace Config.Section

/-- The section for one detector, with the same keys but `type`. -/
def addressed (s : Section) (d : Detector) : Section :=
  { s with detector := some d.name, values := s.values.erase "type" }

/-- The sections for each detector that a restriction lets pass, in the order of the setup. -/
def listing (s : Section) (g : Geometry) (types : Option (List String)) : List Section :=
  (g.detectors.filter (passes types ·.modelType)).map s.addressed

variable {s : Section} {g : Geometry}

theorem unaddressed_addressed (s : Section) (d : Detector) :
    (s.addressed d).unaddressed = s.unaddressed := by
  have erased : (s.values.erase "type").erase "type" = s.values.erase "type" := by
    refine Dictionary.ext_find? fun key => ?_
    rw [Dictionary.find?_erase, Dictionary.find?_erase]
    split <;> rfl
  rw [unaddressed, addressed, erased]
  rfl

theorem unaddressed_bindings (scope : Scope) (s : Section) (g : Geometry) :
    (bindings scope s g).2.unaddressed = s.unaddressed := by
  have marked : ((Access.read? (.list .text) "type").on s).2.unaddressed = s.unaddressed := by
    rw [Access.on_read?]
    split
    · exact unaddressed_mark_type s
    · rfl
  cases scope with
  | global =>
    rw [bindings]
    split <;> rfl
  | perDetectorType =>
    rw [bindings]
    generalize (Access.read? (.list .text) "type").on s = read at marked ⊢
    obtain ⟨outcome, after⟩ := read
    cases outcome with
    | error e => exact marked
    | ok types =>
      dsimp only
      split <;> exact marked
  | perDetector =>
    rw [bindings]
    generalize (Access.read? (.list .text) "type").on s = read at marked ⊢
    obtain ⟨outcome, after⟩ := read
    cases outcome with
    | error e => exact marked
    | ok types =>
      cases qualified : s.detector with
      | none => exact marked
      | some name =>
        dsimp only
        split
        · exact marked
        · split <;> exact marked

theorem Binds.expanded {scope : Scope} {bound : List (Binding × List Detector)}
    (binds : s.Binds g scope bound) :
    ∃ own, bindings scope s g = (.ok bound, own) ∧ own.unaddressed = s.unaddressed :=
  ⟨_, Prod.ext ((bindings_eq_ok_iff ..).mpr binds) rfl, unaddressed_bindings ..⟩

theorem binds_addressed {d : Detector} (known : g.detector d.name = .ok d) :
    (s.addressed d).Binds g .perDetector [(.detector d.name, [d])] := by
  refine .named rfl ?_ known
  rw [addressed, Dictionary.find?_erase]
  exact if_pos rfl

end Config.Section

namespace Instance

variable {registry : Registry σ ω} {a b : SetupState ω} {g : Geometry} {type : ModuleType σ ω}
  {s : Section} {built built' : List (Instance (Blueprint σ ω))}

/-- The bindings of one section, taken one at a time, against a section for each of them. -/
theorem listing_sides (ignores : type.IgnoresHeader) (resolved : registry.resolve s.name = .ok type)
    (scope : type.scope = .perDetector) {own : Section} (header : own.unaddressed = s.unaddressed)
    {detectors : List Detector} (known : ∀ d ∈ detectors, g.detector d.name = .ok d)
    (rest : List Section) (same : Matches g built built' a) (alike : a.LooksLike b) :
    SetupM.SideBySide
      (ofBindings type own (detectors.map fun d => (.detector d.name, [d])) built >>=
        ofSections registry rest)
      (ofSections registry (detectors.map s.addressed ++ rest) built') a b (Matches g) := by
  induction detectors generalizing built built' a b with
  | nil =>
    rw [List.map_nil, List.map_nil, List.nil_append, ofBindings, pure_bind]
    exact ofSections_sides rest same alike
  | cons d more ih =>
    -- the detector is looked up in the state that the sections before left, where it still stands
    obtain ⟨here, others⟩ := List.forall_mem_cons.mp known
    have found : b.geometry.detector d.name = .ok d := by
      rw [alike.geometry]
      exact same.detectors.detector_eq_ok.mpr here
    obtain ⟨own', expanded, header'⟩ := (Section.binds_addressed (s := s) found).expanded
    rw [← scope] at expanded
    obtain ⟨c, looks, run⟩ := run_ofSections_cons (s := s.addressed d) resolved expanded
      (more.map s.addressed ++ rest) built'
    have builds := ignores own own' (header'.trans ((s.unaddressed_addressed d).trans header.symm))
    rw [List.map_cons, List.map_cons, List.cons_append, ofBindings_cons, bind_assoc]
    refine .of_run rfl run (SetupM.sideBySide_bind
      (ofBindings_sides builds _ same (alike.trans looks)) ?_)
    exact fun _ _ _ _ same states => ih others same states

/-- Among any other sections, a section without qualifier sets up what the sections for its
detectors do. -/
theorem instantiate_sides (ignores : type.IgnoresHeader)
    (resolved : registry.resolve s.name = .ok type) (scope : type.scope = .perDetector)
    (unqualified : s.detector = none) {types : Option (List String)}
    (restricted : s.Restricts types) (coherent : a.geometry.Coherent)
    (before later : List Section) :
    SetupM.SideBySide (instantiate registry (before ++ s :: later))
      (instantiate registry (before ++ s.listing a.geometry types ++ later)) a a
      (Matches a.geometry) := by
  rw [instantiate, instantiate, List.append_assoc, ofSections_append, ofSections_append]
  refine SetupM.sideBySide_bind (ofSections_sides before ⟨rfl, .refl _⟩ (.refl a)) ?_
  intro built built' c d same alike
  have binds := Section.Binds.each (g := a.geometry) unqualified restricted
  obtain ⟨own, expanded, header⟩ := (binds.of_sameDetectors same.detectors).expanded
  rw [← scope] at expanded
  obtain ⟨e, looks, run⟩ := run_ofSections_cons resolved expanded later built
  refine .of_run run rfl (listing_sides ignores resolved scope header (fun d member => ?_) later
    (same.of_looksLike looks) (looks.symm.trans alike))
  exact coherent.detector_eq_ok_iff_mem.mpr ⟨List.mem_of_mem_filter member, rfl⟩

/-- A section of a module type with an instance for each detector may be replaced by sections that
name the detectors, if the constructor looks neither at the qualifier nor at the key `type`. There
are instances in both cases or in neither, with the same outlines and the same subscriptions, and
the same identity is reported as repeated. -/
theorem fan_out_agrees_with_listing {τ : Type} (registry : Registry σ ω)
    (history : List Geometry.Operation) (before later : List Section) (s : Section)
    (type : ModuleType σ ω) (types : Option (List String))
    (resolved : registry.resolve s.name = .ok type) (scope : type.scope = .perDetector)
    (unqualified : s.detector = none) (restricted : s.Restricts types)
    (ignores : type.IgnoresHeader) (a : SetupState ω)
    (here : a.geometry = Geometry.empty.after history)
    (answers : Interaction.Answers fileInterface τ) (files : τ) :
    let fanned := (instantiate registry (before ++ s :: later)).resultFrom a answers files
    let listed := (instantiate registry
      (before ++ s.listing a.geometry types ++ later)).resultFrom a answers files
    (∀ instances, fanned.1 = .ok instances → ∃ others, listed.1 = .ok others ∧
      others.map outline = instances.map outline ∧ listed.2.table = fanned.2.table) ∧
    (∀ others, listed.1 = .ok others → ∃ instances, fanned.1 = .ok instances ∧
      others.map outline = instances.map outline ∧ listed.2.table = fanned.2.table) ∧
    ∀ identifier, fanned.1 = .error (.duplicateInstance identifier) ↔
      listed.1 = .error (.duplicateInstance identifier) := by
  intro fanned listed
  have coherent : a.geometry.Coherent := here ▸ .after_empty history
  have sides := instantiate_sides ignores resolved scope unqualified restricted coherent before later
  obtain ⟨onwards, backwards, repeats⟩ := sides.results answers files
  refine ⟨fun instances made => ?_, fun others made => ?_, repeats⟩
  · obtain ⟨others, made', same, states⟩ := onwards instances made
    exact ⟨others, made', same.outlines, states.table⟩
  · obtain ⟨instances, made', same, states⟩ := backwards others made
    exact ⟨instances, made', same.outlines, states.table⟩

/-- Digitizers of two planes, among a depositor for each detector; a section behind them may name
one of the planes again. -/
theorem digitizers_of_planes_are_spelled_out :
    let model (name : String) : Geometry.Operation :=
      .addModel ⟨name, 8, 4, .replicate 2 0, 0, .monolithic⟩
    let placed (name typeName : String) : Geometry.Operation :=
      .addDetector name typeName (.replicate 3 0) (.replicate 3 0)
    let g := Geometry.empty.after [model "alpide", model "timepix", placed "plane0" "alpide",
      placed "dut" "timepix", placed "plane1" "alpide"]
    let types : Registry HitCounts Unit := ⟨chainModules⟩
    let s := ((Section.new "ThresholdDigitizer" none).set "type" "alpide").set "on_empty" "skip"
    let source := Section.new "ChargeDepositor" none
    let again := Section.new "ThresholdDigitizer" (some "plane1")
    let ended (sections : List Section) := ((instantiate types sections).resultFrom (.start g)
      FileTree.answers ⟨[]⟩).1
    (s.listing g (some ["alpide"])).map (fun t => (t.identifier, t.values.entries)) =
        [("ThresholdDigitizer:plane0", [("on_empty", "skip")]),
          ("ThresholdDigitizer:plane1", [("on_empty", "skip")])] ∧
      (∃ instances others, ended [source, s] = .ok instances ∧
        ended ([source] ++ s.listing g (some ["alpide"])) = .ok others ∧
        others.map outline = instances.map outline ∧
        instances.map (·.identifier.display) = ["ChargeDepositor:plane0", "ChargeDepositor:dut",
          "ChargeDepositor:plane1", "ThresholdDigitizer:plane0", "ThresholdDigitizer:plane1"]) ∧
      ended [s, again] = .error (.duplicateInstance "ThresholdDigitizer:plane1") ∧
      ended (s.listing g (some ["alpide"]) ++ [again]) =
        .error (.duplicateInstance "ThresholdDigitizer:plane1") := by
  intro model placed g types s source again ended
  have ignores : (ThresholdDigitizer.moduleType (ω := Unit)).IgnoresHeader :=
    ignoresHeader_of_mem_chainModules (List.mem_cons_of_mem _ List.mem_cons_self)
  have agrees (before later : List Section) := fan_out_agrees_with_listing types _ before later s
    ThresholdDigitizer.moduleType (some ["alpide"]) rfl rfl rfl (.listed rfl rfl) ignores (.start g)
    rfl FileTree.answers ⟨[]⟩
  have seen : (ended [source, s]).map (List.map (·.identifier.display)) =
      .ok ["ChargeDepositor:plane0", "ChargeDepositor:dut", "ChargeDepositor:plane1",
        "ThresholdDigitizer:plane0", "ThresholdDigitizer:plane1"] := by decide +kernel
  have repeated : (ended [s, again]).map List.length =
      .error (.duplicateInstance "ThresholdDigitizer:plane1") := by decide +kernel
  obtain ⟨instances, made, names⟩ := ok_of_map seen
  obtain ⟨others, made', same, _⟩ := (agrees [source] []).1 instances made
  have twice := error_of_map repeated
  have twice' := ((agrees [] [again]).2.2 _).mp twice
  rw [List.append_nil] at made'
  rw [List.nil_append] at twice'
  refine ⟨by decide +kernel, ?_, twice, twice'⟩
  exact ⟨instances, others, made, made', same, names⟩

end Instance

end DetectorSim
