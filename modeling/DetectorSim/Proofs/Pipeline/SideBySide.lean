import DetectorSim.Proofs.Pipeline.Instantiation

/-! Two setups side by side. Modules see the subscriptions and the detectors of a state, and not what
has been noted, reported or called before; steps from states that look alike end alike. -/

namespace DetectorSim

open Config

variable {σ ω α β γ δ τ : Type}

/-- Modules see the same of two states. -/
structure SetupState.LooksLike (a b : SetupState ω) : Prop where
  table : b.table = a.table
  geometry : b.geometry = a.geometry

theorem SetupState.LooksLike.refl (a : SetupState ω) : a.LooksLike a :=
  ⟨rfl, rfl⟩

theorem SetupState.LooksLike.symm {a b : SetupState ω} (alike : a.LooksLike b) : b.LooksLike a :=
  ⟨alike.table.symm, alike.geometry.symm⟩

theorem SetupState.LooksLike.trans {a b c : SetupState ω} (first : a.LooksLike b)
    (second : b.LooksLike c) : a.LooksLike c :=
  ⟨second.table.trans first.table, second.geometry.trans first.geometry⟩

namespace SetupM

/-- Two ways of ending are alike: with values that are the `same` and states that look alike, or
both with errors, which report the same duplicate if they report one. -/
inductive Alike (same : α → β → SetupState ω → Prop) :
    (Except SetupError α × SetupState ω) × τ → (Except SetupError β × SetupState ω) × τ → Prop where
  | ok {value : α} {other : β} {a b : SetupState ω} {files : τ} (values : same value other a)
      (states : a.LooksLike b) : Alike same ((.ok value, a), files) ((.ok other, b), files)
  | error {e f : SetupError} {a b : SetupState ω} {files files' : τ}
      (repeats : ∀ identifier, e = .duplicateInstance identifier ↔ f = .duplicateInstance identifier) :
      Alike same ((.error e, a), files) ((.error f, b), files')

/-- Two steps end alike, whatever files there are. -/
def SideBySide (first : SetupM ω α) (second : SetupM ω β) (a b : SetupState ω)
    (same : α → β → SetupState ω → Prop) : Prop :=
  ∀ (τ : Type) (answers : Interaction.Answers fileInterface τ) (files : τ),
    Alike same ((first.run.run a).run answers files) ((second.run.run b).run answers files)

variable {a b : SetupState ω} {same : α → β → SetupState ω → Prop}

theorem sideBySide_pure {value : α} {other : β} (values : same value other a)
    (states : a.LooksLike b) :
    SideBySide (pure value : SetupM ω α) (pure other : SetupM ω β) a b same :=
  fun _ _ _ => .ok values states

theorem sideBySide_throw {e f : SetupError}
    (repeats : ∀ identifier, e = .duplicateInstance identifier ↔ f = .duplicateInstance identifier) :
    SideBySide (throw e : SetupM ω α) (throw f : SetupM ω β) a b same :=
  fun _ _ _ => .error repeats

theorem sideBySide_bind {first : SetupM ω α} {second : SetupM ω β} {next : α → SetupM ω γ}
    {next' : β → SetupM ω δ} {same' : γ → δ → SetupState ω → Prop}
    (sides : SideBySide first second a b same)
    (onwards : ∀ value other c d, same value other c → c.LooksLike d →
      SideBySide (next value) (next' other) c d same') :
    SideBySide (first >>= next) (second >>= next') a b same' := by
  intro τ answers files
  have ends := sides τ answers files
  change Alike same' ((first.run.run a >>= fun (r, a) =>
    (ExceptT.bindCont next r).run a).run answers files) ((second.run.run b >>= fun (r, b) =>
      (ExceptT.bindCont next' r).run b).run answers files)
  rw [Interaction.run_bind, Interaction.run_bind]
  generalize (first.run.run a).run answers files = ran at ends ⊢
  generalize (second.run.run b).run answers files = ran' at ends ⊢
  cases ends with
  | ok values states => exact onwards _ _ _ _ values states τ answers _
  | error repeats => exact .error repeats

theorem run_state (next : SetupState ω → SetupM ω α) (a : SetupState ω) :
    (state >>= next).run.run a = (next a).run.run a :=
  rfl

/-- Steps go on behind work on files with what it gave and with the files it left. -/
theorem run_onFiles (p : FileProgram α) (next : α → SetupM ω β) (a : SetupState ω)
    (answers : Interaction.Answers fileInterface τ) (files : τ) :
    ((onFiles p >>= next).run.run a).run answers files =
      ((next (p.run answers files).1).run.run a).run answers (p.run answers files).2 := by
  change (((p >>= fun value => pure (value, a)) >>= fun (value, a) =>
    pure (Except.ok value, a)) >>= fun (r, a) => (ExceptT.bindCont next r).run a).run answers files = _
  simp only [Interaction.run_bind]
  rfl

theorem SideBySide.of_run {first first' : SetupM ω α} {second second' : SetupM ω β}
    {c d : SetupState ω} (run : first.run.run a = first'.run.run c)
    (run' : second.run.run b = second'.run.run d)
    (sides : SideBySide first' second' c d same) : SideBySide first second a b same := by
  intro τ answers files
  rw [run, run']
  exact sides τ answers files

/-- What the first step leads to may be kept beside what both have in common. -/
theorem SideBySide.and_leads {first : SetupM ω α} {second : SetupM ω β}
    {done : α → SetupState ω → Prop} {failed : SetupError → SetupState ω → Prop}
    (sides : SideBySide first second a b same) (leads : first.Leads a done failed) :
    SideBySide first second a b fun value other c => same value other c ∧ done value c := by
  intro τ answers files
  have ends := sides τ answers files
  have led := leads τ answers files
  rw [resultFrom] at led
  generalize (first.run.run a).run answers files = ran at ends led ⊢
  generalize (second.run.run b).run answers files = ran' at ends ⊢
  cases ends with
  | ok values states => exact .ok ⟨values, led⟩ states
  | error repeats => exact .error repeats

/-- What two steps side by side give: values that are the same in states that look alike, in both
cases or in neither, and the same report of a duplicate. -/
theorem SideBySide.results {first : SetupM ω α} {second : SetupM ω β}
    (sides : SideBySide first second a b same) (answers : Interaction.Answers fileInterface τ)
    (files : τ) :
    let ran := first.resultFrom a answers files
    let ran' := second.resultFrom b answers files
    (∀ value, ran.1 = .ok value →
      ∃ other, ran'.1 = .ok other ∧ same value other ran.2 ∧ ran.2.LooksLike ran'.2) ∧
    (∀ other, ran'.1 = .ok other →
      ∃ value, ran.1 = .ok value ∧ same value other ran.2 ∧ ran.2.LooksLike ran'.2) ∧
    ∀ identifier, ran.1 = .error (.duplicateInstance identifier) ↔
      ran'.1 = .error (.duplicateInstance identifier) := by
  have ends := sides τ answers files
  rw [resultFrom, resultFrom]
  generalize (first.run.run a).run answers files = ran at ends ⊢
  generalize (second.run.run b).run answers files = ran' at ends ⊢
  cases ends with
  | ok values states =>
    refine ⟨fun value made => ?_, fun other made => ?_, fun _ => ?_⟩
    · cases made
      exact ⟨_, rfl, values, states⟩
    · cases made
      exact ⟨_, rfl, values, states⟩
    · exact iff_of_false (fun same => by cases same) fun same => by cases same
  | error repeats =>
    refine ⟨fun value made => ?_, fun other made => ?_, fun identifier => ?_⟩
    · cases made
    · cases made
    · rw [Except.error.injEq, Except.error.injEq]
      exact repeats identifier

end SetupM

section Constructors

/-- Two runs of a constructor answer the same, leave the same section, and states that look alike. -/
structure SameRun (x y : (α × Section × SetupState ω) × τ) : Prop where
  value : y.1.1 = x.1.1
  own : y.1.2.1 = x.1.2.1
  states : x.1.2.2.LooksLike y.1.2.2
  files : y.2 = x.2

theorem answerBuild_alike {a b : SetupState ω} (alike : a.LooksLike b) (id : ModuleId)
    (q : BuildQuestion ω) (own : Section) (answers : Interaction.Answers fileInterface τ)
    (files : τ) : SameRun (((answerBuild id q).run (own, a)).run answers files)
      (((answerBuild id q).run (own, b)).run answers files) := by
  have ⟨table, geometry⟩ := alike
  cases q with
  | subscribe request => exact ⟨rfl, rfl, ⟨congrArg (·.add (request.madeBy id)) table, geometry⟩, rfl⟩
  | table => exact ⟨table, rfl, alike, rfl⟩
  | object q =>
    exact ⟨congrArg (fun g => (g.use q).1) geometry, rfl,
      ⟨table, congrArg (fun g => (g.use q).2) geometry⟩, rfl⟩
  | own change => exact ⟨rfl, rfl, alike, rfl⟩
  | present path => exact ⟨rfl, rfl, alike, rfl⟩
  | note n => exact ⟨rfl, rfl, ⟨table, geometry⟩, rfl⟩

theorem interpret_alike (p : Interaction (buildInterface ω) α) {a b : SetupState ω}
    (alike : a.LooksLike b) (id : ModuleId) (own : Section)
    (answers : Interaction.Answers fileInterface τ) (files : τ) :
    SameRun (((p.interpret (answerBuild id)).run (own, a)).run answers files)
      (((p.interpret (answerBuild id)).run (own, b)).run answers files) := by
  induction p generalizing own a b files with
  | done value => exact ⟨rfl, rfl, alike, rfl⟩
  | ask q next ih =>
    have step := answerBuild_alike alike id q own answers files
    change SameRun (((answerBuild id q).run (own, a) >>= fun reply =>
      ((next reply.1).interpret (answerBuild id)).run reply.2).run answers files)
      (((answerBuild id q).run (own, b) >>= fun reply =>
        ((next reply.1).interpret (answerBuild id)).run reply.2).run answers files)
    rw [Interaction.run_bind, Interaction.run_bind]
    generalize ((answerBuild id q).run (own, a)).run answers files = ran at step ⊢
    generalize ((answerBuild id q).run (own, b)).run answers files = ran' at step ⊢
    obtain ⟨⟨answer, own, c⟩, files⟩ := ran
    obtain ⟨⟨answer', own', d⟩, files'⟩ := ran'
    obtain ⟨rfl, rfl, states, rfl⟩ := step
    exact ih _ states own' files'

/-- How a constructor ends on a section. -/
def BuildProgram.runOn (p : BuildProgram ω α) (id : ModuleId) (own : Section) (a : SetupState ω)
    (answers : Interaction.Answers fileInterface τ) (files : τ) :
    (Except ModuleError α × Section × SetupState ω) × τ :=
  ((p.run.interpret (answerBuild id)).run (own, a)).run answers files

/-- A constructor succeeds in both of two runs or in neither, and if it succeeds, the others see no
difference afterwards. -/
structure SameSuccess (x y : (Except ModuleError β × Section × SetupState ω) × τ) : Prop where
  succeeds : y.1.1.toBool = x.1.1.toBool
  states : x.1.1.toBool = true → x.1.2.2.LooksLike y.1.2.2
  files : x.1.1.toBool = true → y.2 = x.2

/-- The constructor of a module type does as well on one section as on another. -/
def ModuleType.BuildsAlike (type : ModuleType σ ω) (s t : Section) : Prop :=
  ∀ (view : SetupView) (a : SetupState ω) (τ : Type)
    (answers : Interaction.Answers fileInterface τ) (files : τ),
    SameSuccess ((type.construct view).runOn view.id s a answers files)
      ((type.construct view).runOn view.id t a answers files)

variable {type : ModuleType σ ω} {s t : Section} {a b : SetupState ω}

theorem ModuleType.BuildsAlike.refl (type : ModuleType σ ω) (s : Section) : type.BuildsAlike s s :=
  fun _ _ _ _ _ => ⟨rfl, fun _ => .refl _, fun _ => rfl⟩

theorem ModuleType.BuildsAlike.runOn (builds : type.BuildsAlike s t) (alike : a.LooksLike b)
    (view : SetupView) (answers : Interaction.Answers fileInterface τ) (files : τ) :
    SameSuccess ((type.construct view).runOn view.id s a answers files)
      ((type.construct view).runOn view.id t b answers files) := by
  obtain ⟨succeeds, states, kept⟩ := builds view a τ answers files
  obtain ⟨value, _, looks, same⟩ :=
    interpret_alike (type.construct view).run alike view.id t answers files
  refine ⟨?_, fun success => (states success).trans looks, fun success => same.trans (kept success)⟩
  exact (congrArg Except.toBool value).trans succeeds

end Constructors

namespace Instance

/-- An instance apart from its section and its module. -/
def outline (i : Instance β) : ModuleId × Identifier × List Detector × Bool :=
  (i.id, i.identifier, i.detectors, i.concurrent)

/-- What an instance is made of when its constructor has ended. -/
def finish (type : ModuleType σ ω) (id : ModuleId) (identifier : Identifier)
    (detectors : List Detector) : Except ModuleError (Blueprint σ ω) × Section × SetupState ω →
      Except SetupError (Instance (Blueprint σ ω)) × SetupState ω
  | (.ok body, own, c) => (.ok ⟨id, identifier, own, detectors, type.concurrent, body⟩,
      { c with calls := c.calls ++ [.construct id none] })
  | (.error e, _, c) => (.error (.construction identifier.display e),
      { c with calls := c.calls ++ [.construct id (some e)] })

theorem run_construct (type : ModuleType σ ω) (s : Section) (id : ModuleId)
    (identifier : Identifier) (detectors : List Detector) (a : SetupState ω)
    (answers : Interaction.Answers fileInterface τ) (files : τ) :
    ((construct type s id identifier detectors).run.run a).run answers files =
      let ran := (type.construct ⟨id, identifier, detectors, a.geometry⟩).runOn id s a answers files
      (finish type id identifier detectors ran.1, ran.2) := by
  rw [construct]
  refine (SetupM.run_onFiles (((type.construct ⟨id, identifier, detectors, a.geometry⟩).run.interpret
    (answerBuild id)).run (s, a)) _ a answers files).trans ?_
  rw [BuildProgram.runOn]
  generalize Interaction.run answers _ files = ran
  obtain ⟨⟨outcome, own, c⟩, files⟩ := ran
  cases outcome <;> rfl

variable {registry : Registry σ ω} {a b : SetupState ω} {g : Geometry} {type : ModuleType σ ω}
  {s t : Section} {built built' : List (Instance (Blueprint σ ω))}

/-- Instances have the same outlines, and the detectors of the setup are where they were. -/
structure Matches (g : Geometry) (instances others : List (Instance β)) (a : SetupState ω) :
    Prop where
  outlines : others.map outline = instances.map outline
  detectors : g.SameDetectors a.geometry

theorem Matches.any_identifier (same : Matches g built built' a) (identifier : Identifier) :
    built'.any (·.identifier == identifier) = built.any (·.identifier == identifier) := by
  have names := congrArg (List.map (·.2.1)) same.outlines
  rw [List.map_map, List.map_map] at names
  have known := congrArg (List.any · (· == identifier)) names
  rwa [List.any_map, List.any_map] at known

theorem Matches.length (same : Matches g built built' a) : built'.length = built.length := by
  simpa using congrArg List.length same.outlines

theorem Matches.of_looksLike (same : Matches g built built' a) (alike : a.LooksLike b) :
    Matches g built built' b :=
  ⟨same.outlines, alike.geometry ▸ same.detectors⟩

theorem construct_outline (builds : type.BuildsAlike s t) (alike : a.LooksLike b) (id : ModuleId)
    (identifier : Identifier) (detectors : List Detector) :
    SetupM.SideBySide (construct type s id identifier detectors)
      (construct type t id identifier detectors) a b fun i j _ => j.outline = i.outline := by
  intro τ answers files
  rw [run_construct, run_construct, alike.geometry]
  obtain ⟨succeeds, states, same⟩ :=
    builds.runOn alike ⟨id, identifier, detectors, a.geometry⟩ answers files
  dsimp only at succeeds states same ⊢
  generalize BuildProgram.runOn _ id s a answers files = ran at succeeds states same ⊢
  generalize BuildProgram.runOn _ id t b answers files = ran' at succeeds states same ⊢
  obtain ⟨⟨outcome, own, c⟩, files⟩ := ran
  obtain ⟨⟨outcome', own', d⟩, files'⟩ := ran'
  cases outcome with
  | ok body =>
    cases outcome' with
    | ok body' =>
      have ⟨table, geometry⟩ := states rfl
      cases same rfl
      exact .ok rfl ⟨table, geometry⟩
    | error e => cases succeeds
  | error e =>
    cases outcome' with
    | ok body' => cases succeeds
    | error e' =>
      exact .error fun _ => iff_of_false (fun same => by cases same) fun same => by cases same

theorem ofBindings_sides (builds : type.BuildsAlike s t) (bound : List (Binding × List Detector))
    (same : Matches g built built' a) (alike : a.LooksLike b) :
    SetupM.SideBySide (ofBindings type s bound built) (ofBindings type t bound built') a b
      (Matches g) := by
  induction bound generalizing built built' a b with
  | nil => exact SetupM.sideBySide_pure same alike
  | cons entry rest ih =>
    obtain ⟨binding, detectors⟩ := entry
    rw [ofBindings, ofBindings, same.any_identifier, same.length]
    by_cases known : built.any (·.identifier == (⟨type.name, binding⟩ : Identifier)) = true
    · -- both report the identity that is taken
      rw [if_pos known, if_pos known]
      exact fun _ _ _ => .error fun _ => .rfl
    · rw [if_neg known, if_neg known]
      have leads : (construct type s built.length ⟨type.name, binding⟩ detectors).Leads a
          (fun _ c => a.geometry.SameDetectors c.geometry) fun _ _ => True :=
        (construct_leads ⟨type, binding, detectors⟩ s built.length a).mono
          (fun _ _ done => done.2.2.2) fun _ _ _ => trivial
      refine SetupM.sideBySide_bind ((construct_outline builds alike _ _ _).and_leads leads) ?_
      rintro i j c d ⟨outline, moved⟩ states
      refine ih ⟨?_, same.detectors.trans moved⟩ states
      rw [List.map_append, List.map_append, same.outlines, List.map_singleton, List.map_singleton,
        outline]

/-- A section is expanded in a state that looks like the one it was reached in. -/
theorem run_ofSections_cons {own : Section} {bound : List (Binding × List Detector)}
    (resolved : registry.resolve s.name = .ok type)
    (found : bindings type.scope s a.geometry = (.ok bound, own)) (rest : List Section)
    (built : List (Instance (Blueprint σ ω))) : ∃ c : SetupState ω, a.LooksLike c ∧
      (ofSections registry (s :: rest) built).run.run a =
        (ofBindings type own bound built >>= ofSections registry rest).run.run c := by
  rw [ofSections, resolved, SetupM.run_state]
  simp only [found]
  cases bound with
  | nil => exact ⟨{ a with reports := a.reports ++ [.nothingBound own.identifier] }, ⟨rfl, rfl⟩, rfl⟩
  | cons entry bound => exact ⟨a, .refl a, rfl⟩

theorem run_ofSections_error {e : SetupError} {own : Section}
    (resolved : registry.resolve s.name = .ok type)
    (found : bindings type.scope s a.geometry = (.error e, own)) (rest : List Section)
    (built : List (Instance (Blueprint σ ω))) :
    (ofSections registry (s :: rest) built).run.run a =
      (throw e : SetupM ω (List (Instance (Blueprint σ ω)))).run.run a := by
  rw [ofSections, resolved, SetupM.run_state]
  simp only [found]

theorem ofSections_sides (sections : List Section) (same : Matches g built built' a)
    (alike : a.LooksLike b) :
    SetupM.SideBySide (ofSections registry sections built) (ofSections registry sections built') a b
      (Matches g) := by
  induction sections generalizing built built' a b with
  | nil => exact SetupM.sideBySide_pure same alike
  | cons s rest ih =>
    cases resolved : registry.resolve s.name with
    | error e =>
      rw [ofSections, ofSections, resolved]
      exact SetupM.sideBySide_throw fun _ => .rfl
    | ok type =>
      cases found : bindings type.scope s a.geometry with
      | mk outcome own =>
        have found' : bindings type.scope s b.geometry = (outcome, own) := alike.geometry ▸ found
        cases outcome with
        | error e =>
          exact .of_run (run_ofSections_error resolved found rest built)
            (run_ofSections_error resolved found' rest built')
            (SetupM.sideBySide_throw fun _ => .rfl)
        | ok bound =>
          obtain ⟨c, looks, run⟩ := run_ofSections_cons resolved found rest built
          obtain ⟨d, looks', run'⟩ := run_ofSections_cons resolved found' rest built'
          refine .of_run run run' (SetupM.sideBySide_bind (ofBindings_sides (.refl type own) bound
            (same.of_looksLike looks) ((looks.symm.trans alike).trans looks')) ?_)
          exact fun _ _ _ _ same states => ih same states

theorem ofSections_append (registry : Registry σ ω) (sections more : List Section)
    (built : List (Instance (Blueprint σ ω))) :
    ofSections registry (sections ++ more) built =
      ofSections registry sections built >>= ofSections registry more := by
  induction sections generalizing built with
  | nil => exact (pure_bind ..).symm
  | cons s rest ih =>
    rw [List.cons_append, ofSections, ofSections]
    cases registry.resolve s.name with
    | error e => rfl
    | ok type =>
      simp only [bind_assoc]
      refine bind_congr fun a => ?_
      cases bindings type.scope s a.geometry with
      | mk outcome own =>
        cases outcome with
        | error e => rfl
        | ok bound =>
          simp only [funext ih]
          split <;> simp only [bind_assoc]

theorem ofBindings_cons (type : ModuleType σ ω) (s : Section) (entry : Binding × List Detector)
    (rest : List (Binding × List Detector)) (built : List (Instance (Blueprint σ ω))) :
    ofBindings type s (entry :: rest) built =
      ofBindings type s [entry] built >>= ofBindings type s rest := by
  obtain ⟨binding, detectors⟩ := entry
  rw [ofBindings, ofBindings]
  split
  · rfl
  · simp only [ofBindings, bind_assoc, pure_bind]

end Instance

end DetectorSim
