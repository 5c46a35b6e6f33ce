import DetectorSim.Proofs.Config.Marks
import DetectorSim.Proofs.Pipeline.Requests

/-! Which keys are reported as unused. Each instance has a copy of its section that begins with the
marks of the section when it was bound. Only the questions of its own module change the copy, and
they are answered with it; so what is reported about an instance can be told from these questions
alone. -/

namespace DetectorSim

open Config
open Interaction (Exchange)

variable {σ ω : Type}

/-- The owner and the key of a report about an unused key. -/
def Report.unusedKey? : Report → Option (String × String)
  | .keyUnused owner key => some (owner, key)
  | _ => none

/-- The keys that are reported when a simulation is prepared, with their owners: those of the global
section, then those of the instances in the order of execution. -/
def Simulation.unusedKeys (s : Simulation σ ω) : List (String × String) :=
  s.globals.unusedKeys.map (s.globals.identifier, ·) ++
    s.modules.flatMap fun i => i.config.unusedKeys.map (i.identifier.display, ·)

/-- A question takes no mark away from a section, as operations on sections never do. -/
def BuildQuestion.KeepsMarks : BuildQuestion ω → Prop
  | .own change => ∀ s, s.marks ⊆ (change s).marks
  | _ => True

/-- A question of an initialization takes no mark away from the own section. -/
def InitQuestion.KeepsMarks : InitQuestion ω → Prop
  | .build q => q.KeepsMarks
  | .globals _ => True

theorem BuildQuestion.keepsMarks_after (history : List Section.Operation) :
    (own (·.after history) : BuildQuestion ω).KeepsMarks :=
  fun _ _ marked => Section.mem_marks_after.mpr (.inl marked)

/-- Neither the constructor of a module type nor the initializations of what it constructs take a
mark away from the own section. -/
structure ModuleType.KeepsMarks (type : ModuleType σ ω) : Prop where
  constructing : ∀ view, (type.construct view).run.OnlyAsks BuildQuestion.KeepsMarks
  initializing : ∀ view exchanges body,
    (type.construct view).run.Reaches exchanges (.done (.ok body)) →
      ∀ later, (body.init later).run.OnlyAsks InitQuestion.KeepsMarks

namespace Asked

/-- The section that answered a question about it, and what the question made of it. -/
def copies? : Asked ω → Option (Section × Section)
  | ⟨_, .own change, before⟩ => some (before, change before)
  | _ => none

/-- A question left a mark on a key that had none. -/
def Marks (key : String) (x : Asked ω) : Prop :=
  ∃ copies, x.copies? = some copies ∧ key ∉ copies.1.marks ∧ key ∈ copies.2.marks

theorem keeps_copies {asked : List (Asked ω)} (kept : ∀ x ∈ asked, x.question.KeepsMarks) :
    ∀ copies ∈ asked.filterMap copies?, copies.1.marks ⊆ copies.2.marks := by
  intro copies member
  obtain ⟨⟨module, question, answer⟩, within, found⟩ := List.mem_filterMap.mp member
  have keeps := kept _ within
  cases question with
  | own change =>
    cases found
    exact keeps answer
  | _ => cases found

theorem marks_copies {key : String} {asked : List (Asked ω)} :
    (∃ copies ∈ asked.filterMap copies?, key ∉ copies.1.marks ∧ key ∈ copies.2.marks) ↔
      ∃ x ∈ asked, x.Marks key := by
  constructor
  · rintro ⟨copies, member, marked⟩
    obtain ⟨x, within, found⟩ := List.mem_filterMap.mp member
    exact ⟨x, within, copies, found, marked⟩
  · rintro ⟨x, within, copies, found, marked⟩
    exact ⟨copies, List.mem_filterMap.mpr ⟨x, within, found⟩, marked⟩

end Asked

namespace Config.Section

/-- Questions that were answered with a section as it was each time, from one end to the other.
`keep` is what is kept of a change. -/
inductive Becomes (keep : Section → Section → Section) :
    Section → List (Section × Section) → Section → Prop where
  | refl (s : Section) : Becomes keep s [] s
  | step {s after t : Section} {rest : List (Section × Section)}
      (later : Becomes keep (keep s after) rest t) : Becomes keep s ((s, after) :: rest) t

/-- A change by a constructor is kept whole. -/
def whole (_ after : Section) : Section := after

/-- Of a change by an initialization only the marks are kept. -/
def marksAlone (before after : Section) : Section := { before with marks := after.marks }

section Becoming

variable {keep : Section → Section → Section} {s t u : Section}
  {copies : List (Section × Section)}

theorem Becomes.unique (first : s.Becomes keep copies t) (second : s.Becomes keep copies u) :
    u = t := by
  induction first with
  | refl s =>
    cases second
    rfl
  | step _ ih =>
    cases second with
    | step later => exact ih later

/-- As long as no mark is taken away, a key is marked just if it was at first or some question left
the mark. -/
theorem Becomes.mem_marks (becomes : s.Becomes keep copies t)
    (keepsMarks : ∀ before after, (keep before after).marks = after.marks)
    (kept : ∀ x ∈ copies, x.1.marks ⊆ x.2.marks) {key : String} :
    key ∈ t.marks ↔ key ∈ s.marks ∨ ∃ x ∈ copies, key ∉ x.1.marks ∧ key ∈ x.2.marks := by
  induction becomes with
  | refl s => simp
  | @step s after t rest _ ih =>
    obtain ⟨here, others⟩ := List.forall_mem_cons.mp kept
    rw [ih others, keepsMarks]
    simp only [List.mem_cons, exists_eq_or_imp]
    by_cases known : key ∈ s.marks
    · simp [known, here known]
    · simp [known]

end Becoming

end Config.Section

namespace Instance

/-- The constructor of the type in a slot made an instance with a copy of a section, and asked for
this. -/
inductive MadeFrom (s : Section) (slot : Slot σ ω) (i : Instance (Blueprint σ ω)) :
    List (Asked ω) → Prop where
  | intro {geometry : Geometry} {exchanges : List (Exchange (buildInterface ω))}
      (fills : i.Fills slot)
      (conversation : (slot.type.construct ⟨i.id, i.identifier, i.detectors, geometry⟩).run.Reaches
        exchanges (.done (.ok i.body)))
      (copy : (s.bound slot.type.scope).Becomes Section.whole
        ((exchanges.map (Asked.ofBuild i.id)).filterMap Asked.copies?) i.config) :
      MadeFrom s slot i (exchanges.map (.ofBuild i.id))

/-- An instance was made with a copy of a section, and initialized with what its constructor left of
the copy. -/
inductive SetUpFrom (s : Section) (slot : Slot σ ω) (ready : ReadyModule σ ω) :
    Inquiry ω → Prop where
  | intro {i : Instance (Blueprint σ ω)} {constructing initializing : List (Asked ω)}
      (made : i.MadeFrom s slot constructing) (initialized : ready.Initialized i initializing)
      (copy : i.config.Becomes Section.marksAlone (initializing.filterMap Asked.copies?)
        ready.config) :
      SetUpFrom s slot ready ⟨constructing, initializing⟩

section Copies

variable {s : Section} {slot : Slot σ ω} {i : Instance (Blueprint σ ω)} {asked : List (Asked ω)}
  {ready other : ReadyModule σ ω} {inquiry : Inquiry ω}

theorem MadeFrom.copy (made : i.MadeFrom s slot asked) :
    (s.bound slot.type.scope).Becomes Section.whole (asked.filterMap Asked.copies?) i.config := by
  cases made with
  | intro _ _ copy => exact copy

/-- What becomes of the copy of a module is told by its own questions. -/
theorem SetUpFrom.config_unique (first : ready.SetUpFrom s slot inquiry)
    (second : other.SetUpFrom s slot inquiry) : other.config = ready.config := by
  obtain ⟨made, _, copy⟩ := first
  obtain ⟨again, _, copied⟩ := second
  rw [made.copy.unique again.copy] at copied
  exact copy.unique copied

/-- As long as a module takes no mark away, a key of its copy is marked just if it was when the
section was bound or the module left the mark. -/
theorem SetUpFrom.mem_marks (setUp : ready.SetUpFrom s slot inquiry)
    (kept : ∀ x ∈ inquiry.constructing ++ inquiry.initializing, x.question.KeepsMarks)
    {key : String} :
    key ∈ ready.config.marks ↔ key ∈ (s.bound slot.type.scope).marks ∨
      ∃ x ∈ inquiry.constructing ++ inquiry.initializing, x.Marks key := by
  obtain ⟨made, _, copy⟩ := setUp
  obtain ⟨first, later⟩ := List.forall_mem_append.mp kept
  rw [copy.mem_marks (fun _ _ => rfl) (Asked.keeps_copies later),
    made.copy.mem_marks (fun _ _ => rfl) (Asked.keeps_copies first), Asked.marks_copies,
    Asked.marks_copies, or_assoc]
  simp only [List.mem_append, or_and_right, exists_or]

theorem SetUpFrom.keepsMarks (setUp : ready.SetUpFrom s slot inquiry)
    (keeps : slot.type.KeepsMarks) :
    ∀ x ∈ inquiry.constructing ++ inquiry.initializing, x.question.KeepsMarks := by
  obtain ⟨⟨fills, conversation, _⟩, ⟨readied, initialized⟩, _⟩ := setUp
  refine List.forall_mem_append.mpr ⟨fun x asked => ?_, fun x asked => ?_⟩
  · obtain ⟨y, within, rfl⟩ := List.mem_map.mp asked
    exact ((keeps.constructing _).reaches conversation).1 y within
  · obtain ⟨⟨question, answer⟩, within, found⟩ := List.mem_filterMap.mp asked
    have permitted := ((keeps.initializing _ _ _ conversation _).reaches initialized).1 _ within
    cases question with
    | build q =>
      cases found
      exact permitted
    | globals change => cases found

/-- The keys that are reported about an instance are told by what its own module asked, whatever
other modules did. If the module took no mark away, a key is reported just if it is set in the copy
of the section at the end, had no mark in the section when that was bound, and got none from the
module; a restriction to types is then never reported. -/
structure ToldBy (s : Section) (slot : Slot σ ω) (ready : ReadyModule σ ω) (inquiry : Inquiry ω) :
    Prop where
  setUp : ready.SetUpFrom s slot inquiry
  alone : ∀ other : ReadyModule σ ω, other.SetUpFrom s slot inquiry → other.config = ready.config
  reported : (∀ x ∈ inquiry.constructing ++ inquiry.initializing, x.question.KeepsMarks) →
    ∀ key, key ∈ ready.config.unusedKeys ↔
      ready.config.has key = true ∧ key ∉ (s.bound slot.type.scope).marks ∧
        ∀ x ∈ inquiry.constructing ++ inquiry.initializing, ¬x.Marks key
  restriction : (∀ x ∈ inquiry.constructing ++ inquiry.initializing, x.question.KeepsMarks) →
    slot.type.scope ≠ .global → s.has "type" = true → "type" ∉ ready.config.unusedKeys

theorem SetUpFrom.toldBy (setUp : ready.SetUpFrom s slot inquiry) :
    ready.ToldBy s slot inquiry where
  setUp := setUp
  alone := fun _ again => setUp.config_unique again
  reported := by
    intro kept key
    rw [Section.mem_unusedKeys, setUp.mem_marks kept, not_or, not_exists]
    simp only [not_and]
  restriction := by
    intro kept scope set listed
    have marked : "type" ∈ (s.bound slot.type.scope).marks := by
      rw [Section.bound, if_pos ⟨scope, set⟩]
      exact Section.mem_marks_mark.mpr (.inr rfl)
    exact (Section.mem_unusedKeys.mp listed).2 ((setUp.mem_marks kept).mpr (.inl marked))

end Copies

theorem construct_copies (s : Section) (slot : Slot σ ω) (id : ModuleId) (a : SetupState ω) :
    (construct slot.type (s.bound slot.type.scope) id slot.identifier slot.detectors).Leads a
      (fun i b => (∃ asked, i.MadeFrom s slot asked) ∧ b.reports = a.reports)
      (fun _ _ => True) := by
  refine (construct_reaches (fun s exchanges t => s.1.Becomes Section.whole
      ((exchanges.map (Asked.ofBuild id)).filterMap Asked.copies?) t.1 ∧
        t.2.reports = s.2.reports) (fun _ => ⟨.refl _, rfl⟩) id ?_ _ _ _ _ a).mono ?_
    fun _ _ _ => trivial
  · rintro τ answers files q ⟨own, b⟩ rest t ended ⟨later, reports⟩
    cases q with
    | own change => exact ⟨.step later, reports⟩
    | _ => exact ⟨later, reports⟩
  · rintro i b ⟨exchanges, own, c, body, rfl, conversation, ⟨copy, reports⟩, rfl⟩
    exact ⟨⟨_, .intro ⟨rfl, rfl, rfl⟩ conversation copy⟩, reports⟩

theorem init_copies (i : Instance (Blueprint σ ω)) (globals : Section) (a : SetupState ω) :
    (i.init globals).Leads a
      (fun ready b => (∃ asked, ready.1.Initialized i asked ∧
        i.config.Becomes Section.marksAlone (asked.filterMap Asked.copies?) ready.1.config) ∧
          b.reports = a.reports)
      (fun _ _ => True) := by
  refine (init_reaches (fun s exchanges t => s.1.Becomes Section.marksAlone
      ((exchanges.filterMap (Asked.ofInit? i.id)).filterMap Asked.copies?) t.1 ∧
        t.2.2.reports = s.2.2.reports) (fun _ => ⟨.refl _, rfl⟩) i ?_ globals a).mono ?_
    fun _ _ _ => trivial
  · rintro τ answers files q ⟨own, globals, b⟩ rest t ended ⟨later, reports⟩
    cases q with
    | globals change => exact ⟨later, reports⟩
    | build q =>
      cases q with
      | own change => exact ⟨.step later, reports⟩
      | _ => exact ⟨later, reports⟩
  · rintro ⟨ready, after⟩ b ⟨exchanges, own, c, body, rfl, conversation, ⟨copy, reports⟩, rfl⟩
    exact ⟨⟨_, .intro ⟨own, body, rfl⟩ conversation, copy⟩, reports⟩

section Loops

variable {filled : List (Section × Slot σ ω)} {built : List (Instance (Blueprint σ ω))}

/-- The instances built so far were made from these origins, and no unused key was reported. -/
structure Copying (a : SetupState ω) (filled : List (Section × Slot σ ω))
    (built : List (Instance (Blueprint σ ω))) (b : SetupState ω) : Prop where
  made : List.Forall₂ (fun i origin => ∃ asked, MadeFrom origin.1 origin.2 i asked) built filled
  unreported : b.reports.filterMap Report.unusedKey? = a.reports.filterMap Report.unusedKey?

theorem copying_kept (registry : Registry σ ω) (a : SetupState ω) :
    Kept registry (Copying a) where
  constructs := by
    rintro filled built b s slot _ ⟨made, unreported⟩
    refine (construct_copies s slot built.length b).mono ?_ fun _ _ _ => trivial
    rintro i c ⟨fresh, reports⟩
    exact ⟨List.rel_append made (.cons fresh .nil), reports ▸ unreported⟩
  reports := by
    rintro filled built b owner ⟨made, unreported⟩
    refine ⟨made, ?_⟩
    rw [List.filterMap_append, unreported]
    exact List.append_nil _

theorem initAll_copies
    (made : List.Forall₂ (fun i origin => ∃ asked, MadeFrom origin.1 origin.2 i asked) built filled)
    (globals : Section) (a : SetupState ω) :
    (initAll built globals).Leads a
      (fun ready b => List.Forall₂
        (fun i origin => ∃ inquiry, SetUpFrom origin.1 origin.2 i inquiry) ready.1 filled ∧
          b.reports = a.reports)
      (fun _ _ => True) := by
  induction made generalizing globals a with
  | nil => exact SetupM.leads_pure ⟨.nil, rfl⟩
  | cons first _ ih =>
    obtain ⟨constructing, first⟩ := first
    rw [initAll]
    refine SetupM.leads_bind ((init_copies _ globals a).mono ?_ fun _ _ _ => trivial)
    rintro ⟨ready, globals⟩ b ⟨⟨asked, initialized, copy⟩, reports⟩
    refine SetupM.leads_bind ((ih globals b).mono ?_ fun _ _ _ => trivial)
    rintro ⟨others, globals⟩ c ⟨all, later⟩
    exact SetupM.leads_pure ⟨.cons ⟨_, .intro first initialized copy⟩ all, later.trans reports⟩

end Loops

end Instance

theorem effectiveWorkers_reports (settings : Settings) (serial : List String) :
    (effectiveWorkers settings serial).2.filterMap Report.unusedKey? = [] := by
  rw [effectiveWorkers]
  dsimp only
  split
  · rfl
  · split
    · rfl
    · split <;> rfl

theorem unusedKeyReports_eq (owner : String) (s : Section) :
    (unusedKeyReports owner s).filterMap Report.unusedKey? = s.unusedKeys.map (owner, ·) := by
  rw [unusedKeyReports, List.filterMap_map]
  exact congrFun List.filterMap_eq_map s.unusedKeys

namespace Simulation

/-- How the modules of a simulation came about, and which unused keys were reported meanwhile. -/
structure Reported (registry : Registry σ ω) (sections : List Section) (a : SetupState ω)
    (s : Simulation σ ω) (b : SetupState ω) : Prop where
  setUp : ∃ parts, List.Forall₂ (Section.Expands registry b.geometry) sections parts ∧
    List.Forall₂ (fun i origin => ∃ inquiry, Instance.SetUpFrom origin.1 origin.2 i inquiry)
      s.modules (origins sections parts)
  reports : b.reports.filterMap Report.unusedKey? =
    a.reports.filterMap Report.unusedKey? ++ s.unusedKeys

theorem assemble_copies (registry : Registry σ ω) (sections : List Section) (settings : Settings)
    (g : Geometry) (globals : Section) (a : SetupState ω) :
    (assemble registry sections settings g globals).Leads a (Reported registry sections a)
      (fun _ _ => True) := by
  rw [assemble]
  refine SetupM.leads_bind (SetupM.leads_change ?_)
  refine SetupM.leads_bind (SetupM.leads_change ?_)
  refine SetupM.leads_bind (((Instance.instantiate_leads _ _ _).and
    (Instance.instantiate_keeps (Instance.copying_kept registry _) _ ⟨.nil, rfl⟩)).mono ?_
      fun _ _ _ => trivial)
  rintro built b ⟨⟨_, _, building⟩, parts, expands, made, unreported⟩
  refine SetupM.leads_bind (SetupM.leads_change ?_)
  refine SetupM.leads_bind (((Instance.initAll_leads _ _ _).and
    (Instance.initAll_copies made _ _)).mono ?_ fun _ _ _ => trivial)
  rintro ⟨modules, globals⟩ c ⟨⟨_, _, same⟩, setUp, reports⟩
  refine SetupM.leads_bind ((SetupM.reports_lead _ _).mono ?_ fun _ _ failed => failed)
  rintro _ d rfl
  refine SetupM.leads_bind ((SetupM.reports_lead _ _).mono ?_ fun _ _ failed => failed)
  rintro _ d rfl
  refine SetupM.leads_bind (SetupM.leads_change (SetupM.leads_bind (SetupM.leads_state ?_)))
  refine SetupM.leads_pure ⟨⟨parts, ?_, setUp⟩, ?_⟩
  · exact expands.imp fun s part expands =>
      expands.of_sameDetectors
        ((building.detectors.trans same).trans (Geometry.sameDetectors_freeze _))
  · have before : c.reports.filterMap Report.unusedKey? =
        a.reports.filterMap Report.unusedKey? := by
      simp only [reports, List.filterMap_append, unreported]
      exact (List.append_nil _).trans (List.append_nil _)
    have silent := effectiveWorkers_reports settings
      ((modules.filter (!·.concurrent)).map (·.identifier.display))
    refine List.filterMap_append.trans ((congrArg (_ ++ ·) silent).trans ?_)
    rw [List.append_nil]
    simp only [List.filterMap_append, List.filterMap_flatMap, unusedKeyReports_eq, before]
    rfl

theorem prepare_copies (registry : Registry σ ω) (config : RunConfig) (given : Option Geometry)
    (processors : Nat) (a : SetupState ω) :
    (prepare registry config given processors).Leads a (Reported registry config.modules a)
      (fun _ _ => True) := by
  rw [prepare]
  refine SetupM.leads_bind ((SetupM.access_leads _ _ _).mono ?_ fun _ _ _ => trivial)
  rintro ⟨settings, globals⟩ b ⟨_, rfl⟩
  cases given with
  | some g => exact assemble_copies registry config.modules settings g globals b
  | none =>
    refine SetupM.leads_bind ((SetupM.loadGeometry_leads globals b).mono ?_ fun _ _ _ => trivial)
    rintro ⟨g, globals⟩ b rfl
    exact assemble_copies registry config.modules settings g globals b

/-- Unused keys are reported per instance. Of a simulation that is prepared, those of the global
section are reported first and then those of the instances in the order of execution, each in order.
Every instance comes from a section and a slot of it, and which keys are reported about it can be
told from what its own module asked. -/
theorem unused_keys_are_reported_per_instance {τ : Type} (registry : Registry σ ω)
    (config : RunConfig) (given : Option Geometry) (processors : Nat) (a : SetupState ω)
    (answers : Interaction.Answers fileInterface τ) (files : τ) :
    let ended := (prepare registry config given processors).resultFrom a answers files
    ∀ s, ended.1 = .ok s →
      ended.2.reports.filterMap Report.unusedKey? =
        a.reports.filterMap Report.unusedKey? ++ s.unusedKeys ∧
      s.globals.unusedKeys.Pairwise (· < ·) ∧
      ∃ parts, List.Forall₂ (Section.Expands registry ended.2.geometry) config.modules parts ∧
        List.Forall₂ (fun i origin => i.config.unusedKeys.Pairwise (· < ·) ∧
            ∃ inquiry, Instance.ToldBy origin.1 origin.2 i inquiry)
          s.modules (origins config.modules parts) := by
  intro ended s made
  obtain ⟨⟨parts, expands, setUp⟩, reports⟩ :=
    (prepare_copies registry config given processors a).ok made
  refine ⟨reports, s.globals.unusedKeys_pairwise, parts, expands, setUp.imp ?_⟩
  rintro i origin ⟨inquiry, setUp⟩
  exact ⟨i.config.unusedKeys_pairwise, inquiry, setUp.toldBy⟩

private def twin (name : String) (slot : Nat) : Placement :=
  ⟨⟨name, slot, 0, ⟨"alpide", 8, 8, .replicate 2 0.03, 0.05, .monolithic⟩, .replicate 3 0,
    .replicate 3 0⟩, .empty⟩

/-- Two detectors of one model. -/
private def twins : Geometry where
  models := [(twin "left" 0).detector.model]
  placements := [twin "left" 0, twin "right" 1]
  index := (Dictionary.empty.insert "left" 0).insert "right" 1
  isSealed := false

private def idle : Blueprint Unit Unit :=
  Module.blueprint ⟨(), fun _ => pure (), fun _ => pure ()⟩

/-- A type of modules of which only the one for the left detector reads and writes. -/
private def oneSided : ModuleType Unit Unit where
  name := "Reader"
  scope := .perDetector
  concurrent := true
  construct view := do
    if view.identifier.binding = .detector "left" then
      let _ ← BuildProgram.query (.own (·.after [.read .text "gain", .set "extra" "1"]))
    return idle

private def oneSidedRun : RunConfig where
  globals := (((Section.new globalName none).set "number_of_events" "1").set "random_seed" "7").set
    "note" "none"
  modules := [((Section.new "Reader" none).set "gain" "2").set "type" "alpide"]

private theorem oneSided_keepsMarks : oneSided.KeepsMarks where
  constructing view := by
    change (ite _ _ _ : BuildProgram Unit _).run.OnlyAsks _
    split
    · exact ⟨BuildQuestion.keepsMarks_after _, fun _ => trivial⟩
    · trivial
  initializing view exchanges body conversation := by
    change (ite _ _ _ : BuildProgram Unit _).run.Reaches _ _ at conversation
    have same : body = idle := by
      split at conversation
      · obtain _ | ⟨_, ended⟩ := conversation
        cases (Interaction.reaches_done_iff.mp ended).2
        rfl
      · cases (Interaction.reaches_done_iff.mp conversation).2
        rfl
    rw [same]
    exact fun _ => trivial

/-- What the module of the left detector reads is still reported about the right one, and what it
sets only about itself. Both were restricted to a model. -/
theorem twins_are_reported_apart :
    let ended := (prepare ⟨[oneSided]⟩ oneSidedRun (some twins) 8).resultFrom (.start .empty)
      FileTree.answers ⟨[]⟩
    ∃ s, ended.1 = .ok s ∧
      s.unusedKeys = [("Pixsim", "note"), ("Reader:left", "extra"), ("Reader:right", "gain")] ∧
      ended.2.reports.filterMap Report.unusedKey? = s.unusedKeys ∧
      ∃ parts, List.Forall₂ (Section.Expands ⟨[oneSided]⟩ ended.2.geometry) oneSidedRun.modules
          parts ∧
        List.Forall₂ (fun i origin => "type" ∉ i.config.unusedKeys ∧
            ∃ inquiry, Instance.ToldBy origin.1 origin.2 i inquiry ∧
              ∀ x ∈ inquiry.constructing ++ inquiry.initializing, x.question.KeepsMarks)
          s.modules (origins oneSidedRun.modules parts) := by
  intro ended
  have keys : ended.1.map unusedKeys =
      .ok [("Pixsim", "note"), ("Reader:left", "extra"), ("Reader:right", "gain")] := by
    decide +kernel
  obtain ⟨s, made, keys⟩ := ok_of_map keys
  obtain ⟨reports, _, parts, expands, told⟩ := unused_keys_are_reported_per_instance ⟨[oneSided]⟩
    oneSidedRun (some twins) 8 (.start .empty) FileTree.answers ⟨[]⟩ s made
  refine ⟨s, made, keys, reports, parts, expands, ?_⟩
  have oneType : ∀ origin ∈ origins oneSidedRun.modules parts,
      origin.1.has "type" = true ∧ origin.2.type = oneSided := by
    intro origin member
    obtain ⟨within, resolved⟩ := resolve_of_mem_origins expands member
    rw [List.mem_singleton.mp within]
    exact ⟨rfl, List.mem_singleton.mp (Registry.mem_of_resolve resolved)⟩
  refine ((List.forall₂_and_left ..).mpr ⟨oneType, told.flip⟩).flip.imp ?_
  rintro i origin ⟨⟨restricted, type⟩, _, inquiry, told⟩
  have kept := told.setUp.keepsMarks (type ▸ oneSided_keepsMarks)
  exact ⟨told.restriction kept (type ▸ by decide) restricted, inquiry, told, kept⟩

end Simulation

end DetectorSim
