import DetectorSim.Proofs.Geometry.Operations
import DetectorSim.Proofs.Message.Places
import DetectorSim.Proofs.Pipeline.Constructions
import DetectorSim.Proofs.Pipeline.Naming

/-! What modules ask for while they are set up. The subscriptions and the attached objects of a
simulation are those that its constructors and initializations asked for, in the order of their
calls, and each question about objects is answered from the setup as it is then. -/

namespace DetectorSim

open Config

open Interaction (Exchange)

variable {σ ω : Type}

/-- A question that a module asked while it was set up, and its answer. -/
structure Asked (ω : Type) where
  module : ModuleId
  question : BuildQuestion ω
  answer : question.Answer

namespace Asked

/-- The subscription that was asked for. -/
def subscription? (x : Asked ω) : Option (Subscription ω) :=
  match x.question with
  | .subscribe request => some (request.madeBy x.module)
  | _ => none

/-- The use of attached objects that was asked for. -/
def use? (x : Asked ω) : Option Geometry.Operation :=
  match x.question with
  | .object q => some (.use q)
  | _ => none

/-- What was asked in a conversation of a constructor. -/
def ofBuild (module : ModuleId) (x : Exchange (buildInterface ω)) : Asked ω :=
  ⟨module, x.question, x.answer⟩

/-- What was asked in a conversation of an initialization. -/
def ofInit? (module : ModuleId) : Exchange (initInterface ω) → Option (Asked ω)
  | ⟨.build q, answer⟩ => some ⟨module, q, answer⟩
  | ⟨.globals _, _⟩ => none

end Asked

/-- Questions about attached objects were answered from the setup as it was then. -/
def Geometry.Answered (g : Geometry) : List (Asked ω) → Prop
  | [] => True
  | ⟨_, .object q, answer⟩ :: rest => answer = (g.use q).1 ∧ (g.use q).2.Answered rest
  | _ :: rest => g.Answered rest

theorem Geometry.sameDetectors_asked (g : Geometry) (asked : List (Asked ω)) :
    g.SameDetectors (g.after (asked.filterMap Asked.use?)) := by
  induction asked generalizing g with
  | nil => exact .refl g
  | cons x rest ih =>
    obtain ⟨module, question, answer⟩ := x
    cases question with
    | object q => exact (g.sameDetectors_use q).trans (ih _)
    | _ => exact ih g

theorem Geometry.answered_append (g : Geometry) (asked more : List (Asked ω)) :
    g.Answered (asked ++ more) ↔
      g.Answered asked ∧ (g.after (asked.filterMap Asked.use?)).Answered more := by
  induction asked generalizing g with
  | nil => exact ⟨fun later => ⟨trivial, later⟩, And.right⟩
  | cons x rest ih =>
    obtain ⟨module, question, answer⟩ := x
    cases question with
    | object q => exact (and_congr_right fun _ => ih (g.use q).2).trans and_assoc.symm
    | _ => exact ih g

/-- From one state to another, these questions were answered. -/
structure SetupState.Serves (a : SetupState ω) (asked : List (Asked ω)) (b : SetupState ω) :
    Prop where
  table : b.table = (asked.filterMap Asked.subscription?).foldl .add a.table
  geometry : b.geometry = a.geometry.after (asked.filterMap Asked.use?)
  answered : a.geometry.Answered asked

namespace SetupState

variable {a b c : SetupState ω} {asked more : List (Asked ω)}

theorem Serves.of_same (table : b.table = a.table) (geometry : b.geometry = a.geometry) :
    a.Serves [] b :=
  ⟨table, geometry, trivial⟩

theorem Serves.trans (first : a.Serves asked b) (rest : b.Serves more c) :
    a.Serves (asked ++ more) c where
  table := by
    rw [rest.table, first.table, List.filterMap_append, List.foldl_append]
  geometry := by
    rw [rest.geometry, first.geometry, List.filterMap_append, Geometry.after_append]
  answered :=
    (a.geometry.answered_append asked more).mpr ⟨first.answered, first.geometry ▸ rest.answered⟩

/-- A state that differs in nothing that modules ask about serves the same questions. -/
theorem Serves.change (serves : a.Serves asked b) (table : c.table = b.table)
    (geometry : c.geometry = b.geometry) : a.Serves asked c :=
  ⟨table.trans serves.table, geometry.trans serves.geometry, serves.answered⟩

end SetupState

theorem answerBuild_serves {τ : Type} (module : ModuleId) (q : BuildQuestion ω) (own : Section)
    (a : SetupState ω) (answers : Interaction.Answers fileInterface τ) (files : τ) :
    let ended := (((answerBuild module q).run (own, a)).run answers files).1
    a.Serves [⟨module, q, ended.1⟩] ended.2.2 := by
  cases q with
  | object q => exact ⟨rfl, rfl, rfl, trivial⟩
  | _ => exact ⟨rfl, rfl, trivial⟩

theorem answerInit_serves {τ : Type} (module : ModuleId) (q : InitQuestion ω)
    (own globals : Section) (a : SetupState ω) (answers : Interaction.Answers fileInterface τ)
    (files : τ) :
    let ended := (((answerInit module q).run (own, globals, a)).run answers files).1
    a.Serves ((Asked.ofInit? module ⟨q, ended.1⟩).toList) ended.2.2.2 := by
  cases q with
  | globals change => exact .of_same rfl rfl
  | build q =>
    have serves := answerBuild_serves module q own a answers files
    change let ended := (((answerBuild module q).run (own, a) >>= fun reply =>
      pure (reply.1, { own with marks := reply.2.1.marks }, globals, reply.2.2)).run
        answers files).1
      a.Serves ((Asked.ofInit? module ⟨.build q, ended.1⟩).toList) ended.2.2.2
    rw [Interaction.run_bind]
    exact serves

namespace Instance

/-- A module type of the registry constructed an instance, and asked for this. -/
inductive Constructed (registry : Registry σ ω) (i : Instance (Blueprint σ ω)) :
    List (Asked ω) → Prop where
  | intro {type : ModuleType σ ω} {geometry : Geometry}
      {exchanges : List (Exchange (buildInterface ω))} (registered : type ∈ registry.types)
      (name : i.identifier.name = type.name)
      (conversation : (type.construct ⟨i.id, i.identifier, i.detectors, geometry⟩).run.Reaches
        exchanges (.done (.ok i.body))) :
      Constructed registry i (exchanges.map (.ofBuild i.id))

/-- A constructed instance was initialized, and asked for this. -/
inductive Initialized (ready : ReadyModule σ ω) (i : Instance (Blueprint σ ω)) :
    List (Asked ω) → Prop where
  | intro {geometry : Geometry} {exchanges : List (Exchange (initInterface ω))}
      (readied : ready.Readied i)
      (conversation : (i.body.init ⟨i.id, i.identifier, i.detectors, geometry⟩).run.Reaches
        exchanges (.done (.ok ready.body))) :
      Initialized ready i (exchanges.filterMap (Asked.ofInit? i.id))

theorem Initialized.identifier {ready : ReadyModule σ ω} {i : Instance (Blueprint σ ω)}
    {asked : List (Asked ω)} (initialized : ready.Initialized i asked) :
    ready.identifier = i.identifier := by
  cases initialized with
  | intro readied _ =>
    obtain ⟨config, body, rfl⟩ := readied
    rfl

end Instance

/-- What a module asked while it was constructed, and while it was initialized. -/
structure Inquiry (ω : Type) where
  constructing : List (Asked ω)
  initializing : List (Asked ω)

/-- A module was set up by a type of the registry, and asked for this. -/
inductive Instance.SetUp (registry : Registry σ ω) (ready : ReadyModule σ ω) :
    Inquiry ω → Prop where
  | intro {i : Instance (Blueprint σ ω)} {constructing initializing : List (Asked ω)}
      (constructed : i.Constructed registry constructing)
      (initialized : ready.Initialized i initializing) :
      SetUp registry ready ⟨constructing, initializing⟩

namespace Instance

theorem construct_asks {registry : Registry σ ω} {type : ModuleType σ ω}
    (registered : type ∈ registry.types) (s : Section) (id : ModuleId) (binding : Binding)
    (detectors : List Detector) (a : SetupState ω) :
    (construct type s id ⟨type.name, binding⟩ detectors).Leads a
      (fun i b => ∃ asked, i.Constructed registry asked ∧ a.Serves asked b) (fun _ _ => True) := by
  refine (construct_reaches (fun s exchanges t => s.2.Serves (exchanges.map (.ofBuild id)) t.2)
    (fun _ => .of_same rfl rfl) id (fun τ answers files q s rest t later =>
      (answerBuild_serves id q s.1 s.2 answers files).trans later) type s _ detectors a).mono ?_
    fun _ _ _ => trivial
  rintro i b ⟨exchanges, own, c, body, rfl, conversation, serves, rfl⟩
  exact ⟨_, .intro registered rfl conversation, serves.change rfl rfl⟩

section Constructing

variable {registry : Registry σ ω} {built : List (Instance (Blueprint σ ω))}
  {logs : List (List (Asked ω))} {a b : SetupState ω}

/-- The instances built so far were constructed one after the other, from one state to another. -/
structure Constructing (registry : Registry σ ω) (a : SetupState ω)
    (built : List (Instance (Blueprint σ ω))) (logs : List (List (Asked ω)))
    (b : SetupState ω) : Prop where
  constructed : List.Forall₂ (Constructed registry) built logs
  serves : a.Serves logs.flatten b

theorem constructing_kept (registry : Registry σ ω) (a : SetupState ω) :
    Kept registry fun _ built b => ∃ logs, Constructing registry a built logs b where
  constructs := by
    rintro _ built b s slot resolved ⟨logs, valid⟩
    refine (construct_asks (Registry.mem_of_resolve resolved) _ built.length slot.binding
      slot.detectors b).mono ?_ fun _ _ _ => trivial
    rintro i c ⟨log, constructed, serves⟩
    refine ⟨logs ++ [log], List.rel_append valid.constructed (.cons constructed .nil), ?_⟩
    rw [List.flatten_append, List.flatten_singleton]
    exact valid.serves.trans serves
  reports := fun _ ⟨logs, valid⟩ => ⟨logs, valid.constructed, valid.serves.change rfl rfl⟩

theorem instantiate_asks (registry : Registry σ ω) (sections : List Section) (a : SetupState ω) :
    (instantiate registry sections).Leads a
      (fun built b => ∃ logs, Constructing registry a built logs b) (fun _ _ => True) :=
  (instantiate_keeps (constructing_kept registry a) sections
    ⟨[], .nil, .of_same rfl rfl⟩).mono (fun _ _ ⟨_, _, valid⟩ => valid) fun _ _ _ => trivial

end Constructing

section Initializing

theorem init_asks (i : Instance (Blueprint σ ω)) (globals : Section) (a : SetupState ω) :
    (i.init globals).Leads a
      (fun ready b => ∃ asked, ready.1.Initialized i asked ∧ a.Serves asked b)
      (fun _ _ => True) := by
  refine (init_reaches (fun s exchanges t =>
      s.2.2.Serves (exchanges.filterMap (Asked.ofInit? i.id)) t.2.2) (fun _ => .of_same rfl rfl) i
    (fun τ answers files q s rest t later => by
      rw [List.filterMap_eq_flatMap_toList] at later ⊢
      exact (answerInit_serves i.id q s.1 s.2.1 s.2.2 answers files).trans later)
    globals a).mono ?_ fun _ _ _ => trivial
  rintro ⟨ready, after⟩ b ⟨exchanges, own, c, body, rfl, conversation, serves, rfl⟩
  exact ⟨_, .intro ⟨own, body, rfl⟩ conversation, serves.change rfl rfl⟩

theorem initAll_asks {registry : Registry σ ω} {instances : List (Instance (Blueprint σ ω))}
    {logs : List (List (Asked ω))}
    (constructed : List.Forall₂ (Constructed registry) instances logs) (globals : Section)
    (a : SetupState ω) :
    (initAll instances globals).Leads a
      (fun ready b => ready.1.map (·.identifier) = instances.map (·.identifier) ∧
        ∃ inquiries, List.Forall₂ (SetUp registry) ready.1 inquiries ∧
          inquiries.map Inquiry.constructing = logs ∧
          a.Serves (inquiries.flatMap Inquiry.initializing) b)
      (fun _ _ => True) := by
  induction constructed generalizing globals a with
  | nil => exact SetupM.leads_pure ⟨rfl, [], .nil, rfl, .of_same rfl rfl⟩
  | cons made _ ih =>
    rw [initAll]
    refine SetupM.leads_bind ((init_asks _ globals a).mono ?_ fun _ _ _ => trivial)
    rintro ⟨ready, globals⟩ b ⟨asked, initialized, serves⟩
    refine SetupM.leads_bind ((ih globals b).mono ?_ fun _ _ _ => trivial)
    rintro ⟨others, globals⟩ c ⟨identities, inquiries, all, rfl, later⟩
    refine SetupM.leads_pure ⟨?_, _ :: inquiries, .cons (.intro made initialized) all, rfl, ?_⟩
    · rw [List.map_cons, List.map_cons, initialized.identifier, identities]
    · exact serves.trans later

end Initializing

end Instance

namespace Geometry

variable {τ : Type} {answers : Interaction.Answers fileInterface τ} {files : τ} {g : Geometry}

theorem isConfigured_ofFiles {models detectors : Path}
    (made : ((ofFiles models detectors).run answers files).1 = .ok g) : g.IsConfigured := by
  rw [ofFiles, Interaction.run_bind] at made
  generalize (Document.load models).run answers files = ran at made
  obtain ⟨read, files⟩ := ran
  cases read with
  | error e => cases made
  | ok modelSections =>
    rw [Interaction.run_bind] at made
    generalize (Document.load detectors).run answers files = ran at made
    obtain ⟨read, files⟩ := ran
    cases read with
    | error e => cases made
    | ok detectorSections => exact ⟨_, _, made⟩

theorem isConfigured_ofFile {path : Path}
    (made : ((ofFile path).run answers files).1 = .ok (.ok g)) : g.IsConfigured := by
  rw [ofFile, Interaction.run_bind] at made
  generalize (Document.load path).run answers files = ran at made
  obtain ⟨read, files⟩ := ran
  cases read with
  | error e => cases made
  | ok sections => exact ⟨_, _, Except.ok.inj made⟩

end Geometry

namespace SetupM

theorem ensure_ok_leads {ε α : Type} {wrap : ε → SetupError} (outcome : Except ε α)
    (a : SetupState ω) :
    (ensure wrap outcome).Leads a (fun value b => outcome = .ok value ∧ b = a)
      (fun _ _ => True) := by
  cases outcome with
  | ok value => exact leads_pure ⟨rfl, rfl⟩
  | error e => exact leads_throw trivial

theorem loadGeometry_configures (globals : Section) (a : SetupState ω) :
    (loadGeometry globals).Leads a (fun loaded b => loaded.1.IsConfigured ∧ b = a)
      (fun _ _ => True) := by
  rw [loadGeometry]
  split
  · exact leads_pure ⟨Geometry.isConfigured_empty, rfl⟩
  · refine leads_bind ((path_leads globals _ a).mono ?_ fun _ _ _ => trivial)
    rintro ⟨detectors, globals⟩ _ rfl
    dsimp only
    split
    · refine leads_bind ((path_leads globals _ _).mono ?_ fun _ _ _ => trivial)
      rintro ⟨models, globals⟩ b rfl
      refine leads_bind (leads_onFiles fun τ answers files => ?_)
      refine leads_bind ((ensure_ok_leads _ b).mono ?_ fun _ _ _ => trivial)
      rintro geometry _ ⟨made, rfl⟩
      exact leads_pure ⟨Geometry.isConfigured_ofFiles made, rfl⟩
    · refine leads_bind (leads_onFiles fun τ answers files => ?_)
      refine leads_bind ((ensure_ok_leads _ _).mono ?_ fun _ _ _ => trivial)
      rintro read b ⟨made, rfl⟩
      refine leads_bind ((ensure_ok_leads read b).mono ?_ fun _ _ _ => trivial)
      rintro geometry _ ⟨rfl, rfl⟩
      exact leads_pure ⟨Geometry.isConfigured_ofFile made, rfl⟩

end SetupM

/-- All that modules asked, first in the constructors and then in the initializations. -/
def Inquiry.all (inquiries : List (Inquiry ω)) : List (Asked ω) :=
  inquiries.flatMap constructing ++ inquiries.flatMap initializing

namespace Simulation

/-- What a simulation was set up from: a detector setup, the subscriptions from before, and what
its modules asked. -/
structure SetUpFrom (registry : Registry σ ω) (g : Geometry) (table : SubscriptionTable ω)
    (inquiries : List (Inquiry ω)) (s : Simulation σ ω) : Prop where
  modules : List.Forall₂ (Instance.SetUp registry) s.modules inquiries
  identities : (s.modules.map (·.identifier)).Nodup
  table : s.table = ((Inquiry.all inquiries).filterMap Asked.subscription?).foldl .add table
  geometry : s.geometry = (g.after ((Inquiry.all inquiries).filterMap Asked.use?)).freeze
  answered : g.Answered (Inquiry.all inquiries)

theorem SetUpFrom.detectors {registry : Registry σ ω} {g : Geometry} {table : SubscriptionTable ω}
    {inquiries : List (Inquiry ω)} {s : Simulation σ ω}
    (setUp : SetUpFrom registry g table inquiries s) : s.geometry.detectors = g.detectors := by
  rw [setUp.geometry, (Geometry.sameDetectors_freeze _).detectors]
  exact (g.sameDetectors_asked (Inquiry.all inquiries)).detectors

theorem assemble_asks (registry : Registry σ ω) (sections : List Section) (settings : Settings)
    (g : Geometry) (globals : Section) (a : SetupState ω) :
    (assemble registry sections settings g globals).Leads a
      (fun s _ => ∃ inquiries, SetUpFrom registry g a.table inquiries s) (fun _ _ => True) := by
  rw [assemble]
  refine SetupM.leads_bind (SetupM.leads_change ?_)
  refine SetupM.leads_bind (SetupM.leads_change ?_)
  refine SetupM.leads_bind (((Instance.instantiate_leads _ _ _).and
    (Instance.instantiate_asks _ _ _)).mono ?_ fun _ _ _ => trivial)
  rintro built b ⟨⟨parts, _, building⟩, logs, constructed, serves⟩
  refine SetupM.leads_bind (SetupM.leads_change ?_)
  refine SetupM.leads_bind ((Instance.initAll_asks constructed _ _).mono ?_ fun _ _ _ => trivial)
  rintro ⟨modules, globals⟩ c ⟨same, inquiries, all, rfl, later⟩
  refine SetupM.leads_bind ((SetupM.reports_lead _ _).mono ?_ fun _ _ failed => failed)
  rintro _ d rfl
  refine SetupM.leads_bind ((SetupM.reports_lead _ _).mono ?_ fun _ _ failed => failed)
  rintro _ d rfl
  refine SetupM.leads_bind (SetupM.leads_change (SetupM.leads_bind (SetupM.leads_state ?_)))
  -- the reports in between change nothing that modules ask about
  have reported : SetupState.Serves _ _
      { b with reports := b.reports ++ [.modulesConstructed built.length] } := serves.change rfl rfl
  obtain ⟨table, geometry, answered⟩ := reported.trans later
  refine SetupM.leads_pure ⟨inquiries, all, ?_, ?_, ?_, ?_⟩
  · rw [same, building.identifiers]
    exact building.distinct
  · exact table
  · exact congrArg Geometry.freeze geometry
  · exact answered

/-- Every simulation that is prepared was set up from a setup that was given, or that was
configured. -/
theorem prepare_sets_up (registry : Registry σ ω) (config : RunConfig) (given : Option Geometry)
    (processors : Nat) (a : SetupState ω) :
    (prepare registry config given processors).Leads a
      (fun s _ => ∃ g inquiries, given.elim g.IsConfigured (g = ·) ∧
        SetUpFrom registry g a.table inquiries s) (fun _ _ => True) := by
  rw [prepare]
  refine SetupM.leads_bind ((SetupM.access_leads _ _ _).mono ?_ fun _ _ _ => trivial)
  rintro ⟨settings, globals⟩ b ⟨read, rfl⟩
  cases given with
  | some g =>
    refine (assemble_asks registry config.modules settings g globals b).mono ?_ fun _ _ _ => trivial
    rintro s _ ⟨inquiries, origin⟩
    exact ⟨g, inquiries, rfl, origin⟩
  | none =>
    refine SetupM.leads_bind ((SetupM.loadGeometry_configures globals b).mono ?_ fun _ _ _ => trivial)
    rintro ⟨g, globals⟩ b ⟨configured, rfl⟩
    refine (assemble_asks registry config.modules settings g globals b).mono ?_ fun _ _ _ => trivial
    rintro s _ ⟨inquiries, origin⟩
    exact ⟨g, inquiries, configured, origin⟩

/-- A setup that was not given arose by adding. -/
theorem prepare_asks (registry : Registry σ ω) (config : RunConfig) (given : Option Geometry)
    (processors : Nat) (a : SetupState ω) :
    (prepare registry config given processors).Leads a
      (fun s _ => ∃ g inquiries, given.elim (Geometry.empty.Grows g) (g = ·) ∧
        SetUpFrom registry g a.table inquiries s) (fun _ _ => True) := by
  refine (prepare_sets_up registry config given processors a).mono ?_ fun _ _ _ => trivial
  rintro s _ ⟨g, inquiries, origin, setUp⟩
  refine ⟨g, inquiries, ?_, setUp⟩
  cases given with
  | some given => exact origin
  | none => exact Geometry.IsConfigured.grows origin

end Simulation

end DetectorSim
