import DetectorSim.Proofs.Pipeline.Instantiation
import DetectorSim.Run.Simulation

/-! What preparing a simulation leads to. The loops over instances and reports have a lemma each,
and one lemma about the whole says what holds of a simulation that is prepared, and which calls were
made otherwise. -/

namespace DetectorSim

open Config

variable {σ ω : Type}

theorem answerInit_keeps {τ : Type} {a b : SetupState ω} (kept : a.Keeps b) (module : ModuleId)
    (q : InitQuestion ω) (own globals : Section) (answers : Interaction.Answers fileInterface τ)
    (files : τ) :
    a.Keeps (((answerInit module q).run (own, globals, b)).run answers files).1.2.2.2 := by
  cases q with
  | globals change => exact kept
  | build q =>
    change a.Keeps (((answerBuild module q).run (own, b) >>= fun reply =>
      pure (reply.1, { own with marks := reply.2.1.marks }, globals, reply.2.2)).run
        answers files).1.2.2.2
    rw [Interaction.run_bind]
    exact answerBuild_keeps kept module q own answers files

namespace Instance

/-- An instance is another one that was initialized. -/
def Readied (ready : Instance (Module σ ω)) (i : Instance (Blueprint σ ω)) : Prop :=
  ∃ config body, ready = { i with config, body }

theorem init_leads (i : Instance (Blueprint σ ω)) (globals : Section) (a : SetupState ω) :
    (i.init globals).Leads a
      (fun ready b => ready.1.Readied i ∧ b.calls = a.calls ++ [.init i.id none] ∧
        a.geometry.SameDetectors b.geometry)
      (fun e b => ∃ fault, e = .initialization i.identifier.display fault ∧
        b.calls = a.calls ++ [.init i.id (some fault)] ∧
        a.geometry.SameDetectors b.geometry) := by
  rw [init]
  refine SetupM.leads_bind (SetupM.leads_state ?_)
  refine SetupM.leads_bind ((SetupM.leads_interpret (fun state => a.Keeps state.2.2)
    (fun τ answers q s files kept => answerInit_keeps kept i.id q s.1 s.2.1 answers files) _
    (i.config, globals, a) ⟨rfl, .refl _⟩).mono ?_ fun _ _ failed => failed)
  rintro ⟨ready, own, globals, b⟩ _ ⟨rfl, kept⟩
  refine SetupM.leads_bind (SetupM.leads_change ?_)
  cases ready with
  | ok body =>
    refine SetupM.leads_bind (SetupM.leads_change ?_)
    refine SetupM.leads_pure ⟨⟨own, body, rfl⟩, ?_, kept.detectors⟩
    exact congrArg (· ++ _) kept.calls
  | error fault =>
    refine SetupM.leads_bind (SetupM.leads_change ?_)
    refine SetupM.leads_throw ⟨fault, rfl, ?_, kept.detectors⟩
    exact congrArg (· ++ _) kept.calls

theorem initAll_leads (instances : List (Instance (Blueprint σ ω))) (globals : Section)
    (a : SetupState ω) :
    (initAll instances globals).Leads a
      (fun ready b => List.Forall₂ Readied ready.1 instances ∧
        b.calls = a.calls ++ instances.map (.init ·.id none) ∧
        a.geometry.SameDetectors b.geometry)
      (fun e b => ∃ first i rest fault, instances = first ++ i :: rest ∧
        e = .initialization i.identifier.display fault ∧
        b.calls = a.calls ++ (first.map (.init ·.id none) ++ [.init i.id (some fault)]) ∧
        a.geometry.SameDetectors b.geometry) := by
  induction instances generalizing globals a with
  | nil => exact SetupM.leads_pure ⟨.nil, (List.append_nil a.calls).symm, .refl _⟩
  | cons i rest ih =>
    rw [initAll]
    refine SetupM.leads_bind ((init_leads i globals a).mono ?_ ?_)
    · rintro ⟨ready, globals⟩ b ⟨readied, calls, same⟩
      refine SetupM.leads_bind ((ih globals b).mono ?_ ?_)
      · rintro ⟨others, globals⟩ c ⟨all, later, alike⟩
        refine SetupM.leads_pure ⟨.cons readied all, ?_, same.trans alike⟩
        rw [later, calls, List.append_assoc]
        rfl
      · rintro e c ⟨first, j, last, fault, split, failed, later, alike⟩
        refine ⟨i :: first, j, last, fault, ?_, failed, ?_, same.trans alike⟩
        · rw [split, List.cons_append]
        · rw [later, calls, List.append_assoc]
          rfl
    · rintro e b ⟨fault, failed, calls, same⟩
      exact ⟨[], i, rest, fault, rfl, failed, calls, same⟩

theorem Readied.id {ready : Instance (Module σ ω)} {i : Instance (Blueprint σ ω)}
    (readied : ready.Readied i) : ready.id = i.id := by
  obtain ⟨config, body, rfl⟩ := readied
  rfl

theorem Readied.fills {ready : Instance (Module σ ω)} {i : Instance (Blueprint σ ω)}
    {slot : Slot σ ω} (readied : ready.Readied i) (fills : i.Fills slot) : ready.Fills slot := by
  obtain ⟨config, body, rfl⟩ := readied
  exact ⟨fills.identifier, fills.detectors, fills.concurrent⟩

/-- An instance stands behind as many as its number says. -/
theorem ids_split {β : Type} {first rest : List (Instance β)} {i : Instance β}
    (ids : (first ++ i :: rest).map (·.id) = List.range (first ++ i :: rest).length) :
    first.map (·.id) = List.range first.length ∧ i.id = first.length := by
  constructor
  · have taken := congrArg (List.take first.length) ids
    simpa [List.map_append, List.take_left', List.take_range] using taken
  · have here := congrArg (·[first.length]?) ids
    simpa using here

theorem slot_behind {β : Type} {first rest : List (Instance β)} {i : Instance β}
    {slots : List (Slot σ ω)} (filled : List.Forall₂ Instance.Fills (first ++ i :: rest) slots) :
    ∃ slot, slots[first.length]? = some slot ∧ i.Fills slot := by
  have later := List.forall₂_drop_append slots first (i :: rest) filled.flip
  obtain ⟨slot, _, fills, _, split⟩ := List.forall₂_cons_right_iff.mp later
  rw [← List.head?_drop, split]
  exact ⟨slot, rfl, fills⟩

theorem map_init {β : Type} {instances : List (Instance β)}
    (ids : instances.map (·.id) = List.range instances.length) :
    instances.map (fun i => ModuleCall.init i.id none) =
      stageCalls .init instances.length none := by
  rw [stageCalls, ← ids, List.map_map]
  exact (List.append_nil _).symm

/-- Instances that were all initialized are in the same slots. -/
theorem Building.readied {before : List ModuleCall} {g : Geometry} {slots : List (Slot σ ω)}
    {built : List (Instance (Blueprint σ ω))} {ready : List (Instance (Module σ ω))}
    {a : SetupState ω} (valid : Building before g slots built a)
    (readied : List.Forall₂ Readied ready built) :
    ready.length = built.length ∧ ready.map (·.id) = List.range built.length ∧
      List.Forall₂ Instance.Fills ready slots := by
  refine ⟨readied.length_eq, ?_, ?_⟩
  · rw [← valid.ids]
    clear valid
    induction readied with
    | nil => rfl
    | cons head _ ih => rw [List.map_cons, List.map_cons, head.id, ih]
  · have filled := valid.filled
    clear valid
    induction readied generalizing slots with
    | nil =>
      cases filled
      exact .nil
    | cons head _ ih =>
      cases filled with
      | cons fills others => exact .cons (head.fills fills) (ih others)

end Instance

namespace SetupM

variable {α : Type} {a : SetupState ω}

theorem access_leads (access : Access α) (s : Section) (a : SetupState ω) :
    (SetupM.access access s).Leads a
      (fun read b => (access.on s).1 = .ok read.1 ∧ b = a) (fun e b => e.IsOwn ∧ b = a) := by
  rw [SetupM.access]
  cases found : access.on s with
  | mk outcome after =>
    cases outcome with
    | ok value => exact leads_pure ⟨rfl, rfl⟩
    | error e => exact leads_throw ⟨⟨rfl, nofun⟩, rfl⟩

theorem path_leads (s : Section) (key : String) (a : SetupState ω) :
    (SetupM.path s key).Leads a (fun _ b => b = a) (fun e b => e.IsOwn ∧ b = a) := by
  refine leads_bind (leads_onFiles fun τ answers files => ?_)
  generalize ((s.path key true).run answers files).1 = read
  obtain ⟨outcome, after⟩ := read
  cases outcome with
  | ok path => exact leads_pure rfl
  | error e => exact leads_throw ⟨⟨rfl, nofun⟩, rfl⟩

theorem ensure_leads {ε : Type} {wrap : ε → SetupError} (own : ∀ e, (wrap e).IsOwn)
    (outcome : Except ε α) (a : SetupState ω) :
    (ensure wrap outcome).Leads a (fun _ b => b = a) (fun e b => e.IsOwn ∧ b = a) := by
  cases outcome with
  | ok value => exact leads_pure rfl
  | error e => exact leads_throw ⟨own e, rfl⟩

theorem loadGeometry_leads (globals : Section) (a : SetupState ω) :
    (loadGeometry globals).Leads a (fun _ b => b = a) (fun e b => e.IsOwn ∧ b = a) := by
  have ofGeometry (e : GeometryError) : (SetupError.geometry e).IsOwn := ⟨rfl, nofun⟩
  have ofConfig (e : ConfigError) : (SetupError.config e).IsOwn := ⟨rfl, nofun⟩
  rw [loadGeometry]
  split
  · exact leads_pure rfl
  · refine leads_bind ((path_leads globals _ a).mono ?_ fun _ _ failed => failed)
    rintro ⟨detectors, globals⟩ _ rfl
    dsimp only
    split
    · refine leads_bind ((path_leads globals _ _).mono ?_ fun _ _ failed => failed)
      rintro ⟨models, globals⟩ b rfl
      refine leads_bind (leads_onFiles fun τ answers files => ?_)
      refine leads_bind ((ensure_leads ofGeometry _ b).mono ?_ fun _ _ failed => failed)
      exact fun _ _ same => leads_pure same
    · refine leads_bind (leads_onFiles fun τ answers files => ?_)
      refine leads_bind ((ensure_leads ofConfig _ _).mono ?_ fun _ _ failed => failed)
      rintro read b rfl
      refine leads_bind ((ensure_leads ofGeometry read b).mono ?_ fun _ _ failed => failed)
      exact fun _ _ same => leads_pure same

theorem reports_lead (reports : List Report) (a : SetupState ω)
    {failed : SetupError → SetupState ω → Prop} :
    (reports.forM SetupM.report).Leads a
      (fun _ b => b = { a with reports := a.reports ++ reports }) failed := by
  induction reports generalizing a with
  | nil =>
    refine leads_pure ?_
    rw [List.append_nil]
  | cons report rest ih =>
    refine leads_bind (leads_change ((ih _).mono ?_ fun _ _ failed => failed))
    rintro _ b rfl
    rw [List.append_assoc]
    rfl

end SetupM

namespace Simulation

/-- What holds of a simulation when it is prepared, and of the state then. -/
structure Prepared (registry : Registry σ ω) (config : RunConfig) (processors : Nat)
    (before : List ModuleCall) (s : Simulation σ ω) (b : SetupState ω) : Prop where
  settings : ((Settings.read processors).on config.globals).1 = .ok s.settings
  ids : s.modules.map (·.id) = List.range s.modules.length
  filled : ∃ parts, List.Forall₂ (Section.Expands registry b.geometry) config.modules parts ∧
    List.Forall₂ Instance.Fills s.modules parts.flatten
  geometry : s.geometry = b.geometry
  workers : s.workers = (effectiveWorkers s.settings
    ((s.modules.filter (!·.concurrent)).map (·.identifier.display))).1
  calls : b.calls = before ++ stageCalls .construct s.modules.length none ++
    stageCalls .init s.modules.length none

/-- What holds of the state when a simulation cannot be prepared: either the instances were not all
constructed, or they were and one of them could not be initialized. -/
inductive Unprepared (registry : Registry σ ω) (config : RunConfig) (before : List ModuleCall) :
    SetupError → SetupState ω → Prop where
  | construction {e : SetupError} {b : SetupState ω} {n : Nat}
      (early : ∀ owner fault, e ≠ .initialization owner fault)
      (calls : b.calls = before ++ stageCalls .construct n e.refusal) :
      Unprepared registry config before e b
  | initialization {slot : Slot σ ω} {fault : ModuleError} {b : SetupState ω}
      {parts : List (List (Slot σ ω))} {n : Nat}
      (expands : List.Forall₂ (Section.Expands registry b.geometry) config.modules parts)
      (reached : parts.flatten[n]? = some slot)
      (calls : b.calls = before ++ stageCalls .construct parts.flatten.length none ++
        stageCalls .init n (some fault)) :
      Unprepared registry config before (.initialization slot.identifier.display fault) b

theorem assemble_leads (registry : Registry σ ω) (config : RunConfig) {processors : Nat}
    {settings : Settings} (read : ((Settings.read processors).on config.globals).1 = .ok settings)
    (geometry : Geometry) (globals : Section) (a : SetupState ω) :
    (assemble registry config.modules settings geometry globals).Leads a
      (Prepared registry config processors a.calls) (Unprepared registry config a.calls) := by
  rw [assemble]
  refine SetupM.leads_bind (SetupM.leads_change ?_)
  refine SetupM.leads_bind (SetupM.leads_change ?_)
  refine SetupM.leads_bind ((Instance.instantiate_leads _ _ _).mono ?_ ?_)
  · rintro built b ⟨parts, expands, valid⟩
    refine SetupM.leads_bind (SetupM.leads_change ?_)
    refine SetupM.leads_bind ((Instance.initAll_leads _ _ _).mono ?_ ?_)
    · rintro ⟨modules, globals⟩ c ⟨readied, calls, same⟩
      obtain ⟨length, ids, filled⟩ := valid.readied readied
      refine SetupM.leads_bind ((SetupM.reports_lead _ _).mono ?_ fun _ _ failed => failed)
      rintro _ d rfl
      refine SetupM.leads_bind ((SetupM.reports_lead _ _).mono ?_ fun _ _ failed => failed)
      rintro _ d rfl
      refine SetupM.leads_bind (SetupM.leads_change (SetupM.leads_bind (SetupM.leads_state ?_)))
      refine SetupM.leads_pure ⟨read, ?_, ⟨parts, ?_, filled⟩, rfl, rfl, ?_⟩
      · rw [ids, length]
      -- freezing the setup leaves its detectors as they are
      · exact expands.imp fun s part expands =>
          expands.of_sameDetectors
            ((valid.detectors.trans same).trans (Geometry.sameDetectors_freeze _))
      · rw [length, ← Instance.map_init valid.ids, ← valid.calls]
        exact calls
    · rintro e c ⟨first, i, rest, fault, rfl, rfl, calls, same⟩
      have expands := expands.imp fun s part expands =>
        expands.of_sameDetectors (valid.detectors.trans same)
      have count := valid.filled.length_eq
      obtain ⟨ids, id⟩ := Instance.ids_split valid.ids
      obtain ⟨slot, reached, fills⟩ := Instance.slot_behind valid.filled
      rw [fills.identifier]
      refine .initialization expands reached ?_
      rw [← count, ← stageCalls_error, ← Instance.map_init ids, ← id, ← valid.calls]
      exact calls
  · rintro e b ⟨halted, _⟩
    obtain ⟨n, calls⟩ := halted.calls
    exact .construction halted.early calls

theorem prepare_leads (registry : Registry σ ω) (config : RunConfig) (given : Option Geometry)
    (processors : Nat) (a : SetupState ω) :
    (prepare registry config given processors).Leads a
      (Prepared registry config processors a.calls) (Unprepared registry config a.calls) := by
  have unbuilt {e : SetupError} (own : e.IsOwn) : Unprepared registry config a.calls e a := by
    refine .construction own.early (n := 0) ?_
    rw [own.unrefused]
    exact (List.append_nil a.calls).symm
  rw [prepare]
  refine SetupM.leads_bind ((SetupM.access_leads _ _ _).mono ?_ ?_)
  · rintro ⟨settings, globals⟩ b ⟨read, rfl⟩
    cases given with
    | some geometry => exact assemble_leads registry config read geometry globals b
    | none =>
      refine SetupM.leads_bind ((SetupM.loadGeometry_leads globals b).mono ?_ ?_)
      · rintro ⟨geometry, globals⟩ b rfl
        exact assemble_leads registry config read geometry globals b
      · rintro e b ⟨own, rfl⟩
        exact unbuilt own
  · rintro e b ⟨own, rfl⟩
    exact unbuilt own

end Simulation

end DetectorSim
