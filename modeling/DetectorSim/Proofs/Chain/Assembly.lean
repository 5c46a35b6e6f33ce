import DetectorSim.Chain.HitCounter
import DetectorSim.Proofs.Geometry.Registration
import DetectorSim.Proofs.Pipeline.Requests

/-! How a chain is set up. Each module type of a chain constructs the module that its parameters
describe, subscribes it to what it counts or digitizes, and leaves nothing to its initialization. -/

namespace DetectorSim

open Config
open Interaction (Exchange)
open SubscriptionTable (ofList)

variable {σ ω : Type}

namespace BuildProgram

variable {α β : Type} {exchanges : List (Exchange (buildInterface ω))} {value : β}

theorem reaches_access {a : Access α} {f : α → BuildProgram ω β}
    (reaches : (access a >>= f).run.Reaches exchanges (.done (.ok value))) :
    ∃ before rest read, exchanges = ⟨.own fun s => (a.on s).2, before⟩ :: rest ∧
      (a.on before).1 = .ok read ∧ (f read).run.Reaches rest (.done (.ok value)) := by
  obtain _ | ⟨before, onwards⟩ := reaches
  revert before
  intro (before : Section) onwards
  change (((Interaction.done (Except.ok before)).bind (ExceptT.bindCont _)).bind
    (ExceptT.bindCont f)).Reaches _ _ at onwards
  simp only [Interaction.bind, ExceptT.bindCont] at onwards
  cases read : (a.on before).1 with
  | ok found =>
    rw [read] at onwards
    exact ⟨before, _, found, rfl, read, onwards⟩
  | error e =>
    rw [read] at onwards
    obtain ⟨_, same⟩ := Interaction.reaches_done_iff.mp onwards
    cases same

theorem reaches_subscribe {request : SubscriptionRequest ω} {f : Unit → BuildProgram ω β}
    (reaches : (subscribe request >>= f).run.Reaches exchanges (.done (.ok value))) :
    ∃ rest, exchanges = ⟨.subscribe request, ()⟩ :: rest ∧
      (f ()).run.Reaches rest (.done (.ok value)) := by
  obtain _ | ⟨answer, onwards⟩ := reaches
  exact ⟨_, rfl, onwards⟩

end BuildProgram

namespace SetupView

theorem reaches_boundDetector {view : SetupView} {β : Type} {f : Detector → BuildProgram ω β}
    {exchanges : List (Exchange (buildInterface ω))} {value : β}
    (reaches : (view.boundDetector >>= f).run.Reaches exchanges (.done (.ok value))) :
    ∃ d, view.ownDetector = some d ∧ (f d).run.Reaches exchanges (.done (.ok value)) := by
  rw [boundDetector] at reaches
  cases own : view.ownDetector with
  | some d =>
    rw [own] at reaches
    exact ⟨d, rfl, reaches⟩
  | none =>
    rw [own] at reaches
    obtain ⟨_, same⟩ := Interaction.reaches_done_iff.mp reaches
    cases same

theorem ownDetector_eq_some {view : SetupView} {d : Detector} (own : view.ownDetector = some d) :
    (∃ label, view.identifier.binding = .detector label) ∧ view.detectors.head? = some d := by
  rw [ownDetector] at own
  split at own
  · rename_i label bound
    exact ⟨⟨label, bound⟩, own⟩
  · cases own

end SetupView

/-- The subscription that an exchange of a constructor asks for. -/
def requested? (x : Exchange (buildInterface ω)) : Option (SubscriptionRequest ω) :=
  match x.question with
  | .subscribe request => some request
  | _ => none

namespace Instance

variable {registry : Registry σ ω} {ready : ReadyModule σ ω} {inquiry : Inquiry ω}

/-- A module whose type constructs it at once was constructed by that type, and its subscriptions
are those of the constructor. -/
theorem SetUp.constructed {type : ModuleType σ ω} (setUp : ready.SetUp registry inquiry)
    (distinct : (registry.types.map (·.name)).Nodup) (registered : type ∈ registry.types)
    (name : ready.identifier.name = type.name)
    (Makes : SetupView → List (Exchange (buildInterface ω)) → Module σ ω → Prop)
    (makes : ∀ view exchanges blueprint,
      (type.construct view).run.Reaches exchanges (.done (.ok blueprint)) →
        ∃ m, blueprint = m.blueprint ∧ Makes view exchanges m) :
    ∃ geometry exchanges,
      Makes ⟨ready.id, ready.identifier, ready.detectors, geometry⟩ exchanges ready.body ∧
        (inquiry.constructing ++ inquiry.initializing).filterMap Asked.subscription? =
          (exchanges.filterMap requested?).map (·.madeBy ready.id) := by
  obtain ⟨constructed, initialized⟩ := setUp
  obtain ⟨registered', name', conversation⟩ := constructed
  obtain ⟨readied, initialization⟩ := initialized
  obtain ⟨config, body, rfl⟩ := readied
  cases Registry.eq_of_name distinct registered' registered (name'.symm.trans name)
  obtain ⟨m, blueprint, made⟩ := makes _ _ _ conversation
  rw [blueprint] at initialization
  obtain ⟨rfl, same⟩ := Interaction.reaches_done_iff.mp initialization
  cases same
  refine ⟨_, _, made, ?_⟩
  rw [List.filterMap_nil, List.append_nil, List.filterMap_map, List.map_filterMap]
  refine List.filterMap_congr fun x _ => ?_
  obtain ⟨question, answer⟩ := x
  cases question <;> rfl

end Instance

section Types

variable {registry : Registry HitCounts ω} {i : ReadyModule HitCounts ω} {inquiry : Inquiry ω}

/-- A depositor of a simulation runs as its parameters say, for the detector that it is bound to. -/
theorem ChargeDepositor.ofSetUp (setUp : i.SetUp registry inquiry)
    (distinct : (registry.types.map (·.name)).Nodup) (registered : moduleType ∈ registry.types)
    (name : i.identifier.name = "ChargeDepositor") :
    ∃ d : ChargeDepositor, i.body = d.toModule ∧ i.detectors.head? = some d.detector := by
  obtain ⟨_, _, made, _⟩ := setUp.constructed distinct registered name
    (fun view _ m => ∃ d : ChargeDepositor, m = d.toModule ∧
      view.detectors.head? = some d.detector) fun view exchanges blueprint reaches => by
      obtain ⟨detector, own, reads⟩ := SetupView.reaches_boundDetector reaches
      obtain ⟨_, _, parameters, rfl, _, ends⟩ := BuildProgram.reaches_access reads
      obtain ⟨rfl, same⟩ := Interaction.reaches_done_iff.mp ends
      cases same
      exact ⟨_, rfl, _, rfl, (SetupView.ownDetector_eq_some own).2⟩
  exact made

/-- A digitizer of a simulation runs as its parameters say, for the detector that it is bound to,
and requires the deposits of that detector. -/
theorem ThresholdDigitizer.ofSetUp (setUp : i.SetUp registry inquiry)
    (distinct : (registry.types.map (·.name)).Nodup) (registered : moduleType ∈ registry.types)
    (name : i.identifier.name = "ThresholdDigitizer") :
    ∃ d : ThresholdDigitizer, i.body = d.toModule ∧
      ((∃ label, i.identifier.binding = .detector label) ∧
        i.detectors.head? = some d.detector) ∧
      (inquiry.constructing ++ inquiry.initializing).filterMap Asked.subscription? =
        [⟨i.id, .deposits, i.identifier.ownFilter, .onlyRequired, none⟩] := by
  obtain ⟨_, _, ⟨d, same, bound, requested⟩, subscriptions⟩ :=
    setUp.constructed distinct registered name
      (fun view exchanges m => ∃ d : ThresholdDigitizer, m = d.toModule ∧
        ((∃ label, view.identifier.binding = .detector label) ∧
          view.detectors.head? = some d.detector) ∧
        exchanges.filterMap requested? =
          [⟨.deposits, view.identifier.ownFilter, .onlyRequired, none⟩])
      fun view exchanges blueprint reaches => by
        obtain ⟨detector, own, reads⟩ := SetupView.reaches_boundDetector reaches
        obtain ⟨_, _, parameters, rfl, _, subscribes⟩ := BuildProgram.reaches_access reads
        obtain ⟨_, rfl, ends⟩ := BuildProgram.reaches_subscribe subscribes
        obtain ⟨rfl, same⟩ := Interaction.reaches_done_iff.mp ends
        cases same
        exact ⟨_, rfl, _, rfl, SetupView.ownDetector_eq_some own, rfl⟩
  rw [requested] at subscriptions
  exact ⟨d, same, bound, subscriptions⟩

/-- A counter of a simulation counts, from nothing, the hits of all messages. -/
theorem HitCounter.ofSetUp (setUp : i.SetUp registry inquiry)
    (distinct : (registry.types.map (·.name)).Nodup) (registered : moduleType ∈ registry.types)
    (name : i.identifier.name = "HitCounter") :
    (i.body.memory = .empty ∧ i.body.run = fun _ => run) ∧
      (inquiry.constructing ++ inquiry.initializing).filterMap Asked.subscription? =
        [⟨i.id, .hits, .any, .none, none⟩] := by
  obtain ⟨_, _, ⟨body, requested⟩, subscriptions⟩ :=
    setUp.constructed distinct registered name
      (fun view exchanges m => (m.memory = .empty ∧ m.run = fun _ => run) ∧
        exchanges.filterMap requested? = [⟨.hits, .any, .none, none⟩])
      fun view exchanges blueprint reaches => by
        obtain ⟨_, _, output, rfl, _, subscribes⟩ := BuildProgram.reaches_access reaches
        obtain ⟨_, rfl, ends⟩ := BuildProgram.reaches_subscribe subscribes
        obtain ⟨rfl, same⟩ := Interaction.reaches_done_iff.mp ends
        cases same
        exact ⟨_, rfl, ⟨rfl, rfl⟩, rfl⟩
  rw [requested] at subscriptions
  exact ⟨body, subscriptions⟩

end Types

section Subscriptions

variable {registry : Registry σ ω}

/-- What a module asks for while it is set up, it asks for as itself. -/
theorem Instance.SetUp.askedBy {ready : ReadyModule σ ω} {inquiry : Inquiry ω}
    (setUp : ready.SetUp registry inquiry) :
    (∀ x ∈ inquiry.constructing, x.module = ready.id) ∧
      ∀ x ∈ inquiry.initializing, x.module = ready.id := by
  obtain ⟨constructed, initialized⟩ := setUp
  obtain ⟨readied, _⟩ := initialized
  obtain ⟨config, body, rfl⟩ := readied
  obtain ⟨_, _, _⟩ := constructed
  constructor
  · intro x member
    obtain ⟨y, _, rfl⟩ := List.mem_map.mp member
    rfl
  · intro x member
    obtain ⟨⟨question, answer⟩, _, asked⟩ := List.mem_filterMap.mp member
    cases question with
    | build q =>
      cases asked
      rfl
    | globals change => cases asked

theorem module_of_mem_all {modules : List (ReadyModule σ ω)} {inquiries : List (Inquiry ω)}
    (setUp : List.Forall₂ (Instance.SetUp registry) modules inquiries) {x : Asked ω}
    (member : x ∈ Inquiry.all inquiries) : x.module ∈ modules.map (·.id) := by
  have of {part : Inquiry ω → List (Asked ω)}
      (own : ∀ (i : ReadyModule σ ω) inquiry, i.SetUp registry inquiry →
        ∀ x ∈ part inquiry, x.module = i.id)
      (listed : x ∈ inquiries.flatMap part) : x.module ∈ modules.map (·.id) := by
    obtain ⟨inquiry, present, here⟩ := List.mem_flatMap.mp listed
    obtain ⟨i, known, asked⟩ := exists_partner setUp present
    exact own i inquiry asked x here ▸ List.mem_map.mpr ⟨i, known, rfl⟩
  rcases List.mem_append.mp member with first | later
  · exact of (fun _ _ asked => asked.askedBy.1) first
  · exact of (fun _ _ asked => asked.askedBy.2) later

/-- Among what all modules ask for, what one of them asks for is known by its number. -/
theorem exists_inquiry {modules : List (ReadyModule σ ω)} {inquiries : List (Inquiry ω)}
    (setUp : List.Forall₂ (Instance.SetUp registry) modules inquiries)
    (distinct : (modules.map (·.id)).Nodup) {i : ReadyModule σ ω} (member : i ∈ modules) :
    ∃ inquiry, i.SetUp registry inquiry ∧
      (Inquiry.all inquiries).filter (·.module == i.id) =
        inquiry.constructing ++ inquiry.initializing := by
  have kept {asked : List (Asked ω)} (own : ∀ x ∈ asked, x.module = i.id) :
      asked.filter (·.module == i.id) = asked :=
    List.filter_eq_self.mpr fun x listed => beq_iff_eq.mpr (own x listed)
  have dropped {asked : List (Asked ω)} (apart : ∀ x ∈ asked, x.module ≠ i.id) :
      asked.filter (·.module == i.id) = [] :=
    List.filter_eq_nil_iff.mpr fun x listed same => apart x listed (beq_iff_eq.mp same)
  induction setUp with
  | nil => cases member
  | @cons j inquiry rest inquiries first others ih =>
    obtain ⟨unlisted, distinct⟩ := List.nodup_cons.mp distinct
    have fresh {other : ModuleId} (listed : other ∈ rest.map (·.id)) : j.id ≠ other := by
      rintro rfl
      exact unlisted listed
    have own := first.askedBy
    simp only [Inquiry.all, List.flatMap_cons, List.filter_append] at ih ⊢
    rcases List.mem_cons.mp member with rfl | later
    · have elsewhere (x : Asked ω) (listed : x ∈ Inquiry.all inquiries) : x.module ≠ i.id :=
        (fresh (module_of_mem_all others listed)).symm
      refine ⟨inquiry, first, ?_⟩
      rw [kept own.1, kept own.2,
        dropped fun x listed => elsewhere x (List.mem_append_left _ listed),
        dropped fun x listed => elsewhere x (List.mem_append_right _ listed),
        List.append_nil, List.append_nil]
    · have apart : j.id ≠ i.id := fresh (List.mem_map.mpr ⟨i, later, rfl⟩)
      obtain ⟨found, asked, parts⟩ := ih distinct later
      refine ⟨found, asked, ?_⟩
      rw [dropped fun x listed => own.1 x listed ▸ apart,
        dropped fun x listed => own.2 x listed ▸ apart]
      exact parts

theorem filter_subscriptions (asked : List (Asked ω)) (module : ModuleId) :
    (asked.filterMap Asked.subscription?).filter (·.owner == module) =
      (asked.filter (·.module == module)).filterMap Asked.subscription? := by
  rw [List.filter_filterMap, List.filterMap_filter]
  refine List.filterMap_congr fun x _ => ?_
  obtain ⟨owner, question, answer⟩ := x
  cases question with
  | subscribe request =>
    by_cases own : owner = module <;> simp [Asked.subscription?, SubscriptionRequest.madeBy, own]
  | _ => simp [Asked.subscription?]

end Subscriptions

/-- A module is of one of the types of a chain. -/
def ReadyModule.OfChain (i : ReadyModule HitCounts ω) : Prop :=
  i.identifier.name ∈ (chainModules : List (ModuleType HitCounts ω)).map (·.name)

/-- A module is a digitizer of the one detector that it is bound to, and requires its deposits. -/
structure ReadyModule.Digitizes (i : ReadyModule HitCounts ω) (d : ThresholdDigitizer)
    (subscriptions : List (Subscription ω)) : Prop where
  body : i.body = d.toModule
  detectors : i.detectors = [d.detector]
  identifier : i.identifier = ⟨"ThresholdDigitizer", .detector d.detector.name⟩
  requested : subscriptions.filter (·.owner == i.id) =
    [⟨i.id, .deposits, .detector d.detector.name, .onlyRequired, none⟩]

/-- A simulation is set up with a chain: its modules have distinct identities and stand in order,
and those of a chain run as their parameters say, with no other subscriptions than their own. -/
structure Simulation.HasChain (s : Simulation HitCounts ω)
    (subscriptions : List (Subscription ω)) : Prop where
  table : s.table = ofList subscriptions
  ids : s.modules.map (·.id) = List.range s.modules.length
  identities : (s.modules.map (·.identifier)).Nodup
  depositors : ∀ i ∈ s.modules, i.identifier.name = "ChargeDepositor" →
    ∃ d : ChargeDepositor, i.body = d.toModule
  digitizers : ∀ i ∈ s.modules, i.identifier.name = "ThresholdDigitizer" →
    ∃ d, i.Digitizes d subscriptions
  counters : ∀ i ∈ s.modules, i.identifier.name = "HitCounter" →
    (i.body.memory = .empty ∧ i.body.run = fun _ => HitCounter.run) ∧
      subscriptions.filter (·.owner == i.id) = [⟨i.id, .hits, .any, .none, none⟩]

/-- A module of such a simulation runs as one of a chain, or is not of a chain. -/
theorem Simulation.HasChain.kinds {s : Simulation HitCounts ω}
    {subscriptions : List (Subscription ω)} (chain : s.HasChain subscriptions)
    {i : ReadyModule HitCounts ω} (member : i ∈ s.modules) :
    (∃ d : ChargeDepositor, i.body = d.toModule) ∨ (∃ d, i.Digitizes d subscriptions) ∨
      (i.body.memory = .empty ∧ i.body.run = fun _ => HitCounter.run) ∨ ¬i.OfChain := by
  by_cases known : i.OfChain
  · rcases List.mem_cons.mp known with depositor | others
    · exact .inl (chain.depositors i member depositor)
    · rcases List.mem_pair.mp others with digitizer | counter
      · exact .inr (.inl (chain.digitizers i member digitizer))
      · exact .inr (.inr (.inl (chain.counters i member counter).1))
  · exact .inr (.inr (.inr known))

section Detectors

variable {registry : Registry σ ω} {g : Geometry}

theorem Config.Section.Expands.detectors (coherent : g.Coherent) {s : Section}
    {slots : List (Slot σ ω)} {slot : Slot σ ω} (expands : s.Expands registry g slots)
    (member : slot ∈ slots) {label : String} (bound : slot.binding = .detector label) :
    ∃ d, slot.detectors = [d] ∧ d.name = label := by
  obtain ⟨_, binds⟩ := expands
  obtain ⟨⟨binding, detectors⟩, listed, rfl⟩ := List.mem_map.mp member
  generalize ModuleType.scope _ = scope at binds
  cases bound
  cases binds with
  | global unqualified => cases List.mem_singleton.mp listed
  | named qualified unrestricted found =>
    cases List.mem_singleton.mp listed
    exact ⟨_, rfl, (coherent.detector_eq_ok_iff_mem.mp found).2⟩
  | each unqualified restricted =>
    obtain ⟨d, _, same⟩ := List.mem_map.mp listed
    cases same
    exact ⟨d, rfl, rfl⟩
  | eachType unqualified restricted =>
    obtain ⟨model, _, same⟩ := List.mem_map.mp listed
    cases same

theorem Config.Section.Expands.mem_detectors (coherent : g.Coherent) {s : Section}
    {slots : List (Slot σ ω)} {slot : Slot σ ω} (expands : s.Expands registry g slots)
    (member : slot ∈ slots) {d : Detector} (listed : d ∈ slot.detectors) : d ∈ g.detectors := by
  obtain ⟨_, binds⟩ := expands
  obtain ⟨⟨binding, detectors⟩, bound, rfl⟩ := List.mem_map.mp member
  generalize ModuleType.scope _ = scope at binds
  change d ∈ detectors at listed
  cases binds with
  | global unqualified =>
    cases List.mem_singleton.mp bound
    cases listed
  | named qualified unrestricted found =>
    cases List.mem_singleton.mp bound
    cases List.mem_singleton.mp listed
    exact (coherent.detector_eq_ok_iff_mem.mp found).1
  | each unqualified restricted =>
    obtain ⟨other, present, same⟩ := List.mem_map.mp bound
    cases same
    cases List.mem_singleton.mp listed
    exact (List.mem_filter.mp present).1
  | eachType unqualified restricted =>
    obtain ⟨model, _, same⟩ := List.mem_map.mp bound
    cases same
    exact (List.mem_filter.mp listed).1

theorem Simulation.Prepared.mem_detectors {config : RunConfig} {processors : Nat}
    {before : List ModuleCall} {s : Simulation σ ω} {b : SetupState ω}
    (ready : Prepared registry config processors before s b) (coherent : s.geometry.Coherent)
    {i : ReadyModule σ ω} (member : i ∈ s.modules) {d : Detector} (listed : d ∈ i.detectors) :
    d ∈ s.geometry.detectors := by
  obtain ⟨parts, expands, filled⟩ := ready.filled
  obtain ⟨slot, present, fills⟩ := exists_partner filled.flip member
  obtain ⟨_, _, _, here, among⟩ := exists_expands expands present
  rw [ready.geometry] at coherent ⊢
  exact here.mem_detectors coherent among (fills.detectors ▸ listed)

theorem Simulation.Prepared.detectors {config : RunConfig} {processors : Nat}
    {before : List ModuleCall} {s : Simulation σ ω} {b : SetupState ω}
    (ready : Prepared registry config processors before s b) (coherent : s.geometry.Coherent)
    {i : ReadyModule σ ω} (member : i ∈ s.modules) {label : String}
    (bound : i.identifier.binding = .detector label) :
    ∃ d, i.detectors = [d] ∧ d.name = label := by
  obtain ⟨parts, expands, filled⟩ := ready.filled
  obtain ⟨slot, present, fills⟩ := exists_partner filled.flip member
  obtain ⟨_, _, _, here, listed⟩ := exists_expands expands present
  have slotted : slot.binding = .detector label :=
    (congrArg Identifier.binding fills.identifier).symm.trans bound
  rw [ready.geometry] at coherent
  obtain ⟨d, only, named⟩ := here.detectors coherent listed slotted
  exact ⟨d, fills.detectors.trans only, named⟩

end Detectors

namespace Simulation

/-- The subscriptions of a simulation are those that its modules asked for while they were set up. -/
theorem SetUpFrom.exists_subscriptions {registry : Registry σ ω} {g : Geometry}
    {inquiries : List (Inquiry ω)} {s : Simulation σ ω}
    (setUp : SetUpFrom registry g .empty inquiries s)
    (ids : s.modules.map (·.id) = List.range s.modules.length) :
    ∃ subscriptions, s.table = ofList subscriptions ∧ ∀ i ∈ s.modules,
      ∃ inquiry, i.SetUp registry inquiry ∧ subscriptions.filter (·.owner == i.id) =
        (inquiry.constructing ++ inquiry.initializing).filterMap Asked.subscription? := by
  refine ⟨(Inquiry.all inquiries).filterMap Asked.subscription?, setUp.table, fun i member => ?_⟩
  have numbers : (s.modules.map (·.id)).Nodup := ids ▸ List.nodup_range
  obtain ⟨inquiry, asked, own⟩ := exists_inquiry setUp.modules numbers member
  exact ⟨inquiry, asked, own ▸ filter_subscriptions _ _⟩

variable {registry : Registry HitCounts ω} {config : RunConfig} {processors : Nat}
  {given : Option (List Geometry.Operation)} {geometry : Geometry} {s : Simulation HitCounts ω}

/-- A digitizer of a prepared simulation digitizes for the one detector that it is bound to. -/
theorem Prepared.digitizes {before : List ModuleCall} {b : SetupState ω}
    (ready : Prepared registry config processors before s b) (coherent : s.geometry.Coherent)
    (distinct : (registry.types.map (·.name)).Nodup)
    (registered : ThresholdDigitizer.moduleType ∈ registry.types) {i : ReadyModule HitCounts ω}
    (member : i ∈ s.modules) (name : i.identifier.name = "ThresholdDigitizer")
    {inquiry : Inquiry ω} (asked : i.SetUp registry inquiry)
    {subscriptions : List (Subscription ω)} (own : subscriptions.filter (·.owner == i.id) =
      (inquiry.constructing ++ inquiry.initializing).filterMap Asked.subscription?) :
    ∃ d, i.Digitizes d subscriptions := by
  obtain ⟨d, body, ⟨⟨label, bound⟩, first⟩, requested⟩ :=
    ThresholdDigitizer.ofSetUp asked distinct registered name
  obtain ⟨detector, only, named⟩ := ready.detectors coherent member bound
  rw [only, List.head?_singleton] at first
  cases first
  rw [Identifier.ownFilter, bound] at requested
  have identifier : i.identifier = ⟨"ThresholdDigitizer", .detector label⟩ := by
    rw [← name, ← bound]
  exact ⟨d, body, only, named ▸ identifier, named ▸ own.trans requested⟩

/-- Every simulation that is prepared with the module types of a chain has one. -/
theorem exists_hasChain {τ : Type} (distinct : (registry.types.map (·.name)).Nodup)
    (registered : ∀ type ∈ chainModules, type ∈ registry.types)
    {answers : Interaction.Answers fileInterface τ} {files : τ}
    (prepared : ((prepare registry config (given.map Geometry.empty.after) processors).resultFrom
      (.start geometry) answers files).1 = .ok s) : ∃ subscriptions, s.HasChain subscriptions := by
  have leads := (prepare_leads registry config (given.map Geometry.empty.after) processors
    (.start geometry)).and (prepare_asks registry config _ processors (.start geometry))
  obtain ⟨ready, g, inquiries, origin, setUp⟩ := leads.ok prepared
  obtain ⟨base, rfl, _⟩ := Geometry.exists_history origin
  have coherent : s.geometry.Coherent := by
    rw [setUp.geometry]
    exact ((Geometry.Coherent.after_empty base).after _).freeze
  obtain ⟨subscriptions, table, inquiry⟩ := setUp.exists_subscriptions ready.ids
  refine ⟨subscriptions, table, ready.ids, setUp.identities, ?_, ?_, ?_⟩
  · intro i member name
    obtain ⟨_, asked, _⟩ := inquiry i member
    obtain ⟨d, body, _⟩ :=
      ChargeDepositor.ofSetUp asked distinct (registered _ (by simp [chainModules])) name
    exact ⟨d, body⟩
  · intro i member name
    obtain ⟨_, asked, own⟩ := inquiry i member
    exact ready.digitizes coherent distinct (registered _ (by simp [chainModules])) member name asked
      own
  · intro i member name
    obtain ⟨_, asked, own⟩ := inquiry i member
    obtain ⟨body, requested⟩ :=
      HitCounter.ofSetUp asked distinct (registered _ (by simp [chainModules])) name
    exact ⟨body, own.trans requested⟩

end Simulation

end DetectorSim
