import DetectorSim.Files.Tree
import DetectorSim.Proofs.Message.Delivery
import DetectorSim.Proofs.Pipeline.Requests
import DetectorSim.Proofs.Run.LifeCycle
import DetectorSim.Proofs.Run.Questions

/-! Who is named in a run. Messages, undelivered ones that were reported, and failures carry the
written name of the module that they are due to, and no two modules share one. -/

namespace DetectorSim

open Config

variable {σ ω : Type}

/-- A text is the written name of a module. -/
def RunPlan.Names (plan : RunPlan σ ω) (name : String) : Prop :=
  ∃ i ∈ plan.modules, i.identifier.display = name

/-- A failure is due to a module, which it names. -/
def RunPlan.Blames (plan : RunPlan σ ω) (f : Failure) : Prop :=
  ∃ i ∈ plan.modules, i.id = f.module ∧ i.identifier.display = f.name

/-- A question of an event is asked by a module, from its own view. -/
def RunPlan.Speaks (plan : RunPlan σ ω) (index : UInt64) : PassageQuestion σ ω → Prop
  | .enter .. => True
  | .inside view _ => ∃ i ∈ plan.modules, view = i.eventView index

/-- All messages of an event carry the names of modules. -/
def EventState.IsNamed (plan : RunPlan σ ω) (e : EventState ω) : Prop :=
  ∀ r ∈ e.buffer.records, plan.Names r.origin

/-- What a worker is about carries the names of modules. -/
def Phase.IsNamed (plan : RunPlan σ ω) : Phase σ ω → Prop
  | .working index rest state => rest.OnlyAsks (plan.Speaks index) ∧ state.IsNamed plan
  | .closing (.failed f) | .storing f => plan.Blames f
  | _ => True

theorem Passage.through_speaks (plan : RunPlan σ ω) (index : UInt64) :
    (through index plan.modules).OnlyAsks (plan.Speaks index) := by
  refine onlyAsks_through (fun _ _ => trivial) fun i member => ?_
  exact (Interaction.onlyAsks_true _).mono fun _ _ => ⟨i, member, rfl⟩

/-- The answers to a module put its name only into the event. -/
theorem EventState.IsNamed.reply {plan : RunPlan σ ω} {e : EventState ω} (named : e.IsNamed plan)
    {view : EventView} (speaks : plan.Names view.origin) (table : SubscriptionTable ω)
    (geometry : Geometry) (memory : σ) (q : EventQuestion σ ω) :
    (e.reply table geometry memory view q).2.IsNamed plan := by
  cases q with
  | dispatch topic message =>
    have records := e.buffer.dispatch_recorded view.origin message table
    intro r present
    change r ∈ (e.buffer.dispatch table view.origin message).buffer.records at present
    rw [records] at present
    rcases List.mem_append.mp present with earlier | last
    · exact named r earlier
    · rw [List.mem_singleton.mp last]
      exact speaks
  | _ => exact named

theorem Commons.unmatched_after {plan : RunPlan σ ω} {c : Commons σ}
    (named : ∀ entry ∈ c.unmatched, plan.Names entry.2) {view : EventView}
    (speaks : plan.Names view.origin) (q : EventQuestion σ ω) (answer : q.Answer) :
    ∀ entry ∈ (c.after view q answer).unmatched, plan.Names entry.2 := by
  cases q with
  | dispatch topic message =>
    simp only [after, undelivered]
    split
    · split
      · exact named
      · exact List.forall_mem_cons.mpr ⟨speaks, named⟩
    · exact named
  | _ => exact named

/-- An outcome that is a failure blames the last module that ran. -/
theorem EventOutcome.IsDueTo.blames {plan : RunPlan σ ω} {index : UInt64}
    {last : Option (ReadyModule σ ω)} {ahead : List (ReadyModule σ ω)} {f : Failure}
    (due : (EventOutcome.failed f).IsDueTo index last ahead)
    (member : ∀ i ∈ last, i ∈ plan.modules) : plan.Blames f := by
  obtain ⟨i, rfl, _, same⟩ := due
  refine ⟨i, member i rfl, ?_, ?_⟩
  · rw [same]
  · rw [same]

namespace Machine

/-- Whatever is kept of modules in a run carries their names. -/
structure OriginInvariant (plan : RunPlan σ ω) (m : Machine σ ω) : Prop where
  fresh : ∀ worker ∈ m.workers, worker.buffer.records = []
  phases : ∀ worker ∈ m.workers, worker.phase.IsNamed plan
  processed : ∀ p ∈ m.processed, p.state.IsNamed plan
  unmatched : ∀ entry ∈ m.commons.unmatched, plan.Names entry.2
  failure : ∀ f ∈ m.failure, plan.Blames f

theorem originInvariant_start (plan : RunPlan σ ω) (workers : Nat) :
    OriginInvariant plan (start plan workers) where
  fresh := forall_workers_start (by rfl) workers
  phases := forall_workers_start trivial workers
  processed p present := nomatch present
  unmatched entry member := nomatch member
  failure f stored := nomatch stored

namespace OriginInvariant

variable {plan : RunPlan σ ω} {m after : Machine σ ω} {id : Nat} {buffer : EventBuffer}
  {phase changed : Phase σ ω}

private theorem quiet (valid : OriginInvariant plan m)
    (found : m.workers[id]? = some ⟨buffer, phase⟩)
    (workers : after.workers = m.workers.set id ⟨buffer, changed⟩) (named : changed.IsNamed plan)
    (processed : after.processed = m.processed)
    (unmatched : after.commons.unmatched = m.commons.unmatched)
    (failure : ∀ f ∈ after.failure, plan.Blames f) : OriginInvariant plan after where
  fresh := by
    have fresh : buffer.records = [] := valid.fresh _ (List.mem_of_getElem? found)
    exact forall_workers_put valid.fresh workers fresh
  phases := forall_workers_put valid.phases workers named
  processed := processed ▸ valid.processed
  unmatched := unmatched ▸ valid.unmatched
  failure := failure

variable [Inhabited σ]

theorem move (valid : OriginInvariant plan m) (orders : OrderInvariant plan m)
    (move : Move plan m id after) : OriginInvariant plan after := by
  cases move with
  | rest atEnd => exact valid
  | heed found stopped => exact valid.quiet found rfl trivial rfl rfl valid.failure
  | pass found running => exact valid.quiet found rfl trivial rfl rfl valid.failure
  | @claim buffer found left =>
    have fresh : buffer.records = [] := valid.fresh _ (List.mem_of_getElem? found)
    refine valid.quiet found rfl ⟨Passage.through_speaks plan _, ?_⟩ rfl rfl valid.failure
    intro r present
    rw [EventState.start, fresh] at present
    cases present
  | exhaust found none => exact valid.quiet found rfl trivial rfl rfl valid.failure
  | @answer buffer index question next state found reply answered =>
    obtain ⟨⟨speaks, asks⟩, named⟩ := valid.phases _ (List.mem_of_getElem? found)
    have fresh := valid.fresh _ (List.mem_of_getElem? found)
    subst answered
    cases question with
    | enter event module =>
      simp only [Passage.answers]
      by_cases admitted : state.admits plan.table module = true
      · simp only [admitted, if_true]
        exact valid.quiet found rfl ⟨asks _, named⟩ rfl rfl valid.failure
      · simp only [admitted, Bool.false_eq_true, if_false]
        exact valid.quiet found rfl ⟨asks _, named⟩ rfl rfl valid.failure
    | inside view q =>
      obtain ⟨i, member, rfl⟩ := speaks
      have named' : plan.Names (i.eventView index).origin := ⟨i, member, rfl⟩
      exact {
        fresh := forall_workers_put valid.fresh rfl fresh
        phases := forall_workers_put valid.phases rfl ⟨asks _, named.reply named' _ _ _ q⟩
        processed := valid.processed
        unmatched := Commons.unmatched_after valid.unmatched named' q _
        failure := valid.failure }
  | @finish buffer index outcome state found =>
    obtain ⟨_, named⟩ := valid.phases _ (List.mem_of_getElem? found)
    obtain ⟨last, ahead, stands, due⟩ := orders.inside _ (List.mem_of_getElem? found)
    exact {
      fresh := forall_workers_put valid.fresh rfl rfl
      phases := by
        refine forall_workers_put valid.phases rfl ?_
        cases outcome with
        | failed f =>
          obtain ⟨past, split, _, member⟩ := stands.behind
          exact EventOutcome.IsDueTo.blames due fun i latest =>
            split ▸ List.mem_append_left _ (member i latest)
        | _ => trivial
      processed := List.forall_mem_cons.mpr ⟨named, valid.processed⟩
      unmatched := valid.unmatched
      failure := valid.failure }
  | complete found => exact valid.quiet found rfl trivial rfl rfl valid.failure
  | skip found => exact valid.quiet found rfl trivial rfl rfl valid.failure
  | fail found reported =>
    subst reported
    exact valid.quiet found rfl (valid.phases _ (List.mem_of_getElem? found)) rfl rfl valid.failure
  | store found =>
    refine valid.quiet found rfl trivial rfl rfl fun f stored => ?_
    rcases Option.or_eq_some_iff.mp stored with earlier | ⟨_, here⟩
    · exact valid.failure f earlier
    · cases here
      exact valid.phases _ (List.mem_of_getElem? found)
  | panic found => exact valid.quiet found rfl trivial rfl rfl valid.failure

end OriginInvariant

theorem originInvariant_follow [Inhabited σ] (plan : RunPlan σ ω) (workers : Nat)
    (schedule : List Nat) : OriginInvariant plan ((start plan workers).follow plan schedule) := by
  refine (follow_keeps (fun m => OrderInvariant plan m ∧ OriginInvariant plan m) ?_ schedule
    ⟨orderInvariant_start plan workers, originInvariant_start plan workers⟩).2
  intro m id after valid move
  exact ⟨valid.1.move move, valid.2.move valid.1 move⟩

end Machine

/-- A text is the written name of this module, and of no other. -/
def RunPlan.Identifies (plan : RunPlan σ ω) (name : String) (i : ReadyModule σ ω) : Prop :=
  i ∈ plan.modules ∧ i.identifier.display = name ∧
    ∀ j ∈ plan.modules, j.identifier.display = name → j = i

theorem RunPlan.identifies {plan : RunPlan σ ω}
    (distinct : (plan.modules.map (·.identifier.display)).Nodup) {i : ReadyModule σ ω}
    (member : i ∈ plan.modules) : plan.Identifies i.identifier.display i :=
  ⟨member, rfl, fun _ other same => List.inj_on_of_nodup_map distinct other member same⟩

namespace Simulation

open Machine

/-- Written names are unambiguous. Whatever module types are registered, whatever the detector setup
is, and whatever sections are read from texts, the written names of instances are distinct. In every
run, a module speaks under a name that is its own; the origins of messages and of undelivered
messages, and the names of failures, each belong to one module. -/
theorem written_names_are_unambiguous [Inhabited σ] {τ : Type} (types : List (ModuleType σ ω))
    (sections : List Section)
    (written : ∀ s ∈ sections, ∃ origin text read, Document.read origin text = .ok read ∧ s ∈ read)
    (answers : Interaction.Answers fileInterface τ) (files : τ) :
    let registry := ((Registry.empty : Registry σ ω).addAll types).1
    (∀ a instances, ((Instance.instantiate registry sections).resultFrom a answers files).1 =
        .ok instances → (instances.map (·.identifier.display)).Nodup) ∧
    ∀ globals given processors geometry s,
      ((prepare registry ⟨globals, sections⟩ given processors).resultFrom (.start geometry) answers
        files).1 = .ok s →
      (s.modules.map (·.identifier.display)).Nodup ∧
      ∀ workers schedule,
        let m := (start s.plan workers).follow s.plan schedule
        (∀ buffer index view q state next,
          ⟨buffer, .working index (.ask (.inside view q) next) state⟩ ∈ m.workers →
            ∃ i, s.plan.Identifies view.origin i ∧ view = i.eventView index) ∧
        (∀ buffer index rest state, ⟨buffer, .working index rest state⟩ ∈ m.workers →
          ∀ r ∈ state.buffer.records, ∃ i, s.plan.Identifies r.origin i) ∧
        (∀ p ∈ m.processed, ∀ r ∈ p.state.buffer.records, ∃ i, s.plan.Identifies r.origin i) ∧
        (∀ entry ∈ m.commons.unmatched, ∃ i, s.plan.Identifies entry.2 i) ∧
        ∀ f, m.failure = some f → ∃ i, s.plan.Identifies f.name i ∧ i.id = f.module := by
  intro registry
  have distinct : (registry.types.map (·.name)).Nodup := Registry.nodup_addAll types .nil
  have named : ∀ s ∈ sections, isIdentifier s.name.toList = true := by
    intro s member
    obtain ⟨origin, text, read, parsed, present⟩ := written s member
    exact Document.isIdentifier_of_read parsed s present
  constructor
  · intro a instances made
    obtain ⟨parts, expands, valid⟩ := (Instance.instantiate_leads registry sections a).ok made
    refine nodup_display_of_fills distinct named expands valid.filled ?_
    rw [valid.identifiers]
    exact valid.distinct
  · intro globals given processors geometry s prepared
    let config : RunConfig := ⟨globals, sections⟩
    have leads := (prepare_leads registry config given processors (.start geometry)).and
      (prepare_asks registry config given processors (.start geometry))
    obtain ⟨ready, _, _, _, setUp⟩ := leads.ok prepared
    obtain ⟨parts, expands, filled⟩ := ready.filled
    have names : (s.plan.modules.map (·.identifier.display)).Nodup :=
      nodup_display_of_fills distinct named expands filled setUp.identities
    have identifies {name : String} (known : s.plan.Names name) :
        ∃ i, s.plan.Identifies name i := by
      obtain ⟨i, member, rfl⟩ := known
      exact ⟨i, RunPlan.identifies names member⟩
    refine ⟨names, fun workers schedule => ?_⟩
    have valid := originInvariant_follow s.plan workers schedule
    refine ⟨?_, ?_, ?_, ?_, ?_⟩
    · intro buffer index view q state next member
      obtain ⟨⟨⟨i, present, rfl⟩, _⟩, _⟩ := valid.phases _ member
      exact ⟨i, RunPlan.identifies names present, rfl⟩
    · intro buffer index rest state member r present
      obtain ⟨_, records⟩ := valid.phases _ member
      exact identifies (records r present)
    · intro p member r present
      exact identifies (valid.processed p member r present)
    · intro entry member
      exact identifies (valid.unmatched entry member)
    · intro f stored
      obtain ⟨i, present, same, name⟩ := valid.failure f stored
      exact ⟨i, name ▸ RunPlan.identifies names present, same⟩

private def placed (name : String) (slot : Nat) (type : String) : Placement :=
  ⟨⟨name, slot, 0, ⟨type, 8, 8, .replicate 2 0.03, 0.05, .monolithic⟩, .replicate 3 0,
    .replicate 3 0⟩, .empty⟩

/-- Two detectors whose names hold colons or are a part of such a name, of a model that is named
like one of them. -/
private def colons : Geometry where
  models := [(placed "a:b" 0 "a:b").detector.model]
  placements := [placed "a:b" 0 "a:b", placed "b" 1 "a:b"]
  index := (Dictionary.empty.insert "a:b" 0).insert "b" 1
  isSealed := false

/-- A module type that dispatches a message nobody wants and fails. -/
private def faulty (name : String) (scope : Scope) : ModuleType Unit Unit where
  name := name
  scope := scope
  concurrent := true
  construct _ := return Module.blueprint {
    memory := ()
    run := fun _ => do
      let message ← EventProgram.make (.custom "lost") (0 : Int) none
      let _ ← EventProgram.dispatch message
      EventProgram.fail (.fatal "stuck")
    finalize := fun _ => pure () }

private def faultyTypes : List (ModuleType Unit Unit) :=
  [faulty "Digitizer" .perDetector, faulty "Digitizer:a" .perDetector,
    faulty "Calibration" .perDetectorType]

private def faultySections : List Section :=
  [.new "digitizer" none, .new "CALIBRATION" none]

private def faultyGlobals : Section :=
  (Section.new globalName none).set "random_seed" "7"

/-- Bindings to a detector and to a model of the same name are written alike, and a type name may
hold a colon; the instances of sections are told apart all the same, as is the one that fails. -/
theorem colons_do_not_confuse_names :
    let prepared := (prepare (Registry.empty.addAll faultyTypes).1
      ⟨faultyGlobals, faultySections⟩ (some colons) 1).resultFrom (.start .empty)
        FileTree.answers ⟨[]⟩
    (⟨"Digitizer", .detector "a:b"⟩ : Identifier).display =
        (⟨"Digitizer:a", .detectorType "b"⟩ : Identifier).display ∧
      Document.read none "[digitizer]\n[CALIBRATION]\n" = .ok faultySections ∧
      ∃ s, prepared.1 = .ok s ∧
        s.modules.map (·.identifier.display) =
          ["Digitizer:a:b", "Digitizer:b", "Calibration:a:b"] ∧
        (s.modules.map (·.identifier.display)).Nodup ∧
        let m := (start s.plan 1).follow s.plan (List.replicate 9 0)
        m.commons.unmatched = [("lost", "Digitizer:a:b")] ∧
          m.failure = some ⟨0, 0, "Digitizer:a:b", .fatal "stuck"⟩ ∧
          ∃ i, s.plan.Identifies "Digitizer:a:b" i ∧ i.id = 0 := by
  intro prepared
  have read : Document.read none "[digitizer]\n[CALIBRATION]\n" = .ok faultySections := rfl
  have written : ∀ s ∈ faultySections, ∃ origin text read,
      Document.read origin text = .ok read ∧ s ∈ read :=
    fun s member => ⟨none, _, faultySections, read, member⟩
  have names := written_names_are_unambiguous faultyTypes faultySections written
    FileTree.answers ⟨[]⟩
  obtain ⟨s, made⟩ : ∃ s, prepared.1 = .ok s := ⟨_, rfl⟩
  have seen : prepared.1.map (fun s => (s.modules.map (·.identifier.display),
      ((start s.plan 1).follow s.plan (List.replicate 9 0)).commons.unmatched,
      ((start s.plan 1).follow s.plan (List.replicate 9 0)).failure)) =
        .ok (["Digitizer:a:b", "Digitizer:b", "Calibration:a:b"],
          [("lost", "Digitizer:a:b")], some ⟨0, 0, "Digitizer:a:b", .fatal "stuck"⟩) := rfl
  rw [made, Except.map, Except.ok.injEq, Prod.mk.injEq, Prod.mk.injEq] at seen
  obtain ⟨texts, unmatched, failure⟩ := seen
  obtain ⟨apart, runs⟩ := names.2 faultyGlobals (some colons) 1 .empty s made
  exact ⟨rfl, read, s, made, texts, apart, unmatched, failure,
    (runs 1 (List.replicate 9 0)).2.2.2.2 _ failure⟩

end Simulation

end DetectorSim
