import DetectorSim.Files.Tree
import DetectorSim.Proofs.Run.Exchanges
import DetectorSim.Proofs.Run.Origins

/-! Warnings of undelivered messages. What workers share holds the type names and origins of the
dispatches without deliveries, each once; the warnings are of these and in their order, and
finalization adds none. The records of a run are those of its dispatches. -/

namespace DetectorSim

open Config
open Interaction (Exchange)

variable {σ ω : Type}

namespace Report

/-- The type name and the origin of the undelivered message that a report is about. -/
def warning? : Report → Option (String × String)
  | .undelivered topic origin _ => some (topic.name, origin)
  | _ => none

end Report

/-- A dispatch was a message of this type name and origin that nobody received. -/
def DispatchRecord.IsLost (r : DispatchRecord) (typeName origin : String) : Prop :=
  r.topic.name = typeName ∧ r.origin = origin ∧ r.deliveries = 0

instance (r : DispatchRecord) (typeName origin : String) : Decidable (r.IsLost typeName origin) :=
  inferInstanceAs (Decidable (_ ∧ _ ∧ _))

namespace Commons

variable {c : Commons σ} {sent : List (ModuleId × DispatchRecord)}

/-- Warnings were given of the lost ones of these dispatches, once for each type name and
origin. -/
structure Warned (c : Commons σ) (sent : List (ModuleId × DispatchRecord)) : Prop where
  reported : c.reports.filterMap Report.warning? = c.unmatched
  once : c.unmatched.Nodup
  mem_unmatched : ∀ typeName origin,
    (typeName, origin) ∈ c.unmatched ↔ ∃ x ∈ sent, x.2.IsLost typeName origin

namespace Warned

theorem delivered (warned : c.Warned sent) {x : ModuleId × DispatchRecord}
    (received : x.2.deliveries ≠ 0) : c.Warned (sent ++ [x]) where
  reported := warned.reported
  once := warned.once
  mem_unmatched typeName origin := by
    rw [warned.mem_unmatched]
    constructor
    · rintro ⟨y, earlier, lost⟩
      exact ⟨y, List.mem_append_left _ earlier, lost⟩
    · rintro ⟨y, member, lost⟩
      rcases List.mem_append.mp member with earlier | last
      · exact ⟨y, earlier, lost⟩
      · rw [List.mem_singleton.mp last] at lost
        exact absurd lost.2.2 received

/-- One that is lost is warned of, unless it was before. -/
theorem undelivered (warned : c.Warned sent) {x : ModuleId × DispatchRecord}
    (lost : x.2.deliveries = 0) (detector : Option String) :
    (c.undelivered x.2.topic x.2.origin detector).Warned (sent ++ [x]) := by
  -- the new entry is that of `x`, whether it is put in or was there before
  have covers (unmatched : List (String × String))
      (same : ∀ entry, entry ∈ unmatched ↔
        entry ∈ c.unmatched ∨ entry = (x.2.topic.name, x.2.origin))
      (typeName origin : String) :
      (typeName, origin) ∈ unmatched ↔ ∃ y ∈ sent ++ [x], y.2.IsLost typeName origin := by
    rw [same, warned.mem_unmatched]
    constructor
    · rintro (⟨y, earlier, before⟩ | same)
      · exact ⟨y, List.mem_append_left _ earlier, before⟩
      · cases same
        exact ⟨x, List.mem_append_right _ (List.mem_singleton_self x), rfl, rfl, lost⟩
    · rintro ⟨y, member, named⟩
      rcases List.mem_append.mp member with earlier | last
      · exact .inl ⟨y, earlier, named⟩
      · obtain ⟨rfl, rfl, _⟩ := List.mem_singleton.mp last ▸ named
        exact .inr rfl
  rw [Commons.undelivered]
  by_cases known : (x.2.topic.name, x.2.origin) ∈ c.unmatched
  · rw [if_pos known]
    refine ⟨warned.reported, warned.once, covers _ fun entry => ?_⟩
    exact ⟨.inl, fun either => either.elim id fun same => same ▸ known⟩
  · rw [if_neg known]
    refine ⟨?_, List.nodup_cons.mpr ⟨known, warned.once⟩, covers _ fun entry => ?_⟩
    · exact congrArg ((x.2.topic.name, x.2.origin) :: ·) warned.reported
    · rw [List.mem_cons, or_comm]

theorem of_same {d : Commons σ} (warned : c.Warned sent) (reports : d.reports = c.reports)
    (unmatched : d.unmatched = c.unmatched) : d.Warned (sent ++ []) where
  reported := by rw [reports, unmatched, warned.reported]
  once := unmatched ▸ warned.once
  mem_unmatched typeName origin := by rw [unmatched, List.append_nil, warned.mem_unmatched]

theorem answers [Inhabited σ] {e : EventState ω} (warned : c.Warned sent)
    (table : SubscriptionTable ω) (geometry : Geometry) (question : PassageQuestion σ ω) :
    (Passage.answers table geometry question (e, c)).2.2.Warned (sent ++ (Passage.sent?
      ⟨question, (Passage.answers table geometry question (e, c)).1⟩).toList) := by
  cases question with
  | enter event module =>
    rw [Passage.answers]
    split <;> exact warned.of_same rfl rfl
  | inside view q =>
    cases q with
    | dispatch topic message =>
      let record : DispatchRecord := ⟨topic, message.detectorName, view.origin,
        (e.buffer.dispatch table view.origin message).count⟩
      change (if record.deliveries = 0 then c.undelivered topic view.origin message.detectorName
        else c).Warned (sent ++ [(view.module, record)])
      by_cases none : record.deliveries = 0
      · rw [if_pos none]
        exact warned.undelivered (x := (view.module, record)) none _
      · rw [if_neg none]
        exact warned.delivered none
    | _ => exact warned.of_same rfl rfl

end Warned

end Commons

/-- What was recorded in the event that a worker is inside of. -/
def Phase.records : Phase σ ω → List DispatchRecord
  | .working _ _ state => state.buffer.records
  | _ => []

/-- What was recorded in all events of a run, in processed ones and in those that workers are
inside of. -/
def Machine.records (m : Machine σ ω) : List DispatchRecord :=
  m.processed.flatMap (·.state.buffer.records) ++ m.workers.flatMap (·.phase.records)

/-- Only a dispatch is recorded in its event, behind the records before it. -/
theorem Passage.records_answers [Inhabited σ] (table : SubscriptionTable ω) (geometry : Geometry)
    (question : PassageQuestion σ ω) (e : EventState ω) (c : Commons σ) :
    (Passage.answers table geometry question (e, c)).2.1.buffer.records = e.buffer.records ++
      ((Passage.sent? ⟨question, (Passage.answers table geometry question (e, c)).1⟩).map
        Prod.snd).toList := by
  cases question with
  | enter event module =>
    rw [Passage.answers]
    split <;> exact (List.append_nil _).symm
  | inside view q =>
    cases q with
    | dispatch topic message => exact e.buffer.dispatch_recorded view.origin message table
    | _ => exact (List.append_nil _).symm

namespace Machine

/-- Behind these exchanges, warnings were given of the dispatches among them, all of which are
recorded. -/
structure WarningInvariant (m : Machine σ ω) (log : List (Exchange (passageInterface σ ω))) :
    Prop where
  fresh : ∀ worker ∈ m.workers, worker.buffer.records = []
  warned : m.commons.Warned (log.filterMap Passage.sent?)
  records : m.records.Perm ((log.filterMap Passage.sent?).map Prod.snd)

theorem warningInvariant_start (plan : RunPlan σ ω) (workers : Nat) :
    WarningInvariant (start plan workers) [] where
  fresh := forall_workers_start (by rfl) workers
  warned := ⟨rfl, .nil, by simp [start]⟩
  records := by
    have none : (start plan workers).workers.flatMap (·.phase.records) = [] := by
      refine List.flatMap_eq_nil_iff.mpr fun worker member => ?_
      rw [List.eq_of_mem_replicate member]
      rfl
    rw [records, none]
    exact .nil

namespace WarningInvariant

variable {plan : RunPlan σ ω} {m after : Machine σ ω} {id : Nat} {worker changed : Worker σ ω}
  {log : List (Exchange (passageInterface σ ω))}

private theorem put (valid : WarningInvariant m log) (found : m.workers[id]? = some worker)
    (workers : after.workers = m.workers.set id changed) (fresh : changed.buffer.records = [])
    (made : Option (Exchange (passageInterface σ ω)))
    (warned : after.commons.Warned
      (log.filterMap Passage.sent? ++ (made.bind Passage.sent?).toList))
    (records : (m.processed.flatMap (·.state.buffer.records) ++ worker.phase.records ++
        ((made.bind Passage.sent?).map Prod.snd).toList).Perm
      (after.processed.flatMap (·.state.buffer.records) ++ changed.phase.records)) :
    WarningInvariant after (log ++ made.toList) := by
  have sent : (log ++ made.toList).filterMap Passage.sent? =
      log.filterMap Passage.sent? ++ (made.bind Passage.sent?).toList := by
    rw [List.filterMap_append]
    cases made with
    | none => rfl
    | some x => cases same : Passage.sent? x <;> simp [same]
  refine ⟨forall_workers_put valid.fresh workers fresh, sent ▸ warned, ?_⟩
  -- by the number of each record, as the worker may stand anywhere among the others
  refine List.perm_iff_count.mpr fun record => ?_
  have old := ((workers_perm found).flatMap_right (·.phase.records)).count_eq record
  have new := ((put_workers_perm found changed).flatMap_right (·.phase.records)).count_eq record
  have before := valid.records.count_eq record
  have added := records.count_eq record
  have split : ((made.bind Passage.sent?).toList.map Prod.snd).count record =
      ((made.bind Passage.sent?).map Prod.snd).toList.count record := by
    cases made.bind Passage.sent? <;> rfl
  rw [← workers] at new
  simp only [Machine.records, sent, List.map_append, List.flatMap_cons, List.count_append] at *
  omega

variable [Inhabited σ]

private theorem quiet (valid : WarningInvariant m log) (found : m.workers[id]? = some worker)
    (asks : worker.phase.exchange? plan m.commons = none)
    (workers : after.workers = m.workers.set id changed) (fresh : changed.buffer.records = [])
    (same : changed.phase.records = worker.phase.records)
    (processed : after.processed = m.processed)
    (warned : after.commons.Warned (log.filterMap Passage.sent? ++ [])) :
    WarningInvariant after (log ++ (m.exchange? plan id).toList) := by
  rw [exchange?_found found, asks]
  refine valid.put found workers fresh none warned ?_
  rw [same, processed]
  exact .of_eq (List.append_nil _)

theorem move (valid : WarningInvariant m log) (move : Move plan m id after) :
    WarningInvariant after (log ++ (m.exchange? plan id).toList) := by
  have warned : m.commons.Warned (log.filterMap Passage.sent? ++ []) :=
    valid.warned.of_same rfl rfl
  have fresh {buffer : EventBuffer} {phase : Phase σ ω}
      (found : m.workers[id]? = some ⟨buffer, phase⟩) : buffer.records = [] :=
    valid.fresh _ (List.mem_of_getElem? found)
  cases move with
  | rest atEnd =>
    rw [exchange?_of_isOverAt atEnd]
    exact (List.append_nil log).symm ▸ valid
  | heed found stopped => exact valid.quiet found rfl rfl (fresh found) rfl rfl warned
  | pass found running => exact valid.quiet found rfl rfl (fresh found) rfl rfl warned
  | claim found left => exact valid.quiet found rfl rfl (fresh found) (fresh found) rfl warned
  | exhaust found none => exact valid.quiet found rfl rfl (fresh found) rfl rfl warned
  | @answer buffer index question next state found reply answered =>
    subst answered
    rw [exchange?_found found]
    refine valid.put found rfl (fresh found) (some _)
      (valid.warned.answers plan.table plan.geometry question) ?_
    change ((_ ++ state.buffer.records) ++ _).Perm (_ ++ EventBuffer.records _)
    rw [List.append_assoc, Passage.records_answers]
    exact .refl _
  | finish found =>
    rw [exchange?_found found]
    refine valid.put found rfl rfl none warned ?_
    change List.Perm (_ ++ _ ++ []) ((_ ++ _) ++ [])
    rw [List.append_nil, List.append_nil]
    exact List.perm_append_comm
  | complete found => exact valid.quiet found rfl rfl (fresh found) rfl rfl warned
  | skip found => exact valid.quiet found rfl rfl (fresh found) rfl rfl warned
  | fail found reported =>
    subst reported
    -- the report of a failure is no warning
    exact valid.quiet found rfl rfl (fresh found) rfl rfl
      ⟨warned.reported, warned.once, warned.mem_unmatched⟩
  | store found => exact valid.quiet found rfl rfl (fresh found) rfl rfl warned
  | panic found => exact valid.quiet found rfl rfl (fresh found) rfl rfl warned

end WarningInvariant

theorem warningInvariant_follow [Inhabited σ] (plan : RunPlan σ ω) (workers : Nat)
    (schedule : List Nat) : WarningInvariant ((start plan workers).follow plan schedule)
      ((start plan workers).exchanges plan schedule) :=
  follow_logs WarningInvariant WarningInvariant.move schedule (warningInvariant_start plan workers)

end Machine

section Finalization

variable {τ : Type} (answers : Interaction.Answers fileInterface τ) (files : τ)

theorem answerEnd_warnings (module : String) (q : EndQuestion ω) (e : Ending ω) :
    (((answerEnd module q).run e).run answers files).1.2.reports.filterMap Report.warning? =
      e.reports.filterMap Report.warning? := by
  cases q with
  | report finding =>
    change (e.reports ++ [Report.found module finding]).filterMap _ = _
    rw [List.filterMap_append]
    exact List.append_nil _
  | _ => rfl

theorem finalizeAll_warnings [Inhabited σ] (memories : List σ) (modules : List (ReadyModule σ ω))
    (e : Ending ω) :
    (((finalizeAll memories modules).run e).run answers files).1.2.reports.filterMap
      Report.warning? = e.reports.filterMap Report.warning? := by
  induction modules generalizing e files with
  | nil => rfl
  | cons i rest ih =>
    have kept := Interaction.interpret_keeps
      (fun b => b.reports.filterMap Report.warning? = e.reports.filterMap Report.warning?)
      (fun q b outer same => (answerEnd_warnings answers outer i.identifier.display q b).trans same)
      (i.body.finalize (memories.getD i.id default)).run e files rfl
    simp only [finalizeAll, StateT.run_bind, Interaction.run_bind]
    generalize (((i.body.finalize (memories.getD i.id default)).run.interpret
      (answerEnd i.identifier.display)).run e).run answers files = ended at kept ⊢
    obtain ⟨⟨outcome, b⟩, files⟩ := ended
    cases outcome with
    | ok _ => exact (ih files _).trans kept
    | error fault =>
      refine (ih files _).trans (Eq.trans ?_ kept)
      change (b.reports ++ [Report.finalizationFailed i.identifier.display fault]).filterMap _ = _
      rw [List.filterMap_append]
      exact List.append_nil _

namespace Simulation

/-- The warnings in the end are those of the run, the first one first. -/
theorem conclude_warnings [Inhabited σ] (s : Simulation σ ω) (m : Machine σ ω) :
    ((s.conclude m).run answers files).1.reports.filterMap Report.warning? =
      (m.commons.reports.filterMap Report.warning?).reverse := by
  have ending := finalizeAll_warnings answers files m.commons.memories s.modules ⟨[], [], []⟩
  rw [conclude, Interaction.run_bind]
  change (Report.runStarting .. :: (m.commons.reports.reverse ++
    (((finalizeAll m.commons.memories s.modules).run ⟨[], [], []⟩).run answers files).1.2.reports ++
      [Report.runFinished ..])).filterMap _ = _
  rw [List.filterMap_cons_none rfl, List.filterMap_append, List.filterMap_append, ending,
    ← List.filterMap_reverse]
  exact (List.append_nil _).trans (List.append_nil _)

end Simulation

end Finalization

section Counting

variable {c : Commons σ} {sent : List (ModuleId × DispatchRecord)} {reports : List Report}
  {typeName origin : String}

theorem Commons.Warned.exists_lost (warned : c.Warned sent)
    (same : (reports.filterMap Report.warning?).Perm (c.reports.filterMap Report.warning?))
    {r : Report} (member : r ∈ reports) (about : r.warning? = some (typeName, origin)) :
    ∃ x ∈ sent, x.2.IsLost typeName origin := by
  have given := same.mem_iff.mp (List.mem_filterMap.mpr ⟨r, member, about⟩)
  rw [warned.reported] at given
  exact (warned.mem_unmatched typeName origin).mp given

end Counting

namespace Machine

variable [Inhabited σ]

/-- Each dispatch of a run was made by a module, under its name. -/
theorem origin_of_mem_sent {plan : RunPlan σ ω} {workers : Nat} {schedule : List Nat}
    {x : ModuleId × DispatchRecord} (member : x ∈ (start plan workers).sent plan schedule) :
    ∃ i ∈ plan.modules, x.1 = i.id ∧ x.2.origin = i.identifier.display := by
  obtain ⟨exchange, made, sent⟩ := List.mem_filterMap.mp member
  obtain ⟨before, id, _, _, made⟩ := mem_exchanges_iff.mp made
  obtain ⟨buffer, index, question, next, state, found, rfl⟩ := exchange?_eq_some_iff.mp made
  obtain ⟨⟨speaks, _⟩, _⟩ :=
    (originInvariant_follow plan workers before).phases _ (List.mem_of_getElem? found)
  obtain ⟨view, topic, message, count, same, rfl⟩ := Passage.dispatch_of_sent sent
  obtain ⟨rfl, _⟩ := Interaction.Exchange.mk.inj same
  obtain ⟨i, present, rfl⟩ := speaks
  exact ⟨i, present, rfl, rfl⟩

end Machine

namespace Simulation

open Machine

variable {τ : Type} {answers : Interaction.Answers fileInterface τ} {files : τ}

section Prepared

variable {registry : Registry σ ω} {config : RunConfig} {given : Option Geometry}
  {processors : Nat} {geometry : Geometry} {s : Simulation σ ω}

theorem numbers_of_prepared
    (prepared : ((prepare registry config given processors).resultFrom (.start geometry) answers
      files).1 = .ok s) : (s.modules.map (·.id)).Nodup := by
  have ready := (prepare_leads registry config given processors (.start geometry)).ok prepared
  exact ready.ids ▸ List.nodup_range

theorem names_of_prepared (distinct : (registry.types.map (·.name)).Nodup)
    (written : ∀ s ∈ config.modules, ∃ origin text read,
      Document.read origin text = .ok read ∧ s ∈ read)
    (prepared : ((prepare registry config given processors).resultFrom (.start geometry) answers
      files).1 = .ok s) : (s.modules.map (·.identifier.display)).Nodup := by
  have named : ∀ s ∈ config.modules, isIdentifier s.name.toList = true := by
    intro s member
    obtain ⟨origin, text, read, parsed, present⟩ := written s member
    exact Document.isIdentifier_of_read parsed s present
  have leads := (prepare_leads registry config given processors (.start geometry)).and
    (prepare_asks registry config given processors (.start geometry))
  obtain ⟨ready, _, _, _, setUp⟩ := leads.ok prepared
  obtain ⟨parts, expands, filled⟩ := ready.filled
  exact nodup_display_of_fills distinct named expands filled setUp.identities

end Prepared

/-- A warning that is given in a run or when it is concluded is of a dispatch that was lost. -/
theorem exists_lost [Inhabited σ] (s : Simulation σ ω) {workers : Nat} {schedule : List Nat}
    {r : Report} (member : r ∈ ((start s.plan workers).follow s.plan schedule).commons.reports ++
      ((s.conclude ((start s.plan workers).follow s.plan schedule)).run answers files).1.reports)
    {typeName origin : String} (about : r.warning? = some (typeName, origin)) :
    ∃ x ∈ (start s.plan workers).sent s.plan schedule, x.2.IsLost typeName origin := by
  have warned := (warningInvariant_follow s.plan workers schedule).warned
  rcases List.mem_append.mp member with within | concluded
  · exact warned.exists_lost (.refl _) within about
  · refine warned.exists_lost ?_ concluded about
    rw [s.conclude_warnings answers files]
    exact List.reverse_perm _

end Simulation

end DetectorSim
