import DetectorSim.Files.Tree
import DetectorSim.Proofs.Run.Accounting
import DetectorSim.Proofs.Run.Completion
import DetectorSim.Proofs.Run.Turns

/-! What a run reports when it fails. Of the failures of its events it reports the one that was
stored first, whatever the order in which workers set the stop flag; only if there is none does it
report a panic, of the first of the workers that panicked. -/

namespace DetectorSim

open Interaction (Exchange)

variable {σ ω : Type}

/-- The failure that an event ended in. -/
def EventOutcome.failure? : EventOutcome → Option Failure
  | .failed f => some f
  | _ => none

theorem EventOutcome.isFailed_iff (outcome : EventOutcome) :
    outcome.isFailed = true ↔ ∃ f, outcome = .failed f := by
  cases outcome <;> simp [isFailed]

/-- The failure that a worker has yet to store. -/
def Phase.failure? : Phase σ ω → Option Failure
  | .closing outcome => outcome.failure?
  | .storing f => some f
  | _ => none

/-- The failure that a worker stores with its next step. -/
def Phase.stores? : Phase σ ω → Option Failure
  | .storing f => some f
  | _ => none

/-- Whether an error is that of a module. -/
def ExecutionError.isModuleFatal : ExecutionError → Bool
  | .moduleFatal .. => true
  | .workerPanic _ => false

namespace Passage

/-- In a passage, a module ran behind those before it and returned this error, with which the
passage ended. -/
inductive Returns (index : UInt64) : List (ReadyModule σ ω) →
    List (Exchange (passageInterface σ ω)) → ReadyModule σ ω → ModuleError → Prop where
  | intro {before after : List (ReadyModule σ ω)} {i : ReadyModule σ ω}
      {first : List (Exchange (passageInterface σ ω))}
      {own : List (Exchange (eventInterface σ ω))} {error : ModuleError}
      (begins : (through index before).Reaches first (.done .completed))
      (runs : (i.body.run (i.eventView index)).run.Reaches own (.done (.error (.error error)))) :
      Returns index (before ++ i :: after)
        (first ++ ⟨.enter index i.id, true⟩ :: own.map (within (i.eventView index))) i error

/-- A passage fails just if a module returned an error that is no skip; the failure tells which
error, which event and which module. -/
theorem failed_iff {index : UInt64} {modules : List (ReadyModule σ ω)}
    {exchanges : List (Exchange (passageInterface σ ω))} {outcome : EventOutcome}
    (reaches : (through index modules).Reaches exchanges (.done outcome)) (f : Failure) :
    outcome = .failed f ↔ ∃ i error, Returns index modules exchanges i error ∧
      error.isSkip = false ∧ f = ⟨index, i.id, i.identifier.display, error⟩ := by
  constructor
  · rintro rfl
    obtain ⟨module, halted⟩ : ∃ module, HaltedBy index modules exchanges module :=
      ⟨f.module, (haltedBy_iff reaches).mpr rfl⟩
    cases halted with
    | @intro before after i first later own halt begins halts =>
      have ended := reaches_ofHalt after begins halts
      rw [← List.cons_append, ← List.append_assoc] at reaches
      obtain ⟨rfl, same⟩ := ended.of_done reaches
      cases halt with
      | panic => cases same
      | error e =>
        rw [EventOutcome.ofHalt] at same
        split at same
        · cases same
        · rename_i unskipped
          cases same
          refine ⟨i, e, ?_, Bool.eq_false_iff.mpr unskipped, rfl⟩
          rw [List.append_nil]
          exact .intro begins halts
  · rintro ⟨i, error, returns, unskipped, rfl⟩
    cases returns with
    | @intro before after i first own error begins runs =>
      have ended := reaches_ofHalt after begins runs
      rw [← List.append_nil (first ++ _)] at reaches
      obtain ⟨_, rfl⟩ := ended.of_done reaches
      rw [EventOutcome.ofHalt, unskipped]
      rfl

end Passage

namespace Machine

section Stores

/-- The failure that a worker stores with its next step. -/
def storing? (m : Machine σ ω) (id : Nat) : Option Failure :=
  (m.workers[id]?).bind (·.phase.stores?)

theorem storing?_found {m : Machine σ ω} {id : Nat} {worker : Worker σ ω}
    (found : m.workers[id]? = some worker) : m.storing? id = worker.phase.stores? := by
  rw [storing?, found, Option.bind_some]

theorem storing?_of_isOverAt {m : Machine σ ω} {id : Nat} (atEnd : m.isOverAt id = true) :
    m.storing? id = none := by
  cases found : m.workers[id]? with
  | none => rw [storing?, found, Option.bind_none]
  | some worker =>
    rw [storing?_found found]
    rw [isOverAt, found, Option.all_some] at atEnd
    cases same : worker.phase <;> simp_all [Phase.isOver, Phase.stores?]

/-- The number of workers that have yet to store a failure. -/
def owing (m : Machine σ ω) (f : Failure) : Nat :=
  m.workers.countP (·.phase.failure? == some f)

/-- The number of events that ended in a failure. -/
def failing (m : Machine σ ω) (f : Failure) : Nat :=
  (m.processed.filterMap (·.outcome.failure?)).count f

variable [Inhabited σ] {plan : RunPlan σ ω} {m after : Machine σ ω} {id : Nat}

/-- The failures that are stored while a schedule is followed, in order. -/
def stores (plan : RunPlan σ ω) : Machine σ ω → List Nat → List Failure
  | _, [] => []
  | m, id :: rest => (m.storing? id).toList ++ stores plan (m.step plan id) rest

namespace Move

theorem failure (move : Move plan m id after) :
    after.failure = m.failure.or (m.storing? id) := by
  have unchanged {worker : Worker σ ω} (found : m.workers[id]? = some worker)
      (nothing : worker.phase.stores? = none) : m.failure = m.failure.or (m.storing? id) := by
    rw [storing?_found found, nothing, Option.or_none]
  cases move with
  | rest atEnd => rw [storing?_of_isOverAt atEnd, Option.or_none]
  | store found => rw [storing?_found found]; rfl
  | heed found | pass found | claim found | exhaust found | answer found | finish found
  | complete found | skip found | fail found | panic found => exact unchanged found rfl

/-- A failure comes from an event, stays with a worker, and is stored. -/
theorem owing_add (move : Move plan m id after) (f : Failure) :
    (m.storing? id).toList.count f + after.owing f + m.failing f =
      m.owing f + after.failing f := by
  -- the worker that moves passes on what it holds
  have passes {worker changed : Worker σ ω} {later : Machine σ ω}
      (found : m.workers[id]? = some worker) (workers : later.workers = m.workers.set id changed)
      (balance : worker.phase.stores?.toList.count f +
        (if changed.phase.failure? == some f then 1 else 0) + m.failing f =
          (if worker.phase.failure? == some f then 1 else 0) + later.failing f) :
      (m.storing? id).toList.count f + later.owing f + m.failing f =
        m.owing f + later.failing f := by
    have count : later.owing f + _ = m.owing f + _ :=
      countP_put (·.phase.failure? == some f) found workers
    rw [storing?_found found]
    omega
  cases move with
  | rest atEnd => simp [storing?_of_isOverAt atEnd]
  | @finish _ _ outcome state found =>
    refine passes found rfl ?_
    simp only [Phase.stores?, Phase.failure?, failing, put, List.filterMap_cons]
    cases outcome with
    | failed g => by_cases same : g = f <;> simp [EventOutcome.failure?, same]; omega
    | _ => simp [EventOutcome.failure?]
  | @store _ g found =>
    refine passes found rfl ?_
    simp only [Phase.stores?, Phase.failure?, failing, put]
    by_cases same : g = f <;> simp [same]
  | fail found reported => exact passes found rfl (congrArg (· + m.failing f) (Nat.zero_add _))
  | heed found | pass found | claim found | exhaust found | answer found | complete found
  | skip found | panic found => exact passes found rfl rfl

end Move

/-- The failure of a run is the first one that is stored. -/
theorem failure_follow (plan : RunPlan σ ω) (m : Machine σ ω) (schedule : List Nat) :
    (m.follow plan schedule).failure = m.failure.or (m.stores plan schedule).head? := by
  induction schedule generalizing m with
  | nil => exact Option.or_none.symm
  | cons id rest ih =>
    rw [follow_cons, ih, (move_step plan m id).failure, stores, List.head?_append,
      Option.head?_toList, Option.or_assoc]

theorem owing_follow (plan : RunPlan σ ω) (m : Machine σ ω) (schedule : List Nat) (f : Failure) :
    (m.stores plan schedule).count f + (m.follow plan schedule).owing f + m.failing f =
      m.owing f + (m.follow plan schedule).failing f := by
  induction schedule generalizing m with
  | nil => simp [stores]
  | cons id rest ih =>
    have here := (move_step plan m id).owing_add f
    have later := ih (m.step plan id)
    rw [stores, List.count_append, follow_cons]
    omega

/-- When all workers are at their end, each event that failed had its failure stored. -/
theorem stores_perm (plan : RunPlan σ ω) (workers : Nat) (schedule : List Nat)
    (atEnd : ((start plan workers).follow plan schedule).isOver = true) :
    ((start plan workers).stores plan schedule).Perm
      (((start plan workers).follow plan schedule).processed.filterMap (·.outcome.failure?)) := by
  refine List.perm_iff_count.mpr fun f => ?_
  have balance := owing_follow plan (start plan workers) schedule f
  have first : (start plan workers).owing f = 0 :=
    List.countP_eq_zero.mpr (forall_workers_start (by simp [Phase.failure?]) workers)
  have last : ((start plan workers).follow plan schedule).owing f = 0 := by
    refine List.countP_eq_zero.mpr fun worker member => ?_
    have ended := List.all_eq_true.mp atEnd worker member
    cases same : worker.phase <;> simp_all [Phase.isOver, Phase.failure?]
  have none : (start plan workers).failing f = 0 := rfl
  rw [first, last, none] at balance
  exact (by simpa using balance : _ = failing _ f)

end Stores

section Panics

/-- Whether an event of a worker ended in a panic. -/
def panickedIn (m : Machine σ ω) (id : Nat) : Bool :=
  m.processed.any fun p => p.worker == id && p.outcome.isPanicked

theorem panickedIn_iff (m : Machine σ ω) (id : Nat) : m.panickedIn id = true ↔
    ∃ p ∈ m.processed, p.outcome.isPanicked = true ∧ p.worker = id := by
  simp [panickedIn, and_comm]

theorem findIdx?_congr {α : Type} {first second : α → Bool} {xs : List α}
    (same : ∀ x ∈ xs, first x = second x) : xs.findIdx? first = xs.findIdx? second := by
  induction xs with
  | nil => rfl
  | cons x rest ih =>
    obtain ⟨head, others⟩ := List.forall_mem_cons.mp same
    rw [List.findIdx?_cons, List.findIdx?_cons, head, ih others]

theorem panickedWorker_of_isOver {m : Machine σ ω} (atEnd : m.isOver = true) :
    m.panickedWorker = m.workers.findIdx? (·.phase.isPanicking) := by
  refine findIdx?_congr fun worker member => ?_
  have ended := List.all_eq_true.mp atEnd worker member
  cases same : worker.phase <;> simp_all [Phase.isOver, Phase.isPanicking]

/-- The workers that panic are those of events that ended so. -/
def PanicInvariant (m : Machine σ ω) : Prop :=
  ∀ id, (m.workers[id]?).any (·.phase.isPanicking) = m.panickedIn id

theorem panicInvariant_start (plan : RunPlan σ ω) (workers : Nat) :
    PanicInvariant (start plan workers) := by
  intro id
  cases found : (start plan workers).workers[id]? with
  | none => rfl
  | some worker =>
    rw [List.eq_of_mem_replicate (List.mem_of_getElem? found)]
    rfl

namespace PanicInvariant

variable {m after : Machine σ ω} {id : Nat} {worker changed : Worker σ ω}

private theorem quiet (valid : PanicInvariant m) (found : m.workers[id]? = some worker)
    (workers : after.workers = m.workers.set id changed) (processed : after.processed = m.processed)
    (panicking : changed.phase.isPanicking = worker.phase.isPanicking) : PanicInvariant after := by
  intro other
  rw [panickedIn, processed, ← panickedIn, ← valid other]
  by_cases same : other = id
  · subst same
    rw [getElem?_put found workers, found, Option.any_some, Option.any_some, panicking]
  · rw [workers, List.getElem?_set_ne (Ne.symm same)]

theorem move [Inhabited σ] {plan : RunPlan σ ω} (valid : PanicInvariant m)
    (move : Move plan m id after) : PanicInvariant after := by
  cases move with
  | rest atEnd => exact valid
  | @finish _ _ outcome state found =>
    intro other
    have earlier := valid other
    rw [panickedIn] at earlier ⊢
    simp only [put, List.any_cons, ← earlier]
    by_cases same : other = id
    · subst same
      have moved : (m.workers.set other ⟨state.buffer.clear, .closing outcome⟩)[other]? = _ :=
        List.getElem?_set_self (List.getElem?_eq_some_iff.mp found).1
      simp [moved, found, Phase.isPanicking]
    · rw [List.getElem?_set_ne (Ne.symm same)]
      simp [Ne.symm same]
  | heed found | pass found | claim found | exhaust found | answer found | complete found
  | skip found | fail found | store found | panic found => exact valid.quiet found rfl rfl rfl

/-- When all workers are at their end, the first that panicked is the first of those whose events
ended so. -/
theorem panickedWorker_eq_some_iff (valid : PanicInvariant m) (atEnd : m.isOver = true) :
    m.panickedWorker = some id ↔
      m.panickedIn id = true ∧ ∀ other < id, m.panickedIn other = false := by
  have shown {place : Nat} (within : place < m.workers.length) :
      m.workers[place].phase.isPanicking = m.panickedIn place := by
    rw [← valid place, List.getElem?_eq_getElem within, Option.any_some]
  rw [panickedWorker_of_isOver atEnd, List.findIdx?_eq_some_iff_getElem]
  constructor
  · rintro ⟨within, panicked, first⟩
    refine ⟨(shown within).symm.trans panicked, fun other before => ?_⟩
    rw [← shown (Nat.lt_trans before within)]
    exact Bool.eq_false_iff.mpr (first other before)
  · rintro ⟨panicked, first⟩
    have within : id < m.workers.length := by
      by_contra outside
      rw [← valid id, List.getElem?_eq_none (Nat.not_lt.mp outside)] at panicked
      cases panicked
    refine ⟨within, (shown within).trans panicked, fun other before => ?_⟩
    rw [shown (Nat.lt_trans before within), first other before]
    exact Bool.false_ne_true

end PanicInvariant

theorem panicInvariant_follow [Inhabited σ] (plan : RunPlan σ ω) (workers : Nat)
    (schedule : List Nat) : PanicInvariant ((start plan workers).follow plan schedule) :=
  follow_keeps PanicInvariant PanicInvariant.move schedule (panicInvariant_start plan workers)

end Panics

/-- The outcomes of the events that were not skipped. -/
def unskipped (m : Machine σ ω) : List EventOutcome :=
  (m.processed.map (·.outcome)).filter (!·.isSkipped)

theorem any_unskipped (m : Machine σ ω) {kind : EventOutcome → Bool}
    (skips : ∀ outcome, outcome.isSkipped = true → kind outcome = false) :
    m.unskipped.any kind = m.processed.any (kind ·.outcome) := by
  rw [unskipped, List.any_filter, List.any_map]
  congr 1
  funext p
  cases skipped : p.outcome.isSkipped with
  | true => simp [skipped, skips _ skipped]
  | false => simp [skipped]

end Machine

namespace Simulation

open Machine

theorem error_conclude [Inhabited σ] {τ : Type} (s : Simulation σ ω) (m : Machine σ ω)
    (answers : Interaction.Answers fileInterface τ) (files : τ) :
    ((s.conclude m).run answers files).1.error = errorOf m := by
  rw [conclude, Interaction.run_bind]
  rfl

section Errors

variable {m : Machine σ ω}

theorem errorOf_eq_moduleFatal_iff {name : String} {event : UInt64} {error : ModuleError} :
    errorOf m = some (.moduleFatal name event error) ↔
      ∃ f, m.failure = some f ∧ f.name = name ∧ f.event = event ∧ f.error = error := by
  rw [errorOf]
  cases m.failure with
  | none => simp
  | some f => simp

theorem errorOf_eq_workerPanic_iff {worker : Nat} :
    errorOf m = some (.workerPanic worker) ↔
      m.failure = none ∧ m.panickedWorker = some worker := by
  rw [errorOf]
  cases m.failure with
  | none => simp
  | some f => simp

theorem errorOf_eq_none_iff : errorOf m = none ↔ m.failure = none ∧ m.panickedWorker = none := by
  rw [errorOf]
  cases m.failure with
  | none => simp
  | some f => simp

/-- Whether the error of a run is that of a module, or a panic, or there is none, is known from the
outcomes of the events that were not skipped. -/
theorem isModuleFatal_errorOf (faults : FaultInvariant m) (atEnd : m.isOver = true) :
    (errorOf m).map (·.isModuleFatal) =
      if m.unskipped.any EventOutcome.isFailed then some true
      else if m.unskipped.any EventOutcome.isPanicked then some false else none := by
  have failed : m.unskipped.any EventOutcome.isFailed = m.failure.isSome := by
    rw [m.any_unskipped fun outcome skipped => by cases outcome <;> first | rfl | cases skipped]
    exact (faults.failure_isSome atEnd).symm
  have panicked : m.unskipped.any EventOutcome.isPanicked = m.panickedWorker.isSome := by
    rw [m.any_unskipped fun outcome skipped => by cases outcome <;> first | rfl | cases skipped]
    exact (faults.panickedWorker_isSome atEnd).symm
  rw [failed, panicked, errorOf]
  cases m.failure with
  | some f => rfl
  | none => cases m.panickedWorker <;> rfl

end Errors

variable [Inhabited σ]

/-- Failed runs report the failure that was stored first. Every run comes to its end; when it has,
there is an error of a module just if some event ended in one that is no skip, even if workers
panicked. Each such event had its failure stored, which tells the module that returned the error,
the event and the error; reported is the failure stored first. If there is none, the panic of the
first of the workers is reported whose events ended so; and if there is none either, no error. Two
runs that differ in skipped events report the same of these three. -/
theorem failed_runs_report_first_failure (s : Simulation σ ω) :
    (∃ schedule, s.run = s.conclude ((start s.plan s.workers).follow s.plan schedule) ∧
      ((start s.plan s.workers).follow s.plan schedule).isOver = true) ∧
    ∀ schedule,
      let m := (start s.plan s.workers).follow s.plan schedule
      let stored := (start s.plan s.workers).stores s.plan schedule
      m.isOver = true → ∀ {τ : Type} (answers : Interaction.Answers fileInterface τ) (files : τ),
        let error := ((s.conclude m).run answers files).1.error
        (∀ p ∈ m.processed, ∃ exchanges, s.plan.Tells p.index exchanges (.done p.outcome) p.state ∧
          ∀ f, p.outcome = .failed f ↔ ∃ i e, Passage.Returns p.index s.modules exchanges i e ∧
            e.isSkip = false ∧ f = ⟨p.index, i.id, i.identifier.display, e⟩) ∧
        stored.Perm (m.processed.filterMap (·.outcome.failure?)) ∧
        ((∃ name event e, error = some (.moduleFatal name event e)) ↔
          ∃ p ∈ m.processed, ∃ f, p.outcome = .failed f) ∧
        (∀ name event e, error = some (.moduleFatal name event e) ↔
          ∃ f, stored.head? = some f ∧ f.name = name ∧ f.event = event ∧ f.error = e) ∧
        ((∃ worker, error = some (.workerPanic worker)) ↔
          (¬∃ p ∈ m.processed, ∃ f, p.outcome = .failed f) ∧
            ∃ p ∈ m.processed, p.outcome.isPanicked = true) ∧
        (∀ worker, error = some (.workerPanic worker) →
          (∃ p ∈ m.processed, p.outcome.isPanicked = true ∧ p.worker = worker) ∧
            ∀ p ∈ m.processed, p.outcome.isPanicked = true → worker ≤ p.worker) ∧
        (error = none ↔ ∀ p ∈ m.processed, p.outcome.endsRun = false) ∧
        ∀ (s' : Simulation σ ω) (schedule' : List Nat),
          let m' := (start s'.plan s'.workers).follow s'.plan schedule'
          m'.isOver = true → m.unskipped.Perm m'.unskipped →
            error.map (·.isModuleFatal) =
              ((s'.conclude m').run answers files).1.error.map (·.isModuleFatal) := by
  constructor
  · obtain ⟨schedule, same, atEnd⟩ := exists_complete s.plan s.workers
    exact ⟨schedule, congrArg s.conclude same, atEnd⟩
  · intro schedule m stored atEnd τ answers files error
    have faults := faultInvariant_follow s.plan s.workers schedule
    have panics := panicInvariant_follow s.plan s.workers schedule
    have reported : error = errorOf m := s.error_conclude m answers files
    have first : m.failure = stored.head? := failure_follow s.plan (start s.plan s.workers) schedule
    have fails : m.failure.isSome = true ↔ ∃ p ∈ m.processed, ∃ f, p.outcome = .failed f := by
      rw [faults.failure_isSome atEnd, List.any_eq_true]
      exact exists_congr fun p => and_congr_right fun _ => p.outcome.isFailed_iff
    have panicked : m.panickedWorker.isSome = true ↔
        ∃ p ∈ m.processed, p.outcome.isPanicked = true := by
      rw [faults.panickedWorker_isSome atEnd, List.any_eq_true]
    rw [reported]
    refine ⟨fun p present => ?_, stores_perm s.plan s.workers schedule atEnd,
      ?_, ?_, ?_, ?_, ?_, ?_⟩
    · obtain ⟨exchanges, tells⟩ :=
        (historyInvariant_follow s.plan s.workers schedule).processed p present
      exact ⟨exchanges, tells, Passage.failed_iff tells.reaches⟩
    · rw [← fails, Option.isSome_iff_exists]
      simp only [errorOf_eq_moduleFatal_iff]
      constructor
      · rintro ⟨_, _, _, f, found, _⟩
        exact ⟨f, found⟩
      · rintro ⟨f, found⟩
        exact ⟨_, _, _, f, found, rfl, rfl, rfl⟩
    · intro name event e
      rw [← first]
      exact errorOf_eq_moduleFatal_iff
    · rw [← fails, ← panicked, Option.not_isSome_iff_eq_none, Option.isSome_iff_exists]
      simp only [errorOf_eq_workerPanic_iff, exists_and_left]
    · intro worker panic
      obtain ⟨own, before⟩ :=
        (panics.panickedWorker_eq_some_iff atEnd).mp (errorOf_eq_workerPanic_iff.mp panic).2
      refine ⟨(m.panickedIn_iff worker).mp own, fun p present ended => ?_⟩
      by_contra lower
      have known := (m.panickedIn_iff p.worker).mpr ⟨p, present, ended, rfl⟩
      rw [before p.worker (Nat.not_le.mp lower)] at known
      cases known
    · have unended : m.hasFault = false ↔ ∀ p ∈ m.processed, p.outcome.endsRun = false := by
        simp [hasFault]
      rw [← unended, ← Bool.not_eq_true, hasFault_iff, processedCount_pos, processedCount_pos,
        ← faults.failure_isSome atEnd, ← faults.panickedWorker_isSome atEnd, not_or,
        Option.not_isSome_iff_eq_none, Option.not_isSome_iff_eq_none]
      exact errorOf_eq_none_iff
    · intro s' schedule' m' atEnd' same
      rw [s'.error_conclude m', isModuleFatal_errorOf faults atEnd,
        isModuleFatal_errorOf (faultInvariant_follow s'.plan s'.workers schedule') atEnd',
        same.any_eq, same.any_eq]

/-- Three workers and a module that panics in the second of three events. -/
private def divided (first third : EventProgram Unit Unit Unit) : Simulation Unit Unit where
  modules := [⟨0, ⟨"divided", .global⟩, .new "divided" none, [], true,
    { memory := ()
      run := fun view =>
        if view.index = 0 then first else if view.index = 1 then .panic else third
      finalize := fun _ => pure () }⟩]
  table := .empty
  geometry := .empty
  globals := .new "Pixsim" none
  settings := ⟨3, 3, 0, true⟩
  workers := 3

/-- The first event ends before the others, but the failure of the third is stored before its own
and is reported. Without failures it is the lower of two workers that is reported, though it was not
the first to panic. -/
theorem third_event_stores_its_failure_first :
    let failing := divided (EventProgram.fail (.fatal "one")) (EventProgram.fail (.fatal "three"))
    let panicking := divided (EventProgram.fail (.skip "one")) .panic
    let schedule := [0, 0, 1, 1, 2, 2] ++ [0, 0, 0] ++ [2, 2, 2, 2] ++ [1, 1, 1] ++ [0, 0]
    let m := (start failing.plan 3).follow failing.plan schedule
    let m' := (start panicking.plan 3).follow panicking.plan schedule
    (m.isOver = true ∧
      ((start failing.plan 3).stores failing.plan schedule).map (·.event) = [2, 0] ∧
      ((failing.conclude m).run FileTree.answers ⟨[]⟩).1.error =
        some (.moduleFatal "divided" 2 (.fatal "three"))) ∧
      m'.isOver = true ∧ m'.processed.map (·.worker) = [1, 2, 0] ∧
        ((panicking.conclude m').run FileTree.answers ⟨[]⟩).1.error = some (.workerPanic 1) ∧
        ∀ p ∈ m'.processed, p.outcome.isPanicked = true → 1 ≤ p.worker := by
  intro failing panicking schedule m m'
  have atEnd : m.isOver = true := by decide
  have atEnd' : m'.isOver = true := by decide
  have stored : (start failing.plan 3).stores failing.plan schedule =
      [⟨2, 0, "divided", .fatal "three"⟩, ⟨0, 0, "divided", .fatal "one"⟩] := by decide
  have panic : ((panicking.conclude m').run FileTree.answers ⟨[]⟩).1.error =
      some (.workerPanic 1) :=
    (panicking.error_conclude m' FileTree.answers ⟨[]⟩).trans (by decide : errorOf m' = _)
  obtain ⟨_, _, _, reported, _⟩ := (failed_runs_report_first_failure failing).2 schedule atEnd
    FileTree.answers ⟨[]⟩
  obtain ⟨_, _, _, _, _, lowest, _⟩ := (failed_runs_report_first_failure panicking).2 schedule
    atEnd' FileTree.answers ⟨[]⟩
  have first := congrArg List.head? stored
  refine ⟨⟨atEnd, ?_, (reported _ _ _).mpr ⟨_, first, rfl, rfl, rfl⟩⟩,
    atEnd', by decide, panic, (lowest 1 panic).2⟩
  rw [stored]
  rfl

end Simulation

end DetectorSim
