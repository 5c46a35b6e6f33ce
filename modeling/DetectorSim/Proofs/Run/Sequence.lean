import DetectorSim.Proofs.Run.Independence
import DetectorSim.Proofs.Run.LifeCycle

/-! Runs with one worker. Events are then processed one after the other, as in a loop that has
neither claims nor a stop flag; the state of a run with one worker foretells what the loop comes to
in the end, and no step changes that. -/

namespace DetectorSim

variable {σ ω : Type}

/-- What a loop over events has come to; the events are listed with the latest first. -/
structure Progress (σ ω : Type) where
  completed : UInt64
  skipped : UInt64
  error : Option ExecutionError
  commons : Commons σ
  processed : List (Processed ω)

namespace Progress

/-- Nothing is processed yet. -/
def start (plan : RunPlan σ ω) : Progress σ ω :=
  ⟨0, 0, none, ⟨plan.modules.map (·.body.memory), [], [], []⟩, []⟩

/-- Counts an outcome and goes on, unless the outcome ends the loop. -/
def settle (a : Progress σ ω) (onwards : Progress σ ω → Progress σ ω) :
    EventOutcome → Progress σ ω
  | .completed => onwards { a with completed := a.completed + 1 }
  | .skipped .. => onwards { a with skipped := a.skipped + 1 }
  | .failed f => { a with
      error := some (.moduleFatal f.name f.event f.error)
      commons := { a.commons with
        reports := .moduleFailed f.error f.event f.name :: a.commons.reports } }
  | .panicked _ => { a with error := some (.workerPanic 0) }

end Progress

namespace RunPlan

variable [Inhabited σ]

/-- Takes an event through the modules in a fresh buffer, with what workers share. -/
def process (plan : RunPlan σ ω) (index : UInt64) (c : Commons σ) :
    EventOutcome × EventState ω × Commons σ :=
  (Passage.through index plan.modules).run (Passage.answers plan.table plan.geometry)
    (.start (.new plan.table.size) plan.seed index, c)

/-- Processes a number of events one after the other, up to the first that ends in an error or a
panic. -/
def sequence (plan : RunPlan σ ω) : Nat → UInt64 → Progress σ ω → Progress σ ω
  | 0, _, a => a
  | left + 1, index, a =>
    let (outcome, state, commons) := plan.process index a.commons
    Progress.settle { a with commons, processed := ⟨0, index, outcome, state⟩ :: a.processed }
      (plan.sequence left (index + 1)) outcome

/-- Processes all events of a run one after the other. -/
def sequential (plan : RunPlan σ ω) : Progress σ ω :=
  plan.sequence plan.events.toNat 0 (.start plan)

end RunPlan

/-- The error of a run that an outcome ends. -/
def EventOutcome.error? : EventOutcome → Option ExecutionError
  | .failed f => some (.moduleFatal f.name f.event f.error)
  | .panicked _ => some (.workerPanic 0)
  | _ => none

theorem EventOutcome.error?_isSome (outcome : EventOutcome) :
    outcome.error?.isSome = outcome.endsRun := by
  cases outcome <;> rfl

theorem length_eq_countP (events : List (Processed ω)) :
    events.length = events.countP (·.outcome.isCompleted) + events.countP (·.outcome.isSkipped) +
      events.countP (·.outcome.endsRun) := by
  induction events with
  | nil => rfl
  | cons p rest ih =>
    simp only [List.length_cons, List.countP_cons, ih]
    cases p.outcome <;> simp [EventOutcome.isCompleted, EventOutcome.isSkipped,
      EventOutcome.endsRun] <;> omega

/-- What a loop over a number of events from an index on adds to what it had come to: events in
order, of which only the last can have ended it. -/
structure Progress.Advances (left : Nat) (index : UInt64) (a b : Progress σ ω)
    (events : List (Processed ω)) : Prop where
  processed : b.processed = events.reverse ++ a.processed
  indices : events.map (·.index) = (List.range' index.toNat events.length).map UInt64.ofNat
  onwards : ∀ p ∈ events.dropLast, p.outcome.endsRun = false
  completed : b.completed = a.completed + UInt64.ofNat (events.countP (·.outcome.isCompleted))
  skipped : b.skipped = a.skipped + UInt64.ofNat (events.countP (·.outcome.isSkipped))
  error : b.error = events.getLast?.bind (·.outcome.error?)
  most : events.length ≤ left
  all : b.error = none → events.length = left

namespace Progress.Advances

variable {left : Nat} {a b : Progress σ ω} {p : Processed ω}

theorem cons {next : Progress σ ω} {later : List (Processed ω)}
    (advances : next.Advances left (p.index + 1) b later) (room : p.index.toNat + 1 < 2 ^ 64)
    (processed : next.processed = p :: a.processed) (ends : p.outcome.endsRun = false)
    (completed : next.completed = a.completed + if p.outcome.isCompleted then 1 else 0)
    (skipped : next.skipped = a.skipped + if p.outcome.isSkipped then 1 else 0) :
    a.Advances (left + 1) p.index b (p :: later) where
  processed := by
    rw [advances.processed, processed, List.reverse_cons, List.append_assoc, List.singleton_append]
  indices := by
    rw [List.map_cons, advances.indices, toNat_add_one room, List.length_cons, List.range'_succ,
      List.map_cons, UInt64.ofNat_toNat]
  onwards := by
    cases later with
    | nil =>
      rw [List.dropLast_singleton]
      exact List.forall_mem_nil _
    | cons q rest =>
      rw [List.dropLast_cons_cons]
      exact List.forall_mem_cons.mpr ⟨ends, advances.onwards⟩
  completed := by
    rw [advances.completed, completed, List.countP_cons, UInt64.ofNat_add]
    split <;> grind
  skipped := by
    rw [advances.skipped, skipped, List.countP_cons, UInt64.ofNat_add]
    split <;> grind
  error := by
    rw [advances.error]
    cases later with
    | nil => cases same : p.outcome <;> simp_all [EventOutcome.endsRun, EventOutcome.error?]
    | cons q rest => rfl
  most := Nat.succ_le_succ advances.most
  all unfailed := congrArg (· + 1) (advances.all unfailed)

theorem last {error : ExecutionError} (processed : b.processed = p :: a.processed)
    (ends : p.outcome.error? = some error) (completed : b.completed = a.completed)
    (skipped : b.skipped = a.skipped) (failed : b.error = some error) :
    a.Advances (left + 1) p.index b [p] where
  processed := processed
  indices := by simp
  onwards := by
    rw [List.dropLast_singleton]
    exact List.forall_mem_nil _
  completed := by
    cases same : p.outcome <;> simp_all [EventOutcome.error?, EventOutcome.isCompleted]
  skipped := by
    cases same : p.outcome <;> simp_all [EventOutcome.error?, EventOutcome.isSkipped]
  error := failed.trans ends.symm
  most := Nat.succ_le_succ (Nat.zero_le left)
  all unfailed := by
    rw [failed] at unfailed
    cases unfailed

/-- One event ended the loop, if any did. -/
theorem countP_endsRun {index : UInt64} {events : List (Processed ω)}
    (advances : a.Advances left index b events) :
    events.countP (·.outcome.endsRun) = if b.error.isSome then 1 else 0 := by
  rw [advances.error]
  rcases List.eq_nil_or_concat' events with rfl | ⟨first, p, rfl⟩
  · rfl
  · have none : first.countP (·.outcome.endsRun) = 0 := by
      have onwards := advances.onwards
      rw [List.dropLast_concat] at onwards
      exact List.countP_eq_zero.mpr fun q member => by simp [onwards q member]
    rw [List.countP_append, none, Nat.zero_add, List.getLast?_concat, Option.bind_some,
      EventOutcome.error?_isSome, List.countP_singleton]

/-- The number of events is known from the index of the last one. -/
theorem index_last {index : UInt64} {events : List (Processed ω)}
    (advances : a.Advances left index b events) (room : index.toNat + left < 2 ^ 64)
    (found : events.getLast? = some p) : p.index.toNat + 1 = index.toNat + events.length := by
  have most := advances.most
  have last := congrArg List.getLast? advances.indices
  obtain ⟨first, rfl⟩ := List.getLast?_eq_some_iff.mp found
  rw [List.length_append, List.length_singleton] at last most ⊢
  rw [List.range'_concat, List.map_append, List.map_append, List.map_singleton, List.map_singleton,
    List.getLast?_concat, List.getLast?_concat, Option.some.injEq, Nat.one_mul] at last
  rw [last, UInt64.toNat_ofNat_of_lt' (show index.toNat + first.length < 2 ^ 64 by omega)]
  omega

end Progress.Advances

theorem RunPlan.sequence_advances [Inhabited σ] (plan : RunPlan σ ω) (left : Nat) (index : UInt64)
    (a : Progress σ ω) (room : index.toNat + left < 2 ^ 64) (running : a.error = none) :
    ∃ events, a.Advances left index (plan.sequence left index a) events := by
  induction left generalizing index a with
  | zero =>
    exact ⟨[], rfl, rfl, List.forall_mem_nil _, (UInt64.add_zero _).symm,
      (UInt64.add_zero _).symm, running, Nat.le_refl 0, fun _ => rfl⟩
  | succ left ih =>
    have within : index.toNat + 1 < 2 ^ 64 := by omega
    have next : (index + 1).toNat + left < 2 ^ 64 := by
      rw [toNat_add_one within]
      omega
    rw [sequence]
    obtain ⟨outcome, state, commons⟩ := plan.process index a.commons
    let p : Processed ω := ⟨0, index, outcome, state⟩
    let done : Progress σ ω := { a with commons, processed := p :: a.processed }
    change ∃ events, a.Advances (left + 1) p.index
      (done.settle (plan.sequence left (index + 1)) outcome) events
    cases outcome with
    | completed =>
      obtain ⟨later, advances⟩ :=
        ih (index + 1) { done with completed := a.completed + 1 } next running
      exact ⟨p :: later, advances.cons (p := p) within rfl rfl rfl (UInt64.add_zero _).symm⟩
    | skipped module e =>
      obtain ⟨later, advances⟩ := ih (index + 1) { done with skipped := a.skipped + 1 } next running
      exact ⟨p :: later, advances.cons (p := p) within rfl rfl (UInt64.add_zero _).symm rfl⟩
    | failed f => exact ⟨[p], .last rfl rfl rfl rfl rfl⟩
    | panicked module => exact ⟨[p], .last rfl rfl rfl rfl rfl⟩

namespace Machine

variable [Inhabited σ]

/-- The counters, the commons and the processed events of a run. -/
def progress (m : Machine σ ω) (error : Option ExecutionError) : Progress σ ω :=
  ⟨m.completed, m.skipped, error, m.commons, m.processed⟩

/-- The events that are not claimed yet, processed one after the other. -/
def remaining (plan : RunPlan σ ω) (m : Machine σ ω) : Progress σ ω → Progress σ ω :=
  plan.sequence (plan.events.toNat - m.next.toNat) m.next

/-- What a run with a single worker, which is in a phase, comes to. -/
def outlook (plan : RunPlan σ ω) (m : Machine σ ω) : Phase σ ω → Progress σ ω
  | .ready | .cleared => m.remaining plan (m.progress none)
  | .working index rest state =>
    let (outcome, state, commons) :=
      rest.run (Passage.answers plan.table plan.geometry) (state, m.commons)
    Progress.settle { m.progress none with
      commons, processed := ⟨0, index, outcome, state⟩ :: m.processed } (m.remaining plan) outcome
  | .closing outcome => (m.progress none).settle (m.remaining plan) outcome
  | .storing f => m.progress (some (.moduleFatal f.name f.event f.error))
  | .ended | .panicked => m.progress (Simulation.errorOf m)

theorem remaining_claim {plan : RunPlan σ ω} {m : Machine σ ω} (left : m.next < plan.events)
    (a : Progress σ ω) :
    m.remaining plan a =
      plan.sequence (plan.events.toNat - (m.next + 1).toNat + 1) m.next a := by
  have inside : m.next.toNat < plan.events.toNat := left
  have inRange := plan.events.toNat_lt
  rw [remaining, toNat_add_one (by omega), Nat.sub_add_eq, Nat.sub_add_cancel (by omega)]

theorem remaining_exhausted {plan : RunPlan σ ω} {m : Machine σ ω} (none : plan.events ≤ m.next)
    (a : Progress σ ω) : m.remaining plan a = a := by
  have exhausted : plan.events.toNat ≤ m.next.toNat := none
  rw [remaining, Nat.sub_eq_zero_of_le exhausted, RunPlan.sequence]

omit [Inhabited σ] in
theorem errorOf_single (m : Machine σ ω) {worker : Worker σ ω} (unfailed : m.failure = none)
    (alone : m.workers = [worker]) :
    Simulation.errorOf m = match worker.phase with
      | .panicked => some (.workerPanic 0)
      | _ => none := by
  rw [Simulation.errorOf, unfailed, panickedWorker, alone]
  cases same : worker.phase <;> simp [same]

/-- A run with a single worker comes to what the loop over all events comes to. -/
structure SequenceInvariant (plan : RunPlan σ ω) (m : Machine σ ω) (worker : Worker σ ω) :
    Prop where
  alone : m.workers = [worker]
  fresh : worker.buffer = .new plan.table.size
  inside : ∀ index rest state, worker.phase = .working index rest state →
    state.buffer.inboxes.length = plan.table.size
  running : worker.phase.isSpent = false → m.stopped = false
  unfailed : worker.phase.isOver = false → m.failure = none
  comesTo : m.outlook plan worker.phase = plan.sequential

theorem sequenceInvariant_start (plan : RunPlan σ ω) :
    SequenceInvariant plan (start plan 1) ⟨.new plan.table.size, .ready⟩ where
  alone := rfl
  fresh := rfl
  inside _ _ _ same := nomatch same
  running _ := rfl
  unfailed _ := rfl
  comesTo := rfl

namespace SequenceInvariant

variable {plan : RunPlan σ ω} {m after : Machine σ ω} {id : Nat} {worker changed : Worker σ ω}

theorem found (valid : SequenceInvariant plan m worker) (found : m.workers[id]? = some changed) :
    id = 0 ∧ changed = worker := by
  rw [valid.alone] at found
  cases id with
  | zero => exact ⟨rfl, (Option.some.inj found).symm⟩
  | succ => cases found

theorem set (valid : SequenceInvariant plan m worker) (changed : Worker σ ω) :
    m.workers.set 0 changed = [changed] := by
  rw [valid.alone, List.set_cons_zero]

private theorem put (valid : SequenceInvariant plan m worker)
    (workers : after.workers = m.workers.set 0 changed)
    (fresh : changed.buffer = .new plan.table.size)
    (inside : ∀ index rest state, changed.phase = .working index rest state →
      state.buffer.inboxes.length = plan.table.size)
    (running : changed.phase.isSpent = false → after.stopped = false)
    (unfailed : changed.phase.isOver = false → after.failure = none)
    (same : after.outlook plan changed.phase = m.outlook plan worker.phase) :
    SequenceInvariant plan after changed where
  alone := workers.trans (valid.set changed)
  fresh := fresh
  inside := inside
  running := running
  unfailed := unfailed
  comesTo := same.trans valid.comesTo

private theorem quiet (valid : SequenceInvariant plan m worker)
    (workers : after.workers = m.workers.set 0 changed)
    (fresh : changed.buffer = .new plan.table.size)
    (outside : changed.phase.inside? = none)
    (running : changed.phase.isSpent = false → after.stopped = false)
    (unfailed : changed.phase.isOver = false → after.failure = none)
    (same : after.outlook plan changed.phase = m.outlook plan worker.phase) :
    SequenceInvariant plan after changed := by
  refine valid.put workers fresh ?_ running unfailed same
  intro index rest state inside
  rw [inside] at outside
  cases outside

theorem move (valid : SequenceInvariant plan m worker) (move : Move plan m id after) :
    ∃ changed, SequenceInvariant plan after changed := by
  -- nothing more is asked of a worker that is spent
  have spent {asked : Prop} (on : true = false) : asked := by cases on
  cases move with
  | rest atEnd => exact ⟨worker, valid⟩
  | heed found stopped =>
    obtain ⟨rfl, rfl⟩ := valid.found found
    rw [valid.running rfl] at stopped
    cases stopped
  | pass found running =>
    obtain ⟨rfl, rfl⟩ := valid.found found
    exact ⟨_, valid.quiet rfl valid.fresh rfl valid.running valid.unfailed rfl⟩
  | @claim buffer found left =>
    obtain ⟨rfl, rfl⟩ := valid.found found
    obtain rfl : buffer = .new plan.table.size := valid.fresh
    refine ⟨_, valid.put rfl rfl ?_ valid.running valid.unfailed ?_⟩
    · rintro _ _ _ ⟨⟩
      simp [EventState.start, EventBuffer.new]
    · exact (remaining_claim left (m.progress none)).symm
  | exhaust found none =>
    obtain ⟨rfl, rfl⟩ := valid.found found
    refine ⟨_, valid.quiet rfl valid.fresh rfl spent spent ?_⟩
    refine Eq.trans (congrArg m.progress ?_) (remaining_exhausted none _).symm
    exact errorOf_single (Machine.put { m with next := m.next + 1 } 0 _) (valid.unfailed rfl)
      (valid.set _)
  | @answer buffer index question next state found reply answered =>
    obtain ⟨rfl, rfl⟩ := valid.found found
    subst answered
    refine ⟨_, valid.put rfl valid.fresh ?_ valid.running valid.unfailed rfl⟩
    rintro _ _ _ ⟨⟩
    rw [Passage.answers_inboxes]
    exact valid.inside _ _ _ rfl
  | finish found =>
    obtain ⟨rfl, rfl⟩ := valid.found found
    refine ⟨_, valid.quiet rfl ?_ rfl (fun _ => valid.running rfl) valid.unfailed rfl⟩
    rw [EventBuffer.clear_eq_new, valid.inside _ _ _ rfl]
  | complete found =>
    obtain ⟨rfl, rfl⟩ := valid.found found
    exact ⟨_, valid.quiet rfl valid.fresh rfl valid.running valid.unfailed rfl⟩
  | skip found =>
    obtain ⟨rfl, rfl⟩ := valid.found found
    exact ⟨_, valid.quiet rfl valid.fresh rfl valid.running valid.unfailed rfl⟩
  | fail found reported =>
    obtain ⟨rfl, rfl⟩ := valid.found found
    subst reported
    exact ⟨_, valid.quiet rfl valid.fresh rfl spent valid.unfailed rfl⟩
  | store found =>
    obtain ⟨rfl, rfl⟩ := valid.found found
    refine ⟨_, valid.quiet rfl valid.fresh rfl spent spent (congrArg m.progress ?_)⟩
    simp only [Simulation.errorOf, Machine.put, valid.unfailed rfl, Option.none_or]
  | panic found =>
    obtain ⟨rfl, rfl⟩ := valid.found found
    refine ⟨_, valid.quiet rfl valid.fresh rfl spent spent (congrArg m.progress ?_)⟩
    exact errorOf_single (Machine.put { m with stopped := true } 0 _) (valid.unfailed rfl)
      (valid.set _)

end SequenceInvariant

theorem sequenceInvariant_follow (plan : RunPlan σ ω) (schedule : List Nat) :
    ∃ worker, SequenceInvariant plan ((start plan 1).follow plan schedule) worker :=
  follow_keeps (fun m => ∃ worker, SequenceInvariant plan m worker)
    (fun ⟨_, valid⟩ move => valid.move move) schedule ⟨_, sequenceInvariant_start plan⟩

/-- When the only worker is at its end, the run has come to what the loop comes to. -/
theorem progress_of_isOver (plan : RunPlan σ ω) (schedule : List Nat)
    (atEnd : ((start plan 1).follow plan schedule).isOver = true) :
    let m := (start plan 1).follow plan schedule
    m.progress (Simulation.errorOf m) = plan.sequential := by
  obtain ⟨worker, valid⟩ := sequenceInvariant_follow plan schedule
  have ended : worker.phase.isOver = true := by
    have all := List.all_eq_true.mp atEnd
    rw [valid.alone] at all
    exact all worker (List.mem_singleton_self worker)
  have comesTo := valid.comesTo
  cases same : worker.phase <;> simp_all [Phase.isOver, outlook]

end Machine

namespace Simulation

variable [Inhabited σ]

/-- Processes all events one after the other, then finalizes all modules. -/
def runInSequence (s : Simulation σ ω) : FileProgram (RunResult ω) := do
  let a := s.plan.sequential
  let starting : Report := .runStarting s.settings.events 1 s.settings.seed
  let finished : Report := .runFinished a.completed a.skipped
  let (_, ending) ← (finalizeAll a.commons.memories s.modules).run ⟨[], [], []⟩
  return {
    summary := ⟨s.settings.events, a.completed, a.skipped, 1, a.error.isSome⟩
    error := a.error
    processed := a.processed.reverse
    notes := ending.notes
    reports := starting :: (a.commons.reports.reverse ++ ending.reports ++ [finished])
    calls := a.commons.calls.reverse ++ ending.calls }

omit [Inhabited σ] in
theorem errorOf_isSome (m : Machine σ ω) :
    (errorOf m).isSome = (m.failure.isSome || m.panickedWorker.isSome) := by
  rw [errorOf]
  cases m.failure <;> simp

open Machine

theorem conclude_eq_runInSequence (s : Simulation σ ω) (single : s.workers = 1) {m : Machine σ ω}
    (same : m.progress (errorOf m) = s.plan.sequential) :
    s.conclude m = s.runInSequence := by
  rw [runInSequence, ← same, conclude]
  simp only [summary, progress, single, errorOf_isSome]

end Simulation

namespace RunPlan

variable [Inhabited σ]

open Machine

theorem sequential_advances (plan : RunPlan σ ω) :
    (Progress.start plan).Advances plan.events.toNat 0 plan.sequential
      plan.sequential.processed.reverse := by
  obtain ⟨events, advances⟩ := plan.sequence_advances plan.events.toNat 0 (.start plan)
    (by simpa using plan.events.toNat_lt) rfl
  have processed : plan.sequential.processed = events.reverse :=
    advances.processed.trans (List.append_nil _)
  rw [processed, List.reverse_reverse]
  exact advances

/-- The events of the loop go through the modules in order, and the calls are those made for
them. -/
theorem sequential_orderly (plan : RunPlan σ ω) :
    (∀ p ∈ plan.sequential.processed, p.IsOrderly plan) ∧
      plan.sequential.commons.calls.Perm (plan.sequential.processed.flatMap Processed.runs) := by
  obtain ⟨schedule, _, atEnd⟩ := exists_complete plan 1
  have valid := orderInvariant_follow plan 1 schedule
  have same := progress_of_isOver plan schedule atEnd
  rw [← same]
  exact ⟨valid.processed, valid.calls_of_isOver atEnd⟩

end RunPlan

namespace Processed

variable {plan : RunPlan σ ω} {p : Processed ω}

/-- The error of a run that an event ended names the event and the last module that ran, which
returned the error, unless that module panicked. -/
theorem IsOrderly.error_eq (orderly : p.IsOrderly plan) {e : ExecutionError}
    (ended : p.outcome.error? = some e) :
    (∃ i ∈ plan.modules, ∃ error, error.isSkip = false ∧
      p.outcome = .failed ⟨p.index, i.id, i.identifier.display, error⟩ ∧
      p.state.entered.getLast? = some i.id ∧
      e = .moduleFatal i.identifier.display p.index error) ∨
    ∃ module, p.outcome = .panicked module ∧ e = .workerPanic 0 := by
  obtain ⟨last, ahead, stands, due⟩ := orderly
  cases outcome : p.outcome with
  | completed => simp [outcome, EventOutcome.error?] at ended
  | skipped module error => simp [outcome, EventOutcome.error?] at ended
  | failed f =>
    rw [outcome] at due ended
    obtain ⟨i, rfl, unskipped, same⟩ := due
    obtain ⟨past, split, _, member⟩ := stands.behind
    refine .inl ⟨i, ?_, f.error, unskipped, congrArg _ same, stands.latest, ?_⟩
    · rw [split]
      exact List.mem_append_left _ (member i rfl)
    · rw [← Option.some.inj ended, same]
  | panicked module =>
    rw [outcome] at ended
    exact .inr ⟨module, rfl, (Option.some.inj ended).symm⟩

end Processed

namespace Simulation

variable [Inhabited σ]

open Machine

/-- A run with a single worker is the loop over its events, however its steps are scheduled. The
loop takes the events in order; only the last can have ended it, by an error that is no skip or by a
panic. Both counters count the events before that one, all of them if there is none. The error of
the run names the event and the module that returned it, or the worker that panicked, which is the
first. Nothing is run on a later event. -/
theorem single_worker_runs_in_sequence (s : Simulation σ ω) (single : s.workers = 1) :
    s.run = s.runInSequence ∧
    (∀ schedule,
      let m := (start s.plan s.workers).follow s.plan schedule
      m.isOver = true → s.conclude m = s.runInSequence) ∧
    let a := s.plan.sequential
    let events := a.processed.reverse
    events.map (·.index) = (List.range events.length).map UInt64.ofNat ∧
    events.length ≤ s.settings.events.toNat ∧
    (∀ p ∈ events.dropLast, p.outcome.endsRun = false) ∧
    a.completed.toNat = events.countP (·.outcome.isCompleted) ∧
    a.skipped.toNat = events.countP (·.outcome.isSkipped) ∧
    (a.error.isSome = true ↔ ∃ p ∈ events, p.outcome.endsRun = true) ∧
    (a.error = none → a.completed.toNat + a.skipped.toNat = s.settings.events.toNat) ∧
    (∀ e, a.error = some e → ∃ p, events.getLast? = some p ∧
      a.completed.toNat + a.skipped.toNat = p.index.toNat ∧
      ((∃ i ∈ s.modules, ∃ error, error.isSkip = false ∧
          p.outcome = .failed ⟨p.index, i.id, i.identifier.display, error⟩ ∧
          p.state.entered.getLast? = some i.id ∧
          e = .moduleFatal i.identifier.display p.index error) ∨
        ∃ module, p.outcome = .panicked module ∧ e = .workerPanic 0)) ∧
    ∀ call ∈ a.commons.calls, ∃ p ∈ events, ∃ module, call = .run p.index module := by
  refine ⟨?_, ?_, ?_⟩
  · obtain ⟨schedule, same, atEnd⟩ := exists_complete s.plan 1
    rw [run, single, same]
    exact s.conclude_eq_runInSequence single (progress_of_isOver s.plan schedule atEnd)
  · intro schedule m atEnd
    refine s.conclude_eq_runInSequence single ?_
    simp only [m, single] at atEnd ⊢
    exact progress_of_isOver s.plan schedule atEnd
  · intro a events
    have advances : (Progress.start s.plan).Advances s.settings.events.toNat 0 a events :=
      s.plan.sequential_advances
    obtain ⟨orderly, perm⟩ := s.plan.sequential_orderly
    have inRange := s.settings.events.toNat_lt
    have most := advances.most
    have indices : events.map (·.index) = (List.range events.length).map UInt64.ofNat := by
      rw [advances.indices, List.range_eq_range']
      rfl
    have counter {n : Nat} (few : n ≤ events.length) : (0 + UInt64.ofNat n).toNat = n := by
      rw [UInt64.zero_add]
      exact UInt64.toNat_ofNat_of_lt' (show n < 2 ^ 64 by omega)
    have completed : a.completed.toNat = events.countP (·.outcome.isCompleted) :=
      (congrArg UInt64.toNat advances.completed).trans (counter List.countP_le_length)
    have skipped : a.skipped.toNat = events.countP (·.outcome.isSkipped) :=
      (congrArg UInt64.toNat advances.skipped).trans (counter List.countP_le_length)
    have account := length_eq_countP events
    rw [advances.countP_endsRun, ← completed, ← skipped] at account
    refine ⟨indices, most, advances.onwards, completed, skipped, ?_, ?_, ?_, ?_⟩
    · refine Iff.trans ?_ List.countP_pos_iff
      rw [advances.countP_endsRun]
      split <;> simp [*]
    · intro unended
      rw [unended, Option.isSome_none, if_neg Bool.false_ne_true] at account
      exact account.symm.trans (advances.all unended)
    · intro e ended
      rw [ended, Option.isSome_some, if_pos rfl] at account
      have error := advances.error
      rw [ended] at error
      obtain ⟨p, found, due⟩ := Option.bind_eq_some_iff.mp error.symm
      refine ⟨p, found, ?_, (orderly p ?_).error_eq due⟩
      · have index := advances.index_last (by simpa using inRange) found
        simp only [UInt64.toNat_zero] at index
        omega
      · exact List.mem_reverse.mp (List.mem_of_getLast? found)
    · intro call member
      obtain ⟨p, present, ran⟩ := List.mem_flatMap.mp (perm.mem_iff.mp member)
      obtain ⟨module, _, rfl⟩ := List.mem_map.mp ran
      exact ⟨p, List.mem_reverse.mpr present, module, rfl⟩

/-- One worker and a module that skips the second of five events and ends the fourth as given. -/
private def stumbling (ending : EventProgram Unit Unit Unit) : Simulation Unit Unit where
  modules := [⟨0, ⟨"stumbling", .global⟩, .new "stumbling" none, [], true,
    { memory := ()
      run := fun view =>
        if view.index = 1 then EventProgram.fail (.skip "later")
        else if view.index = 3 then ending
        else pure ()
      finalize := fun _ => pure () }⟩]
  table := .empty
  geometry := .empty
  globals := .new "Pixsim" none
  settings := ⟨5, 1, 0, true⟩
  workers := 1

/-- The fourth event ends the run, by an error or by a panic; the fifth is not processed. -/
theorem fourth_event_ends_the_sequence :
    let fatal := stumbling (EventProgram.fail (.fatal "no"))
    let panic := stumbling .panic
    let m := (start fatal.plan 1).follow fatal.plan (List.replicate 23 0)
    (fatal.workers = 1 ∧ fatal.run = fatal.runInSequence ∧ m.isOver = true ∧
      fatal.conclude m = fatal.runInSequence ∧
      fatal.plan.sequential.error = some (.moduleFatal "stumbling" 3 (.fatal "no")) ∧
      fatal.plan.sequential.completed.toNat + fatal.plan.sequential.skipped.toNat = 3) ∧
      panic.workers = 1 ∧ panic.run = panic.runInSequence ∧
        panic.plan.sequential.error = some (.workerPanic 0) ∧
        panic.plan.sequential.completed.toNat + panic.plan.sequential.skipped.toNat = 3 := by
  intro fatal panic m
  have single : fatal.workers = 1 := rfl
  have single' : panic.workers = 1 := rfl
  obtain ⟨run, conclude, _, _, _, _, _, _, _, ended, _⟩ :=
    single_worker_runs_in_sequence fatal single
  obtain ⟨run', _, _, _, _, _, _, _, _, ended', _⟩ := single_worker_runs_in_sequence panic single'
  have atEnd : m.isOver = true := by decide
  have error : fatal.plan.sequential.error = some (.moduleFatal "stumbling" 3 (.fatal "no")) := rfl
  have error' : panic.plan.sequential.error = some (.workerPanic 0) := rfl
  obtain ⟨p, last, before, _⟩ := ended _ error
  obtain ⟨p', last', before', _⟩ := ended' _ error'
  have third : fatal.plan.sequential.processed.head?.map (·.index) = some 3 := rfl
  have third' : panic.plan.sequential.processed.head?.map (·.index) = some 3 := rfl
  rw [List.getLast?_reverse] at last last'
  rw [last, Option.map_some, Option.some.injEq] at third
  rw [last', Option.map_some, Option.some.injEq] at third'
  rw [third] at before
  rw [third'] at before'
  have concluded := conclude (List.replicate 23 0) atEnd
  exact ⟨⟨single, run, atEnd, concluded, error, before⟩, single', run', error', before'⟩

end Simulation

end DetectorSim
