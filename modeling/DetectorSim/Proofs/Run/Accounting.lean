import DetectorSim.Proofs.Run.Claims
import DetectorSim.Proofs.Run.Counts
import DetectorSim.Run.Simulation

/-! The account of a run. Each event is completed, skipped, ended in an error or a panic, or was
never claimed; the summary holds the first two numbers, and tells whether there is any of the next
two. -/

namespace DetectorSim

/-- Whether an event ended in an error that ends the run. -/
def EventOutcome.isFailed : EventOutcome → Bool
  | .failed _ => true
  | _ => false

/-- Whether the worker of an event panicked. -/
def EventOutcome.isPanicked : EventOutcome → Bool
  | .panicked _ => true
  | _ => false

/-- Whether a worker has yet to store a failure. -/
def Phase.isFailing {σ ω : Type} : Phase σ ω → Bool
  | .closing outcome => outcome.isFailed
  | .storing _ => true
  | _ => false

/-- Whether a worker panics or has panicked. -/
def Phase.isPanicking {σ ω : Type} : Phase σ ω → Bool
  | .closing outcome => outcome.isPanicked
  | .panicked => true
  | _ => false

namespace Machine

variable {σ ω : Type}

/-- An event was processed with an outcome of a kind just if the run is marked by it, or some worker
still stands in a phase that the kind leads to. -/
def Shows (m : Machine σ ω) (kind : EventOutcome → Bool) (marked : Bool)
    (pending : Phase σ ω → Bool) : Prop :=
  m.processed.any (kind ·.outcome) = (marked || m.workers.any (pending ·.phase))

/-- A step keeps an account if it adds to the marks and phases what it adds to the events. -/
theorem Shows.put {m after : Machine σ ω} {id : Nat} {worker changed : Worker σ ω}
    {kind : EventOutcome → Bool} {marked marked' : Bool} {pending : Phase σ ω → Bool}
    (valid : m.Shows kind marked pending) (new : Bool) (found : m.workers[id]? = some worker)
    (workers : after.workers = m.workers.set id changed)
    (processed : after.processed.any (kind ·.outcome) =
      (new || m.processed.any (kind ·.outcome)))
    (balance : (marked' || pending changed.phase) = (new || (marked || pending worker.phase))) :
    after.Shows kind marked' pending := by
  have before := (workers_perm found).any_eq (f := (pending ·.phase))
  have behind := (put_workers_perm found changed).any_eq (f := (pending ·.phase))
  rw [List.any_cons] at before behind
  rw [Shows, processed, valid, workers, before, behind]
  calc (new || (marked || (pending worker.phase || (m.others id).any (pending ·.phase))))
    _ = ((new || (marked || pending worker.phase)) || (m.others id).any (pending ·.phase)) := by
      simp only [Bool.or_assoc]
    _ = (marked' || (pending changed.phase || (m.others id).any (pending ·.phase))) := by
      rw [← balance, Bool.or_assoc]

/-- Errors show as stored failures and panics as panicked workers, but for what is on its way. -/
structure FaultInvariant (m : Machine σ ω) : Prop where
  failed : m.Shows EventOutcome.isFailed m.failure.isSome Phase.isFailing
  panicked : m.Shows EventOutcome.isPanicked false Phase.isPanicking

theorem faultInvariant_start (plan : RunPlan σ ω) (workers : Nat) :
    FaultInvariant (start plan workers) := by
  have none {pending : Phase σ ω → Bool} (ready : pending .ready = false) :
      (start plan workers).workers.any (pending ·.phase) = false := by
    refine List.any_eq_false.mpr (forall_workers_start ?_ workers)
    simp [ready]
  constructor
  · simpa [Shows, start] using none rfl
  · simpa [Shows, start] using none rfl

variable [Inhabited σ] {plan : RunPlan σ ω} {m after : Machine σ ω} {id : Nat}

namespace FaultInvariant

omit [Inhabited σ] in
private theorem quiet {worker changed : Worker σ ω} (valid : FaultInvariant m)
    (found : m.workers[id]? = some worker) (workers : after.workers = m.workers.set id changed)
    (processed : after.processed = m.processed) (failure : after.failure = m.failure)
    (failing : changed.phase.isFailing = worker.phase.isFailing)
    (panicking : changed.phase.isPanicking = worker.phase.isPanicking) : FaultInvariant after := by
  constructor
  · refine valid.failed.put false found workers ?_ ?_
    · rw [processed, Bool.false_or]
    · rw [failure, failing, Bool.false_or]
  · refine valid.panicked.put false found workers ?_ ?_
    · rw [processed, Bool.false_or]
    · rw [panicking, Bool.false_or, Bool.false_or]

theorem move (valid : FaultInvariant m) (move : Move plan m id after) : FaultInvariant after := by
  cases move with
  | rest atEnd => exact valid
  | heed found stopped => exact valid.quiet found rfl rfl rfl rfl rfl
  | pass found running => exact valid.quiet found rfl rfl rfl rfl rfl
  | claim found left => exact valid.quiet found rfl rfl rfl rfl rfl
  | exhaust found none => exact valid.quiet found rfl rfl rfl rfl rfl
  | answer found answered => exact valid.quiet found rfl rfl rfl rfl rfl
  | @finish _ _ outcome _ found =>
    constructor
    · refine valid.failed.put outcome.isFailed found rfl rfl ?_
      cases m.failure <;> cases outcome <;> rfl
    · refine valid.panicked.put outcome.isPanicked found rfl rfl ?_
      cases outcome <;> rfl
  | complete found => exact valid.quiet found rfl rfl rfl rfl rfl
  | skip found => exact valid.quiet found rfl rfl rfl rfl rfl
  | fail found reported => exact valid.quiet found rfl rfl rfl rfl rfl
  | store found =>
    constructor
    · refine valid.failed.put false found rfl rfl ?_
      cases m.failure <;> rfl
    · exact valid.panicked.put false found rfl rfl rfl
  | panic found => exact valid.quiet found rfl rfl rfl rfl rfl

end FaultInvariant

theorem faultInvariant_follow (plan : RunPlan σ ω) (workers : Nat) (schedule : List Nat) :
    FaultInvariant ((start plan workers).follow plan schedule) :=
  follow_keeps FaultInvariant FaultInvariant.move schedule (faultInvariant_start plan workers)

section Over

omit [Inhabited σ]

/-- When all workers are at their end, a failure is stored just if an event ended in an error. -/
theorem FaultInvariant.failure_isSome (valid : FaultInvariant m) (atEnd : m.isOver = true) :
    m.failure.isSome = m.processed.any (·.outcome.isFailed) := by
  have none : m.workers.any (·.phase.isFailing) = false := by
    refine List.any_eq_false.mpr fun worker member => ?_
    have ended := List.all_eq_true.mp atEnd worker member
    cases same : worker.phase <;> simp_all [Phase.isOver, Phase.isFailing]
  have failed := valid.failed
  rw [Shows, none, Bool.or_false] at failed
  exact failed.symm

/-- When all workers are at their end, one of them panicked just if an event ended so. -/
theorem FaultInvariant.panickedWorker_isSome (valid : FaultInvariant m) (atEnd : m.isOver = true) :
    m.panickedWorker.isSome = m.processed.any (·.outcome.isPanicked) := by
  have panicked := valid.panicked
  rw [Shows, Bool.false_or] at panicked
  rw [panicked, panickedWorker, List.findIdx?_isSome, Bool.eq_iff_iff, List.any_eq_true,
    List.any_eq_true]
  refine exists_congr fun worker => and_congr_right fun member => ?_
  have ended := List.all_eq_true.mp atEnd worker member
  cases same : worker.phase <;> simp_all [Phase.isOver, Phase.isPanicking]

end Over

omit [Inhabited σ] in
theorem length_processed (m : Machine σ ω) :
    m.processed.length = m.processedCount EventOutcome.isCompleted +
      m.processedCount EventOutcome.isSkipped + m.processedCount EventOutcome.isFailed +
      m.processedCount EventOutcome.isPanicked := by
  simp only [processedCount]
  induction m.processed with
  | nil => rfl
  | cons p rest ih =>
    simp only [List.length_cons, List.countP_cons, ih]
    cases p.outcome <;> simp [EventOutcome.isCompleted, EventOutcome.isSkipped,
      EventOutcome.isFailed, EventOutcome.isPanicked] <;> omega

omit [Inhabited σ] in
theorem processedCount_pos (m : Machine σ ω) (kind : EventOutcome → Bool) :
    0 < m.processedCount kind ↔ m.processed.any (kind ·.outcome) = true := by
  rw [processedCount, List.countP_pos_iff, List.any_eq_true]

omit [Inhabited σ] in
theorem hasFault_iff (m : Machine σ ω) :
    m.hasFault = true ↔ 0 < m.processedCount EventOutcome.isFailed ∨
      0 < m.processedCount EventOutcome.isPanicked := by
  simp only [processedCount_pos, hasFault, List.any_eq_true, ← exists_or, ← and_or_left]
  refine exists_congr fun p => and_congr_right fun _ => ?_
  cases p.outcome <;>
    simp [EventOutcome.endsRun, EventOutcome.isFailed, EventOutcome.isPanicked]

/-- The number of events of a run that are not among those claimed. -/
def unclaimed (plan : RunPlan σ ω) (claimed : List UInt64) : Nat :=
  ((List.range plan.events.toNat).map UInt64.ofNat).countP fun index => index ∉ claimed

omit [Inhabited σ] in
theorem unclaimed_initialSegment (plan : RunPlan σ ω) {size : Nat}
    (most : size ≤ plan.events.toNat) :
    size + unclaimed plan ((List.range size).map UInt64.ofNat) = plan.events.toNat := by
  have inRange := plan.events.toNat_lt
  obtain ⟨more, split⟩ := Nat.exists_eq_add_of_le most
  rw [unclaimed, split, List.range_add, List.map_append, List.countP_append]
  have first : ((List.range size).map UInt64.ofNat).countP
      (fun index => index ∉ (List.range size).map UInt64.ofNat) = 0 := by
    refine List.countP_eq_zero.mpr fun index member => ?_
    simpa using member
  have last : (((List.range more).map (size + ·)).map UInt64.ofNat).countP
      (fun index => index ∉ (List.range size).map UInt64.ofNat) = more := by
    refine (List.countP_eq_length.mpr fun index member => ?_).trans (by simp)
    obtain ⟨n, present, rfl⟩ := List.mem_map.mp member
    obtain ⟨k, below, rfl⟩ := List.mem_map.mp present
    have within := List.mem_range.mp below
    have value : (UInt64.ofNat (size + k)).toNat = size + k :=
      UInt64.toNat_ofNat_of_lt' (show size + k < 2 ^ 64 by omega)
    have outside : UInt64.ofNat (size + k) ∉ (List.range size).map UInt64.ofNat := by
      rw [mem_initialSegment (by omega), value]
      omega
    exact decide_eq_true outside
  rw [first, last]
  omega

theorem unclaimed_of_faultless (plan : RunPlan σ ω) {workers : Nat} (nonempty : 0 < workers)
    (schedule : List Nat) (atEnd : ((start plan workers).follow plan schedule).isOver = true)
    (faultless : ((start plan workers).follow plan schedule).hasFault = false) :
    unclaimed plan ((start plan workers).claims plan schedule) = 0 := by
  obtain ⟨attempts, valid⟩ := claimInvariant_follow plan workers schedule
  refine List.countP_eq_zero.mpr fun index member => ?_
  have within := (mem_initialSegment (Nat.le_of_lt plan.events.toNat_lt) index).mp member
  have done := mem_finished plan nonempty schedule atEnd faultless within
  simpa using valid.held.mem_iff.mp (List.mem_append_right _ done)

end Machine

namespace Simulation

variable {σ ω : Type} [Inhabited σ]

open Machine

/-- Each event of a run is accounted for. When all workers are at their end, every requested event
was completed, skipped, ended in an error or in a panic, or was never claimed; the run failed just
if there are any of the third and fourth kind; if it did not, every event was completed or skipped.
The sum of the two counters does not wrap and is never above the number of requested events, so what
it leaves of them is the number of the other events. -/
theorem run_accounts_for_all_events (s : Simulation σ ω)
    (room : s.settings.events.toNat + s.workers ≤ 2 ^ 64) (schedule : List Nat) :
    let m := (start s.plan s.workers).follow s.plan schedule
    let summary := s.summary m
    let failed := m.processedCount EventOutcome.isFailed
    let panicked := m.processedCount EventOutcome.isPanicked
    let never := unclaimed s.plan ((start s.plan s.workers).claims s.plan schedule)
    m.isOver = true →
      summary.requested.toNat =
        summary.completed.toNat + summary.skipped.toNat + failed + panicked + never ∧
      (summary.failed = true ↔ 0 < failed ∨ 0 < panicked) ∧
      (0 < s.workers → summary.failed = false →
        summary.completed + summary.skipped = summary.requested) ∧
      (summary.completed + summary.skipped).toNat =
        summary.completed.toNat + summary.skipped.toNat ∧
      summary.completed + summary.skipped ≤ summary.requested ∧
      summary.unprocessed.toNat = failed + panicked + never := by
  intro m summary failed panicked never atEnd
  obtain ⟨size, most, claimed⟩ := claims_eq s.plan room schedule
  obtain ⟨attempts, valid⟩ := claimInvariant_follow s.plan s.workers schedule
  have faults := faultInvariant_follow s.plan s.workers schedule
  have requested : summary.requested.toNat = size + never := by
    have split := unclaimed_initialSegment s.plan most
    rw [← claimed] at split
    exact split.symm
  have outcomes : size = m.processedCount EventOutcome.isCompleted +
      m.processedCount EventOutcome.isSkipped + failed + panicked := by
    have held := valid.held.length_eq
    rw [inFlight_of_isOver atEnd, claimed, List.length_map, List.length_range] at held
    rw [← length_processed, ← held]
    simp [finished, m]
  have inRange := summary.requested.toNat_lt
  obtain ⟨completed, skipped⟩ := counters_of_isOver s.plan s.workers schedule atEnd
  have completed : summary.completed.toNat = m.processedCount EventOutcome.isCompleted := by
    rw [show summary.completed = _ from completed]
    exact UInt64.toNat_ofNat_of_lt' (show m.processedCount _ < 2 ^ 64 by omega)
  have skipped : summary.skipped.toNat = m.processedCount EventOutcome.isSkipped := by
    rw [show summary.skipped = _ from skipped]
    exact UInt64.toNat_ofNat_of_lt' (show m.processedCount _ < 2 ^ 64 by omega)
  have account : summary.requested.toNat =
      summary.completed.toNat + summary.skipped.toNat + failed + panicked + never := by
    omega
  have sum : (summary.completed + summary.skipped).toNat =
      summary.completed.toNat + summary.skipped.toNat := by
    rw [UInt64.toNat_add]
    exact Nat.mod_eq_of_lt (by omega)
  have within : summary.completed + summary.skipped ≤ summary.requested := by
    rw [UInt64.le_iff_toNat_le]
    omega
  have fault : summary.failed = true ↔ 0 < failed ∨ 0 < panicked := by
    rw [processedCount_pos, processedCount_pos, ← faults.failure_isSome atEnd,
      ← faults.panickedWorker_isSome atEnd, ← Bool.or_eq_true]
    rfl
  refine ⟨account, fault, ?_, sum, within, ?_⟩
  · intro nonempty unfailed
    have none : ¬(0 < failed ∨ 0 < panicked) := by
      rw [← fault, unfailed]
      exact Bool.false_ne_true
    have faultless : m.hasFault = false := by
      rwa [← hasFault_iff, Bool.not_eq_true] at none
    have all : never = 0 := unclaimed_of_faultless s.plan nonempty schedule atEnd faultless
    rw [← UInt64.toNat_inj]
    omega
  · rw [RunSummary.unprocessed, if_pos within, UInt64.toNat_sub_of_le _ _ within]
    omega

/-- Two workers and a module that completes the first event, skips the second, refuses the third and
panics in the others. -/
private def assorted (events : UInt64) : Simulation Unit Unit where
  modules := [⟨0, ⟨"assorted", .global⟩, .new "assorted" none, [], true,
    { memory := ()
      run := fun view =>
        if view.index = 0 then pure ()
        else if view.index = 1 then EventProgram.fail (.skip "later")
        else if view.index = 2 then EventProgram.fail (.fatal "no")
        else .panic
      finalize := fun _ => pure () }⟩]
  table := .empty
  geometry := .empty
  globals := .new "Pixsim" none
  settings := ⟨events, 2, 0, true⟩
  workers := 2

/-- Of six events each outcome takes one and two are never claimed; of two events, none is lost. -/
theorem six_events_are_accounted_for :
    let s := assorted 6
    let schedule := (List.replicate 12 0 ++ [1, 1, 0]) ++ List.replicate 6 0 ++ List.replicate 6 1
    let m := (start s.plan 2).follow s.plan schedule
    let s' := assorted 2
    let m' := (start s'.plan 2).follow s'.plan (List.replicate 16 1 ++ [0, 0])
    (s.settings.events.toNat + s.workers ≤ 2 ^ 64 ∧ m.isOver = true ∧
      (s.summary m).unprocessed.toNat = 1 + 1 + 2 ∧ (s.summary m).failed = true) ∧
      (s'.settings.events.toNat + s'.workers ≤ 2 ^ 64 ∧ m'.isOver = true ∧ 0 < s'.workers ∧
        (s'.summary m').failed = false ∧
        (s'.summary m').completed + (s'.summary m').skipped = (s'.summary m').requested) := by
  intro s schedule m s' m'
  have room : s.settings.events.toNat + s.workers ≤ 2 ^ 64 := by decide
  have atEnd : m.isOver = true := by decide
  have account := run_accounts_for_all_events s room schedule atEnd
  have room' : s'.settings.events.toNat + s'.workers ≤ 2 ^ 64 := by decide
  have atEnd' : m'.isOver = true := by decide
  have nonempty : 0 < s'.workers := by decide
  have unfailed : (s'.summary m').failed = false := by decide
  have account' := run_accounts_for_all_events s' room' (List.replicate 16 1 ++ [0, 0]) atEnd'
  have lost : m.processedCount EventOutcome.isFailed + m.processedCount EventOutcome.isPanicked +
      unclaimed s.plan ((start s.plan 2).claims s.plan schedule) = 1 + 1 + 2 := by decide
  exact ⟨⟨room, atEnd, account.2.2.2.2.2.trans lost, account.2.1.mpr (.inl (by decide))⟩,
    room', atEnd', nonempty, unfailed, account'.2.2.1 nonempty unfailed⟩

end Simulation

end DetectorSim
