import DetectorSim.Proofs.Run.Moves

/-! Why a run stops. The stop flag is only set for an event that ended in an error or a panic,
and a worker that closes an event has already put it among the processed ones. -/

namespace DetectorSim

/-- Whether an outcome ends the run: an error of a module that is no skip, or a panic. -/
def EventOutcome.endsRun : EventOutcome → Bool
  | .completed | .skipped .. => false
  | .failed _ | .panicked _ => true

/-- The outcome of the event that a worker closes. -/
def Phase.closing? {σ ω : Type} : Phase σ ω → Option EventOutcome
  | .closing outcome => some outcome
  | _ => none

/-- Whether a worker stands behind an event that ended the run. -/
def Phase.hasFailed {σ ω : Type} : Phase σ ω → Bool
  | .storing _ | .panicked => true
  | _ => false

namespace Machine

variable {σ ω : Type}

/-- Whether some processed event ended in an error or a panic. -/
def hasFault (m : Machine σ ω) : Bool :=
  m.processed.any (·.outcome.endsRun)

/-- A worker that closes an event has its outcome among those processed; the flag is set before a
worker stands behind a failure; and it has a cause. -/
structure StopInvariant (m : Machine σ ω) : Prop where
  closing : ∀ worker ∈ m.workers, ∀ outcome, worker.phase.closing? = some outcome →
    ∃ p ∈ m.processed, p.outcome = outcome
  failing : ∀ worker ∈ m.workers, worker.phase.hasFailed = true → m.stopped = true
  cause : m.stopped = true → m.hasFault = true

theorem stopInvariant_start (plan : RunPlan σ ω) (workers : Nat) :
    StopInvariant (start plan workers) where
  closing := forall_workers_start (fun outcome same => by cases same) workers
  failing := forall_workers_start (fun failed => by cases failed) workers
  cause stopped := by cases stopped

namespace StopInvariant

private theorem put {m after : Machine σ ω} {id : Nat} {changed : Worker σ ω}
    (valid : StopInvariant m) (workers : after.workers = m.workers.set id changed)
    (processed : ∀ p ∈ m.processed, p ∈ after.processed)
    (stopped : m.stopped = true → after.stopped = true)
    (closing : ∀ outcome, changed.phase.closing? = some outcome →
      ∃ p ∈ after.processed, p.outcome = outcome)
    (failing : changed.phase.hasFailed = true → after.stopped = true)
    (cause : after.stopped = true → m.stopped = true ∨ after.hasFault = true) :
    StopInvariant after where
  closing := by
    refine forall_workers_put (fun worker member outcome same => ?_) workers closing
    obtain ⟨p, present, equal⟩ := valid.closing worker member outcome same
    exact ⟨p, processed p present, equal⟩
  failing := forall_workers_put
    (fun worker member failed => stopped (valid.failing worker member failed)) workers failing
  cause flag := by
    rcases cause flag with before | fault
    · obtain ⟨p, present, ends⟩ := List.any_eq_true.mp (valid.cause before)
      exact List.any_eq_true.mpr ⟨p, processed p present, ends⟩
    · exact fault

private theorem quiet {m after : Machine σ ω} {id : Nat} {changed : Worker σ ω}
    (valid : StopInvariant m) (workers : after.workers = m.workers.set id changed)
    (processed : after.processed = m.processed) (stopped : after.stopped = m.stopped)
    (unclosed : changed.phase.closing? = none)
    (sound : changed.phase.hasFailed = false) : StopInvariant after := by
  refine valid.put workers ?_ ?_ ?_ ?_ ?_
  · intro p present
    rwa [processed]
  · intro flag
    rwa [stopped]
  · intro outcome same
    rw [unclosed] at same
    cases same
  · intro failed
    rw [sound] at failed
    cases failed
  · intro flag
    rw [stopped] at flag
    exact .inl flag

variable [Inhabited σ]

theorem move {plan : RunPlan σ ω} {m after : Machine σ ω} {id : Nat} (valid : StopInvariant m)
    (move : Move plan m id after) : StopInvariant after := by
  -- the outcome that a worker closes is found among the processed events
  have fault {buffer : EventBuffer} {outcome : EventOutcome}
      (found : m.workers[id]? = some ⟨buffer, .closing outcome⟩) (ends : outcome.endsRun = true) :
      m.hasFault = true := by
    obtain ⟨p, present, same⟩ := valid.closing _ (List.mem_of_getElem? found) outcome rfl
    exact List.any_eq_true.mpr ⟨p, present, by simpa [same] using ends⟩
  cases move with
  | rest atEnd => exact valid
  | heed found stopped => exact valid.quiet rfl rfl rfl rfl rfl
  | pass found running => exact valid.quiet rfl rfl rfl rfl rfl
  | claim found left => exact valid.quiet rfl rfl rfl rfl rfl
  | exhaust found none => exact valid.quiet rfl rfl rfl rfl rfl
  | answer found answered => exact valid.quiet rfl rfl rfl rfl rfl
  | finish found =>
    refine valid.put rfl (fun _ present => List.mem_cons_of_mem _ present) (fun flag => flag) ?_
      (fun failed => ?_) .inl
    · intro closed same
      cases same
      exact ⟨_, List.mem_cons_self .., rfl⟩
    · cases failed
  | complete found => exact valid.quiet rfl rfl rfl rfl rfl
  | skip found => exact valid.quiet rfl rfl rfl rfl rfl
  | fail found reported =>
    exact valid.put rfl (fun _ present => present) (fun _ => rfl) (fun _ same => by cases same)
      (fun _ => rfl) (fun _ => .inr (fault found rfl))
  | store found => exact valid.quiet rfl rfl rfl rfl rfl
  | panic found =>
    exact valid.put rfl (fun _ present => present) (fun _ => rfl) (fun _ same => by cases same)
      (fun _ => rfl) (fun _ => .inr (fault found rfl))

end StopInvariant

variable [Inhabited σ]

theorem stopInvariant_follow (plan : RunPlan σ ω) (workers : Nat) (schedule : List Nat) :
    StopInvariant ((start plan workers).follow plan schedule) :=
  follow_keeps StopInvariant StopInvariant.move schedule (stopInvariant_start plan workers)

end Machine

end DetectorSim
