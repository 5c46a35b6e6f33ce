import DetectorSim.Proofs.Run.Stops

/-! What the counters of a run count. An event is counted by its worker after it is processed, so
the counters lag behind by the workers that are about to count, and wrap. -/

namespace DetectorSim

/-- Whether an event went through all modules. -/
def EventOutcome.isCompleted : EventOutcome → Bool
  | .completed => true
  | _ => false

/-- Whether a module gave up on an event without ending the run. -/
def EventOutcome.isSkipped : EventOutcome → Bool
  | .skipped .. => true
  | _ => false

namespace Machine

variable {σ ω : Type}

/-- The number of workers that are about to count an outcome of a kind. -/
def closingCount (m : Machine σ ω) (kind : EventOutcome → Bool) : Nat :=
  m.workers.countP (·.phase.closing?.any kind)

/-- The number of events processed with an outcome of a kind. -/
def processedCount (m : Machine σ ω) (kind : EventOutcome → Bool) : Nat :=
  m.processed.countP (kind ·.outcome)

/-- A counter holds the number of events processed with an outcome of a kind, but for those that
workers are about to count. -/
def Tallies (m : Machine σ ω) (kind : EventOutcome → Bool) (counter : UInt64) : Prop :=
  ∃ counted, counter = UInt64.ofNat counted ∧
    counted + m.closingCount kind = m.processedCount kind

namespace Tallies

variable {m after : Machine σ ω} {id : Nat} {worker changed : Worker σ ω}
  {kind : EventOutcome → Bool} {counter : UInt64}

/-- A worker that does not count keeps a tally if it is about to count the event that it adds. -/
theorem keep (valid : m.Tallies kind counter) (found : m.workers[id]? = some worker)
    (workers : after.workers = m.workers.set id changed)
    (balance : m.processedCount kind + (if changed.phase.closing?.any kind then 1 else 0) =
      after.processedCount kind + (if worker.phase.closing?.any kind then 1 else 0)) :
    after.Tallies kind counter := by
  obtain ⟨counted, same, tally⟩ := valid
  have count : after.closingCount kind + _ = m.closingCount kind + _ :=
    countP_put (·.phase.closing?.any kind) found workers
  exact ⟨counted, same, by omega⟩

theorem add (valid : m.Tallies kind counter) (found : m.workers[id]? = some worker)
    (workers : after.workers = m.workers.set id changed)
    (processed : after.processed = m.processed)
    (counts : worker.phase.closing?.any kind = true)
    (counted : changed.phase.closing?.any kind = false) :
    after.Tallies kind (counter + 1) := by
  obtain ⟨earlier, same, tally⟩ := valid
  have count : after.closingCount kind + _ = m.closingCount kind + _ :=
    countP_put (·.phase.closing?.any kind) found workers
  simp only [counts, counted, if_true, Bool.false_eq_true, if_false] at count
  refine ⟨earlier + 1, ?_, ?_⟩
  · rw [same, UInt64.ofNat_add]
    rfl
  · rw [processedCount, processed, ← processedCount]
    omega

end Tallies

structure CountInvariant (m : Machine σ ω) : Prop where
  completed : m.Tallies EventOutcome.isCompleted m.completed
  skipped : m.Tallies EventOutcome.isSkipped m.skipped

theorem countInvariant_start (plan : RunPlan σ ω) (workers : Nat) :
    CountInvariant (start plan workers) := by
  have none (kind : EventOutcome → Bool) : (start plan workers).closingCount kind = 0 := by
    refine List.countP_eq_zero.mpr (forall_workers_start ?_ workers)
    simp [Phase.closing?]
  exact ⟨⟨0, rfl, by rw [none]; rfl⟩, ⟨0, rfl, by rw [none]; rfl⟩⟩

variable [Inhabited σ]

theorem CountInvariant.move {plan : RunPlan σ ω} {m after : Machine σ ω} {id : Nat}
    (valid : CountInvariant m) (move : Move plan m id after) : CountInvariant after := by
  obtain ⟨completed, skipped⟩ := valid
  cases move with
  | rest atEnd => exact ⟨completed, skipped⟩
  | heed found stopped => exact ⟨completed.keep found rfl rfl, skipped.keep found rfl rfl⟩
  | pass found running => exact ⟨completed.keep found rfl rfl, skipped.keep found rfl rfl⟩
  | claim found left => exact ⟨completed.keep found rfl rfl, skipped.keep found rfl rfl⟩
  | exhaust found none => exact ⟨completed.keep found rfl rfl, skipped.keep found rfl rfl⟩
  | answer found answered => exact ⟨completed.keep found rfl rfl, skipped.keep found rfl rfl⟩
  | @finish _ index outcome state found =>
    have grown (kind : EventOutcome → Bool) :
        m.processedCount kind + (if kind outcome then 1 else 0) =
          ((⟨id, index, outcome, state⟩ : Processed ω) :: m.processed).countP (kind ·.outcome) := by
      rw [List.countP_cons, processedCount]
    exact ⟨completed.keep found rfl (grown _), skipped.keep found rfl (grown _)⟩
  | complete found => exact ⟨completed.add found rfl rfl rfl rfl, skipped.keep found rfl rfl⟩
  | skip found => exact ⟨completed.keep found rfl rfl, skipped.add found rfl rfl rfl rfl⟩
  | fail found reported => exact ⟨completed.keep found rfl rfl, skipped.keep found rfl rfl⟩
  | store found => exact ⟨completed.keep found rfl rfl, skipped.keep found rfl rfl⟩
  | panic found => exact ⟨completed.keep found rfl rfl, skipped.keep found rfl rfl⟩

theorem countInvariant_follow (plan : RunPlan σ ω) (workers : Nat) (schedule : List Nat) :
    CountInvariant ((start plan workers).follow plan schedule) :=
  follow_keeps CountInvariant CountInvariant.move schedule (countInvariant_start plan workers)

omit [Inhabited σ] in
theorem closingCount_of_isOver {m : Machine σ ω} (atEnd : m.isOver = true)
    (kind : EventOutcome → Bool) : m.closingCount kind = 0 := by
  refine List.countP_eq_zero.mpr fun worker member => ?_
  have ended := List.all_eq_true.mp atEnd worker member
  obtain ⟨buffer, phase⟩ := worker
  cases phase <;> simp [Phase.closing?, Phase.isOver] at ended ⊢

/-- When all workers are at their end, the counters hold the numbers of events that were completed
and skipped, as far as they can be held. -/
theorem counters_of_isOver (plan : RunPlan σ ω) (workers : Nat) (schedule : List Nat)
    (atEnd : ((start plan workers).follow plan schedule).isOver = true) :
    let m := (start plan workers).follow plan schedule
    m.completed = UInt64.ofNat (m.processedCount EventOutcome.isCompleted) ∧
      m.skipped = UInt64.ofNat (m.processedCount EventOutcome.isSkipped) := by
  intro m
  obtain ⟨⟨completed, same, tally⟩, ⟨skipped, alike, score⟩⟩ :=
    countInvariant_follow plan workers schedule
  rw [closingCount_of_isOver atEnd, Nat.add_zero] at tally score
  exact ⟨same.trans (congrArg _ tally), alike.trans (congrArg _ score)⟩

end Machine

end DetectorSim
