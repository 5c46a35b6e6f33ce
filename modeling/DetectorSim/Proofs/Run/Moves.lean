import DetectorSim.Run.Workers
import Mathlib.Data.List.Perm.Basic

/-! What one step of a worker does, stated once for all properties of runs. A step touches the
phase of its own worker only; everything that holds at the start and is kept by each move holds
in every state that a schedule reaches. -/

namespace DetectorSim.Machine

variable {σ ω : Type}

/-- The workers other than one. -/
def others (m : Machine σ ω) (id : Nat) : List (Worker σ ω) :=
  m.workers.eraseIdx id

theorem workers_perm {m : Machine σ ω} {id : Nat} {worker : Worker σ ω}
    (found : m.workers[id]? = some worker) : m.workers.Perm (worker :: m.others id) := by
  obtain ⟨within, same⟩ := List.getElem?_eq_some_iff.mp found
  rw [← same]
  exact (List.getElem_cons_eraseIdx_perm within).symm

theorem put_workers_perm {m : Machine σ ω} {id : Nat} {worker : Worker σ ω}
    (found : m.workers[id]? = some worker) (changed : Worker σ ω) :
    (m.workers.set id changed).Perm (changed :: m.others id) := by
  obtain ⟨within, _⟩ := List.getElem?_eq_some_iff.mp found
  exact List.set_perm_cons_eraseIdx within changed

/-- A worker in a new phase changes the number of workers of a kind by what it leaves and enters. -/
theorem countP_put (kind : Worker σ ω → Bool) {m after : Machine σ ω} {id : Nat}
    {worker changed : Worker σ ω} (found : m.workers[id]? = some worker)
    (workers : after.workers = m.workers.set id changed) :
    after.workers.countP kind + (if kind worker then 1 else 0) =
      m.workers.countP kind + (if kind changed then 1 else 0) := by
  have old := (workers_perm found).countP_eq kind
  have new := (put_workers_perm found changed).countP_eq kind
  rw [List.countP_cons] at old new
  rw [workers, old, new]
  omega

theorem forall_workers_put {holds : Worker σ ω → Prop} {m after : Machine σ ω} {id : Nat}
    {changed : Worker σ ω} (all : ∀ worker ∈ m.workers, holds worker)
    (workers : after.workers = m.workers.set id changed) (new : holds changed) :
    ∀ worker ∈ after.workers, holds worker := by
  intro worker member
  rw [workers] at member
  rcases List.mem_or_eq_of_mem_set member with old | rfl
  · exact all worker old
  · exact new

theorem forall_workers_start {holds : Worker σ ω → Prop} {plan : RunPlan σ ω}
    (ready : holds ⟨.new plan.table.size, .ready⟩) (workers : Nat) :
    ∀ worker ∈ (start plan workers).workers, holds worker := by
  intro worker member
  rw [List.eq_of_mem_replicate member]
  exact ready

variable [Inhabited σ]

/-- The step of a worker, by where the worker stands: `after` is the state of the run that the
step leads to. A worker at its end, or one that does not exist, rests. -/
inductive Move (plan : RunPlan σ ω) (m : Machine σ ω) (id : Nat) :
    (after : Machine σ ω) → Prop where
  | rest (atEnd : m.isOverAt id = true) : Move plan m id m
  | heed {buffer : EventBuffer} (found : m.workers[id]? = some ⟨buffer, .ready⟩)
      (stopped : m.stopped = true) : Move plan m id (m.put id ⟨buffer, .ended⟩)
  | pass {buffer : EventBuffer} (found : m.workers[id]? = some ⟨buffer, .ready⟩)
      (running : m.stopped = false) : Move plan m id (m.put id ⟨buffer, .cleared⟩)
  | claim {buffer : EventBuffer} (found : m.workers[id]? = some ⟨buffer, .cleared⟩)
      (left : m.next < plan.events) :
      Move plan m id (Machine.put { m with next := m.next + 1 } id
        ⟨buffer, .working m.next (.through m.next plan.modules) (.start buffer plan.seed m.next)⟩)
  | exhaust {buffer : EventBuffer} (found : m.workers[id]? = some ⟨buffer, .cleared⟩)
      (none : plan.events ≤ m.next) :
      Move plan m id (Machine.put { m with next := m.next + 1 } id ⟨buffer, .ended⟩)
  | answer {buffer : EventBuffer} {index : UInt64} {question : PassageQuestion σ ω}
      {next : question.Answer → Passage σ ω EventOutcome} {state : EventState ω}
      (found : m.workers[id]? = some ⟨buffer, .working index (.ask question next) state⟩)
      {reply : question.Answer × EventState ω × Commons σ}
      (answered : reply = Passage.answers plan.table plan.geometry question (state, m.commons)) :
      Move plan m id (Machine.put { m with commons := reply.2.2 } id
        ⟨buffer, .working index (next reply.1) reply.2.1⟩)
  | finish {buffer : EventBuffer} {index : UInt64} {outcome : EventOutcome} {state : EventState ω}
      (found : m.workers[id]? = some ⟨buffer, .working index (.done outcome) state⟩) :
      Move plan m id (Machine.put
        { m with processed := ⟨id, index, outcome, state⟩ :: m.processed } id
        ⟨state.buffer.clear, .closing outcome⟩)
  | complete {buffer : EventBuffer}
      (found : m.workers[id]? = some ⟨buffer, .closing .completed⟩) :
      Move plan m id (Machine.put { m with completed := m.completed + 1 } id ⟨buffer, .ready⟩)
  | skip {buffer : EventBuffer} {module : ModuleId} {error : ModuleError}
      (found : m.workers[id]? = some ⟨buffer, .closing (.skipped module error)⟩) :
      Move plan m id (Machine.put { m with skipped := m.skipped + 1 } id ⟨buffer, .ready⟩)
  | fail {buffer : EventBuffer} {failure : Failure} {commons : Commons σ}
      (found : m.workers[id]? = some ⟨buffer, .closing (.failed failure)⟩)
      (reported : commons = { m.commons with
        reports := .moduleFailed failure.error failure.event failure.name :: m.commons.reports }) :
      Move plan m id (Machine.put { m with stopped := true, commons := commons } id
        ⟨buffer, .storing failure⟩)
  | store {buffer : EventBuffer} {failure : Failure}
      (found : m.workers[id]? = some ⟨buffer, .storing failure⟩) :
      Move plan m id (Machine.put { m with failure := m.failure.or (some failure) } id
        ⟨buffer, .ended⟩)
  | panic {buffer : EventBuffer} {module : ModuleId}
      (found : m.workers[id]? = some ⟨buffer, .closing (.panicked module)⟩) :
      Move plan m id (Machine.put { m with stopped := true } id ⟨buffer, .panicked⟩)

theorem move_step (plan : RunPlan σ ω) (m : Machine σ ω) (id : Nat) :
    Move plan m id (m.step plan id) := by
  cases found : m.workers[id]? with
  | none =>
    have same : m.step plan id = m := by simp only [step, found]
    rw [same]
    exact .rest (by simp [isOverAt, found])
  | some worker =>
    obtain ⟨buffer, phase⟩ := worker
    simp only [step, found]
    match phase, found with
    | .ready, found =>
      by_cases stopped : m.stopped = true
      · simpa only [stopped, if_true] using .heed found stopped
      · have running : m.stopped = false := Bool.eq_false_iff.mpr stopped
        simpa only [running, Bool.false_eq_true, if_false] using .pass found running
    | .cleared, found =>
      by_cases left : m.next < plan.events
      · simpa only [Machine.claim, left, if_true] using .claim found left
      · have none : plan.events ≤ m.next := UInt64.not_lt.mp left
        simpa only [Machine.claim, left, if_false] using .exhaust found none
    | .working index (.ask question next) state, found => exact .answer found rfl
    | .working index (.done outcome) state, found => exact .finish found
    | .closing .completed, found => exact .complete found
    | .closing (.skipped module error), found => exact .skip found
    | .closing (.failed failure), found => exact .fail found rfl
    | .closing (.panicked module), found => exact .panic found
    | .storing failure, found => exact .store found
    | .ended, found => exact .rest (by simp [isOverAt, found, Phase.isOver])
    | .panicked, found => exact .rest (by simp [isOverAt, found, Phase.isOver])

@[simp] theorem follow_nil (plan : RunPlan σ ω) (m : Machine σ ω) : m.follow plan [] = m := rfl

@[simp] theorem follow_cons (plan : RunPlan σ ω) (m : Machine σ ω) (id : Nat) (rest : List Nat) :
    m.follow plan (id :: rest) = (m.step plan id).follow plan rest := rfl

/-- What every move keeps, every schedule keeps. -/
theorem follow_keeps {plan : RunPlan σ ω} (keeps : Machine σ ω → Prop)
    (move : ∀ {m id after}, keeps m → Move plan m id after → keeps after)
    (schedule : List Nat) {m : Machine σ ω} (start : keeps m) : keeps (m.follow plan schedule) := by
  induction schedule generalizing m with
  | nil => exact start
  | cons id rest ih => exact ih (move start (move_step plan m id))

theorem Move.length_workers {plan : RunPlan σ ω} {m after : Machine σ ω} {id : Nat}
    (move : Move plan m id after) : after.workers.length = m.workers.length := by
  cases move <;> first | rfl | exact List.length_set

theorem length_workers_from (plan : RunPlan σ ω) (m : Machine σ ω) (schedule : List Nat) :
    (m.follow plan schedule).workers.length = m.workers.length :=
  follow_keeps (fun after => after.workers.length = m.workers.length)
    (fun same move => move.length_workers.trans same) schedule rfl

theorem length_workers_follow (plan : RunPlan σ ω) (workers : Nat) (schedule : List Nat) :
    ((start plan workers).follow plan schedule).workers.length = workers :=
  (length_workers_from plan _ schedule).trans List.length_replicate

end DetectorSim.Machine
