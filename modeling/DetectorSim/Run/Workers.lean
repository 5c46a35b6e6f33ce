import DetectorSim.Run.Event

/-!
Workers that share the events of a run. A worker loads the stop flag, claims the
next event, takes it through the modules and counts its outcome, one step at a time;
a schedule says which worker takes the next step, so schedules are interleavings.
-/

namespace DetectorSim

/-- What a run works on and never changes. -/
structure RunPlan (σ ω : Type) where
  modules : List (ReadyModule σ ω)
  table : SubscriptionTable ω
  geometry : Geometry
  events : UInt64
  seed : UInt64

/-- Where a worker stands: before loading the stop flag, after finding it unset, inside an event,
before counting an outcome, before storing a failure, or at its end. -/
inductive Phase (σ ω : Type) where
  | ready
  | cleared
  | working (index : UInt64) (rest : Passage σ ω EventOutcome) (state : EventState ω)
  | closing (outcome : EventOutcome)
  | storing (failure : Failure)
  | ended
  | panicked

/-- Whether a worker takes no more steps. -/
def Phase.isOver {σ ω : Type} : Phase σ ω → Bool
  | .ended | .panicked => true
  | _ => false

/-- The event that a worker is inside of. -/
def Phase.inside? {σ ω : Type} : Phase σ ω → Option UInt64
  | .working index .. => some index
  | _ => none

/-- A worker. Its buffer serves one event after the other. -/
structure Worker (σ ω : Type) where
  buffer : EventBuffer
  phase : Phase σ ω

/-- An event that a worker took to its end. -/
structure Processed (ω : Type) where
  worker : Nat
  index : UInt64
  outcome : EventOutcome
  state : EventState ω

/-- The state of a run: the workers, the claim counter, the stop flag, the counters, the first
failure stored, what modules share, and the events processed so far, the latest first. -/
structure Machine (σ ω : Type) where
  workers : List (Worker σ ω)
  next : UInt64
  stopped : Bool
  completed : UInt64
  skipped : UInt64
  failure : Option Failure
  commons : Commons σ
  processed : List (Processed ω)

namespace Machine

variable {σ ω : Type}

/-- The state before any step. -/
def start (plan : RunPlan σ ω) (workers : Nat) : Machine σ ω where
  workers := List.replicate workers ⟨.new plan.table.size, .ready⟩
  next := 0
  stopped := false
  completed := 0
  skipped := 0
  failure := none
  commons := ⟨plan.modules.map (·.body.memory), [], [], []⟩
  processed := []

/-- Puts a worker in a phase. -/
def put (m : Machine σ ω) (id : Nat) (worker : Worker σ ω) : Machine σ ω :=
  { m with workers := m.workers.set id worker }

/-- Whether no worker takes any more steps. -/
def isOver (m : Machine σ ω) : Bool :=
  m.workers.all (·.phase.isOver)

/-- The first worker that panicked. -/
def panickedWorker (m : Machine σ ω) : Option Nat :=
  m.workers.findIdx? fun worker => match worker.phase with
    | .panicked => true
    | _ => false

/-- Claims the next event for a worker, if there is one. The counter advances in any case. -/
def claim (plan : RunPlan σ ω) (m : Machine σ ω) (id : Nat) (buffer : EventBuffer) :
    Machine σ ω :=
  let phase : Phase σ ω :=
    if m.next < plan.events then
      .working m.next (.through m.next plan.modules) (.start buffer plan.seed m.next)
    else .ended
  { m with next := m.next + 1 }.put id ⟨buffer, phase⟩

/-- Counts the outcome of a worker's event. -/
def close (m : Machine σ ω) (id : Nat) (buffer : EventBuffer) : EventOutcome → Machine σ ω
  | .completed => { m with completed := m.completed + 1 }.put id ⟨buffer, .ready⟩
  | .skipped .. => { m with skipped := m.skipped + 1 }.put id ⟨buffer, .ready⟩
  | .failed failure =>
    let report : Report := .moduleFailed failure.error failure.event failure.name
    { m with
      stopped := true
      commons := { m.commons with reports := report :: m.commons.reports } }.put id
        ⟨buffer, .storing failure⟩
  | .panicked _ => { m with stopped := true }.put id ⟨buffer, .panicked⟩

variable [Inhabited σ]

/-- The next step of a worker. -/
def step (plan : RunPlan σ ω) (m : Machine σ ω) (id : Nat) : Machine σ ω :=
  match m.workers[id]? with
  | none => m
  | some ⟨buffer, phase⟩ =>
    match phase with
    | .ready => m.put id ⟨buffer, if m.stopped then .ended else .cleared⟩
    | .cleared => m.claim plan id buffer
    | .working index (.ask question next) state =>
      let reply := Passage.answers plan.table plan.geometry question (state, m.commons)
      { m with commons := reply.2.2 }.put id ⟨buffer, .working index (next reply.1) reply.2.1⟩
    | .working index (.done outcome) state =>
      { m with processed := ⟨id, index, outcome, state⟩ :: m.processed }.put id
        ⟨state.buffer.clear, .closing outcome⟩
    | .closing outcome => m.close id buffer outcome
    | .storing failure => { m with failure := m.failure.or (some failure) }.put id ⟨buffer, .ended⟩
    | .ended | .panicked => m

/-- Takes one step for each worker that a schedule names. -/
def follow (plan : RunPlan σ ω) (m : Machine σ ω) (schedule : List Nat) : Machine σ ω :=
  schedule.foldl (step plan) m

/-- Answers all questions of the event that a worker is inside of. -/
def hurry (plan : RunPlan σ ω) (m : Machine σ ω) (id : Nat) : Machine σ ω :=
  match m.workers[id]? with
  | some ⟨buffer, .working index rest state⟩ =>
    let reply := rest.run (Passage.answers plan.table plan.geometry) (state, m.commons)
    { m with commons := reply.2.2 }.put id ⟨buffer, .working index (.done reply.1) reply.2.1⟩
  | _ => m

/-- Whether a worker takes no more steps. -/
def isOverAt (m : Machine σ ω) (id : Nat) : Bool :=
  (m.workers[id]?).all (·.phase.isOver)

/-- Lets a worker take a number of steps in a row, where the inside of an event counts as one. -/
def serve (plan : RunPlan σ ω) (id : Nat) : Nat → Machine σ ω → Machine σ ω
  | 0, m => m
  | steps + 1, m =>
    if m.isOverAt id then m else serve plan id steps ((m.hurry plan id).step plan id)

/-- As many steps as a worker can take: four for each event, two to find no event left, and one to
store a failure. -/
def stepBound (plan : RunPlan σ ω) : Nat :=
  4 * plan.events.toNat + 3

/-- Lets one worker after the other serve to its end. -/
def complete (plan : RunPlan σ ω) (m : Machine σ ω) : Machine σ ω :=
  (List.range m.workers.length).foldl (fun m id => m.serve plan id (stepBound plan)) m

end Machine

end DetectorSim
