import DetectorSim.Proofs.Message.Delivery
import DetectorSim.Proofs.Run.Blindness
import DetectorSim.Proofs.Run.Claims
import DetectorSim.Proofs.Run.Counts

/-! What happens in an event does not depend on the run around it: not on the worker, on the events
that it took before in the same buffer, or on those that other workers take at the same time. -/

namespace DetectorSim

/-- How a passage ends and what its event is like then. -/
def Passage.ending {σ ω : Type} [Inhabited σ] (plan : RunPlan σ ω) (p : Passage σ ω EventOutcome)
    (e : EventState ω) (c : Commons σ) : EventOutcome × EventState ω :=
  let ended := p.run (answers plan.table plan.geometry) (e, c)
  (ended.1, ended.2.1)

/-- Takes one event through the modules, in a fresh buffer. -/
def RunPlan.processEvent {σ ω : Type} [Inhabited σ] (plan : RunPlan σ ω) (index : UInt64)
    (c : Commons σ) : EventOutcome × EventState ω :=
  (Passage.through index plan.modules).ending plan
    (.start (.new plan.table.size) plan.seed index) c

namespace Passage

variable {σ ω : Type} [Inhabited σ]

theorem ending_of_blind (plan : RunPlan σ ω) {p : Passage σ ω EventOutcome}
    (blind : p.Ignores PassageQuestion.asksMemory) (e : EventState ω) (c c' : Commons σ) :
    p.ending plan e c = p.ending plan e c' :=
  Prod.ext (run_of_blind blind e c c').1 (run_of_blind blind e c c').2

theorem answers_inboxes (table : SubscriptionTable ω) (geometry : Geometry)
    (q : PassageQuestion σ ω) (e : EventState ω) (c : Commons σ) :
    (answers table geometry q (e, c)).2.1.buffer.inboxes.length = e.buffer.inboxes.length := by
  cases q with
  | enter event module =>
    simp only [answers]
    split <;> rfl
  | inside view q =>
    cases q with
    | dispatch topic message => exact EventBuffer.dispatch_inboxes ..
    | _ => rfl

end Passage

/-- A worker inside of an event will end it as if it had been alone. -/
def Phase.IsFaithful {σ ω : Type} [Inhabited σ] (plan : RunPlan σ ω) : Phase σ ω → Prop
  | .working index rest state =>
    rest.Ignores PassageQuestion.asksMemory ∧
      state.buffer.inboxes.length = plan.table.size ∧
      ∀ c, rest.ending plan state c = plan.processEvent index c
  | _ => True

namespace Machine

variable {σ ω : Type} [Inhabited σ]

/-- The buffers of all workers are as fresh ones, the events inside go on as if alone, and those
processed ended as if alone. -/
structure IndependenceInvariant (plan : RunPlan σ ω) (m : Machine σ ω) : Prop where
  fresh : ∀ worker ∈ m.workers, worker.buffer = .new plan.table.size
  inside : ∀ worker ∈ m.workers, worker.phase.IsFaithful plan
  processed : ∀ p ∈ m.processed, ∀ c, (p.outcome, p.state) = plan.processEvent p.index c

theorem independenceInvariant_start (plan : RunPlan σ ω) (workers : Nat) :
    IndependenceInvariant plan (start plan workers) where
  fresh := forall_workers_start (by rfl) workers
  inside := forall_workers_start trivial workers
  processed p present := nomatch present

namespace IndependenceInvariant

variable {plan : RunPlan σ ω} {m after : Machine σ ω} {id : Nat}

private theorem put {changed : Worker σ ω} (valid : IndependenceInvariant plan m)
    (workers : after.workers = m.workers.set id changed)
    (fresh : changed.buffer = .new plan.table.size) (inside : changed.phase.IsFaithful plan)
    (processed : ∀ p ∈ after.processed, ∀ c, (p.outcome, p.state) = plan.processEvent p.index c) :
    IndependenceInvariant plan after where
  fresh := forall_workers_put valid.fresh workers fresh
  inside := forall_workers_put valid.inside workers inside
  processed := processed

theorem move (blind : ∀ i ∈ plan.modules, i.body.IsBlind) (valid : IndependenceInvariant plan m)
    (move : Move plan m id after) : IndependenceInvariant plan after := by
  -- a worker outside of events keeps its buffer
  have quiet {worker : Worker σ ω} {phase : Phase σ ω} {later : Machine σ ω}
      (found : m.workers[id]? = some worker)
      (workers : later.workers = m.workers.set id ⟨worker.buffer, phase⟩)
      (processed : later.processed = m.processed) (inside : phase.IsFaithful plan) :
      IndependenceInvariant plan later :=
    valid.put workers (valid.fresh worker (List.mem_of_getElem? found)) inside
      (processed ▸ valid.processed)
  cases move with
  | rest atEnd => exact valid
  | heed found stopped => exact quiet found rfl rfl trivial
  | pass found running => exact quiet found rfl rfl trivial
  | @claim buffer found left =>
    have fresh : buffer = .new plan.table.size := valid.fresh _ (List.mem_of_getElem? found)
    refine quiet found rfl rfl ⟨Passage.through_ignores _ blind, ?_, fun c => ?_⟩
    · simp [fresh, EventState.start, EventBuffer.new]
    · rw [fresh, RunPlan.processEvent]
  | exhaust found none => exact quiet found rfl rfl trivial
  | @answer buffer index question next state found reply answered =>
    obtain ⟨ignores, length, ends⟩ := valid.inside _ (List.mem_of_getElem? found)
    refine quiet found rfl rfl ⟨ignores.2 _, ?_, fun c => ?_⟩
    · rw [answered, Passage.answers_inboxes, length]
    · calc (next reply.1).ending plan reply.2.1 c
        _ = (next reply.1).ending plan reply.2.1 reply.2.2 :=
          Passage.ending_of_blind plan (ignores.2 _) _ _ _
        _ = Passage.ending plan (.ask question next) state m.commons := by
          rw [answered]
          rfl
        _ = plan.processEvent index m.commons := ends m.commons
        _ = plan.processEvent index c :=
          Passage.ending_of_blind plan (Passage.through_ignores _ blind) _ _ _
  | @finish buffer index outcome state found =>
    obtain ⟨_, length, ends⟩ := valid.inside _ (List.mem_of_getElem? found)
    refine valid.put rfl ?_ trivial fun p present c => ?_
    · rw [EventBuffer.clear_eq_new, length]
    · rcases List.mem_cons.mp present with rfl | earlier
      · exact ends c
      · exact valid.processed p earlier c
  | complete found => exact quiet found rfl rfl trivial
  | skip found => exact quiet found rfl rfl trivial
  | fail found reported => exact quiet found rfl rfl trivial
  | store found => exact quiet found rfl rfl trivial
  | panic found => exact quiet found rfl rfl trivial

end IndependenceInvariant

/-- Every event that a worker took to its end ended as if it had been alone. -/
theorem processed_eq_processEvent (plan : RunPlan σ ω)
    (blind : ∀ i ∈ plan.modules, i.body.IsBlind) (workers : Nat) (schedule : List Nat) :
    ∀ p ∈ ((start plan workers).follow plan schedule).processed, ∀ c,
      (p.outcome, p.state) = plan.processEvent p.index c :=
  (follow_keeps (IndependenceInvariant plan) (.move blind) schedule
    (independenceInvariant_start plan workers)).processed

/-- The same events were completed or skipped in two runs that took each event once. -/
theorem processedCount_eq (plan : RunPlan σ ω) (blind : ∀ i ∈ plan.modules, i.body.IsBlind)
    {workers workers' : Nat} {schedule schedule' : List Nat}
    (same : ((start plan workers).follow plan schedule).finished.Perm
      ((start plan workers').follow plan schedule').finished) (kind : EventOutcome → Bool) :
    ((start plan workers).follow plan schedule).processedCount kind =
      ((start plan workers').follow plan schedule').processedCount kind := by
  let c : Commons σ := (start plan workers).commons
  let alone (index : UInt64) : Bool := kind (plan.processEvent index c).1
  have counted (workers : Nat) (schedule : List Nat) :
      ((start plan workers).follow plan schedule).processedCount kind =
        ((start plan workers).follow plan schedule).finished.countP alone := by
    rw [processedCount, finished, List.countP_map]
    refine List.countP_congr fun p present => ?_
    have ended := processed_eq_processEvent plan blind workers schedule p present c
    simp [alone, ← ended]
  rw [counted workers schedule, counted workers' schedule', same.countP_eq]

/-- If no module looks at its memory, what happens in an event does not depend on workers or
history. Any event that any worker of any run took to its end has the outcome, and left the messages
and the trace, that it has alone in a fresh buffer. Two runs to their end without errors and panics
therefore agree on every event, and, unless so many workers ask for so many events that the claim
counter wraps and events are taken again, in both counters. -/
theorem events_independent_of_workers (plan : RunPlan σ ω)
    (blind : ∀ i ∈ plan.modules, i.body.IsBlind) :
    (∀ workers schedule, ∀ p ∈ ((start plan workers).follow plan schedule).processed, ∀ c,
      (p.outcome, p.state) = plan.processEvent p.index c) ∧
    ∀ {workers workers' : Nat}, 0 < workers → 0 < workers' → ∀ schedule schedule',
      let m := (start plan workers).follow plan schedule
      let m' := (start plan workers').follow plan schedule'
      m.isOver = true → m'.isOver = true → m.hasFault = false → m'.hasFault = false →
        (∀ index < plan.events, ∃ p ∈ m.processed, ∃ p' ∈ m'.processed,
          p.index = index ∧ p'.index = index) ∧
        (∀ p ∈ m.processed, ∀ p' ∈ m'.processed, p.index = p'.index →
          p.outcome = p'.outcome ∧ p.state = p'.state) ∧
        (plan.events.toNat + workers ≤ 2 ^ 64 → plan.events.toNat + workers' ≤ 2 ^ 64 →
          m.completed = m'.completed ∧ m.skipped = m'.skipped) := by
  have alone := processed_eq_processEvent plan blind
  refine ⟨alone, ?_⟩
  intro workers workers' nonempty nonempty' schedule schedule' m m'
  intro atEnd atEnd' faultless faultless'
  refine ⟨?_, ?_, ?_⟩
  · intro index within
    obtain ⟨p, present, same⟩ := List.mem_map.mp
      (mem_finished plan nonempty schedule atEnd faultless within)
    obtain ⟨p', present', same'⟩ := List.mem_map.mp
      (mem_finished plan nonempty' schedule' atEnd' faultless' within)
    exact ⟨p, present, p', present', same, same'⟩
  · intro p present p' present' same
    have ended := alone workers schedule p present m.commons
    have ended' := alone workers' schedule' p' present' m.commons
    rw [← same] at ended'
    exact Prod.mk.inj (ended.trans ended'.symm)
  · intro room room'
    have events : m.finished.Perm m'.finished := by
      refine (List.perm_ext_iff_of_nodup (nodup_finished plan room schedule)
        (nodup_finished plan room' schedule')).mpr fun index => ⟨fun member => ?_, fun member => ?_⟩
      · exact mem_finished plan nonempty' schedule' atEnd' faultless'
          (lt_of_mem_finished plan workers schedule member)
      · exact mem_finished plan nonempty schedule atEnd faultless
          (lt_of_mem_finished plan workers' schedule' member)
    obtain ⟨completed, skipped⟩ := counters_of_isOver plan workers schedule atEnd
    obtain ⟨completed', skipped'⟩ := counters_of_isOver plan workers' schedule' atEnd'
    have counts := processedCount_eq plan blind events
    exact ⟨completed.trans ((congrArg _ (counts _)).trans completed'.symm),
      skipped.trans ((congrArg _ (counts _)).trans skipped'.symm)⟩

/-- A module that counts its events in its memory and notes the index of each. -/
private def noting : ReadyModule Nat Nat :=
  ⟨0, ⟨"noting", .global⟩, .new "noting" none, [], true,
    { memory := 0
      run := fun view => do
        EventProgram.update (· + 1)
        EventProgram.query (.note view.index.toNat)
      finalize := fun _ => pure () }⟩

/-- One worker and two workers note the same of two events. -/
theorem one_and_two_workers_agree :
    let plan : RunPlan Nat Nat := ⟨[noting], .empty, .empty, 2, 0⟩
    let m := (start plan 1).follow plan (List.replicate 16 0)
    let m' := (start plan 2).follow plan (List.replicate 9 [1, 0]).flatten
    (∀ i ∈ plan.modules, i.body.IsBlind) ∧ (0 < 1 ∧ 0 < 2) ∧
      (m.isOver = true ∧ m'.isOver = true ∧ m.hasFault = false ∧ m'.hasFault = false) ∧
      (plan.events.toNat + 1 ≤ 2 ^ 64 ∧ plan.events.toNat + 2 ≤ 2 ^ 64) ∧
      m.completed = m'.completed ∧ m.skipped = m'.skipped := by
  intro plan m m'
  have blind : ∀ i ∈ plan.modules, i.body.IsBlind := by
    intro i member
    obtain rfl := List.mem_singleton.mp member
    exact fun view => ⟨fun _ _ _ => rfl, fun _ => ⟨nofun, fun _ => trivial⟩⟩
  have atEnd : m.isOver = true := by decide
  have atEnd' : m'.isOver = true := by decide
  have faultless : m.hasFault = false := by decide
  have faultless' : m'.hasFault = false := by decide
  have nonempty : 0 < 1 := by decide
  have nonempty' : 0 < 2 := by decide
  have room : plan.events.toNat + 1 ≤ 2 ^ 64 := by decide
  have room' : plan.events.toNat + 2 ≤ 2 ^ 64 := by decide
  have agree := (events_independent_of_workers plan blind).2 nonempty nonempty'
    (List.replicate 16 0) (List.replicate 9 [1, 0]).flatten atEnd atEnd' faultless faultless'
  exact ⟨blind, ⟨nonempty, nonempty'⟩, ⟨atEnd, atEnd', faultless, faultless'⟩, ⟨room, room'⟩,
    agree.2.2 room room'⟩

end Machine

end DetectorSim
