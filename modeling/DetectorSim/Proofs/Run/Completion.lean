import DetectorSim.Proofs.Run.Halting

/-! Runs come to their end. To let one worker after the other serve is to follow a schedule, and a
worker that serves needs no more steps than it is given. -/

namespace DetectorSim

/-- The most steps that a worker takes alone, the inside of an event counting as one, when the
claim counter is at `next`. -/
def Phase.stepsLeft {σ ω : Type} (events next : UInt64) : Phase σ ω → Nat
  | .ready => 4 * (events.toNat - next.toNat) + 2
  | .cleared => 4 * (events.toNat - next.toNat) + 1
  | .working .. => 4 * (events.toNat - next.toNat) + 4
  | .closing _ => 4 * (events.toNat - next.toNat) + 3
  | .storing _ => 1
  | .ended | .panicked => 0

theorem toNat_add_one {index : UInt64} (room : index.toNat + 1 < 2 ^ 64) :
    (index + 1).toNat = index.toNat + 1 := by
  rw [UInt64.toNat_add]
  exact Nat.mod_eq_of_lt room

namespace Machine

variable {σ ω : Type}

theorem put_put (m : Machine σ ω) (id : Nat) (first second : Worker σ ω) (commons : Commons σ) :
    Machine.put { m.put id first with commons } id second =
      Machine.put { m with commons } id second := by
  simp [put]

theorem put_self {m : Machine σ ω} {id : Nat} {worker : Worker σ ω}
    (found : m.workers[id]? = some worker) : m.put id worker = m := by
  obtain ⟨within, rfl⟩ := List.getElem?_eq_some_iff.mp found
  simp [put]

variable [Inhabited σ] {plan : RunPlan σ ω} {m : Machine σ ω} {id : Nat}

theorem follow_append (plan : RunPlan σ ω) (m : Machine σ ω) (first second : List Nat) :
    m.follow plan (first ++ second) = (m.follow plan first).follow plan second :=
  List.foldl_append

theorem hurry_working (plan : RunPlan σ ω) {buffer : EventBuffer} {index : UInt64}
    {rest : Passage σ ω EventOutcome} {state : EventState ω}
    (found : m.workers[id]? = some ⟨buffer, .working index rest state⟩) :
    m.hurry plan id =
      let reply := rest.run (Passage.answers plan.table plan.geometry) (state, m.commons)
      Machine.put { m with commons := reply.2.2 } id
        ⟨buffer, .working index (.done reply.1) reply.2.1⟩ := by
  simp only [hurry, found]

theorem hurry_elsewhere {worker : Worker σ ω} (found : m.workers[id]? = some worker)
    (outside : worker.phase.inside? = none) : m.hurry plan id = m := by
  obtain ⟨buffer, phase⟩ := worker
  cases phase with
  | working index rest state => cases outside
  | _ => simp only [hurry, found]

/-- The questions of an event are answered one after the other. -/
theorem exists_hurry (plan : RunPlan σ ω) (m : Machine σ ω) (id : Nat) :
    ∃ steps, m.hurry plan id = m.follow plan (List.replicate steps id) := by
  cases found : m.workers[id]? with
  | none => exact ⟨0, by simp [hurry, found]⟩
  | some worker =>
    obtain ⟨buffer, phase⟩ := worker
    cases phase with
    | working index rest state =>
      -- on the rest of the event: each step answers the question at its head
      induction rest generalizing m state with
      | done outcome =>
        refine ⟨0, ?_⟩
        rw [hurry_working plan found]
        exact put_self found
      | ask question next ih =>
        let reply := Passage.answers plan.table plan.geometry question (state, m.commons)
        have step : m.step plan id = Machine.put { m with commons := reply.2.2 } id
            ⟨buffer, .working index (next reply.1) reply.2.1⟩ := by
          simp only [Machine.step, found, reply]
        have inside : (m.step plan id).workers[id]? =
            some ⟨buffer, .working index (next reply.1) reply.2.1⟩ := by
          rw [step]
          exact getElem?_put found rfl
        obtain ⟨steps, onwards⟩ := ih reply.1 (m.step plan id) reply.2.1 inside
        refine ⟨steps + 1, ?_⟩
        rw [List.replicate_succ, follow_cons, ← onwards, hurry_working plan inside, step, put_put]
        exact hurry_working plan found
    | _ => exact ⟨0, hurry_elsewhere found rfl⟩

theorem exists_serve (plan : RunPlan σ ω) (id steps : Nat) (m : Machine σ ω) :
    ∃ taken, m.serve plan id steps = m.follow plan (List.replicate taken id) := by
  induction steps generalizing m with
  | zero => exact ⟨0, rfl⟩
  | succ steps ih =>
    rw [serve]
    split
    · exact ⟨0, rfl⟩
    · obtain ⟨inside, hurried⟩ := exists_hurry plan m id
      obtain ⟨later, served⟩ := ih ((m.hurry plan id).step plan id)
      refine ⟨inside + (1 + later), ?_⟩
      rw [served, hurried, List.replicate_add, List.replicate_add, follow_append, follow_append]
      rfl

/-- The most steps that the worker at a place takes alone. -/
def stepsLeftAt (plan : RunPlan σ ω) (m : Machine σ ω) (id : Nat) : Nat :=
  (m.workers[id]?).elim 0 (·.phase.stepsLeft plan.events m.next)

omit [Inhabited σ] in
theorem stepsLeftAt_found {worker : Worker σ ω} (found : m.workers[id]? = some worker) :
    stepsLeftAt plan m id = worker.phase.stepsLeft plan.events m.next := by
  simp [stepsLeftAt, found]

omit [Inhabited σ] in
theorem isOverAt_of_stepsLeftAt (none : stepsLeftAt plan m id = 0) : m.isOverAt id = true := by
  cases found : m.workers[id]? with
  | none => simp [isOverAt, found]
  | some worker =>
    rw [stepsLeftAt_found found] at none
    cases same : worker.phase <;> simp_all [isOverAt, Phase.isOver, Phase.stepsLeft]

/-- A step that answers no question leaves fewer of them. -/
theorem Move.stepsLeftAt_lt {after : Machine σ ω} (move : Move plan m id after)
    (on : m.isOverAt id = false)
    (answered : ∀ buffer index question next state,
      m.workers[id]? ≠ some ⟨buffer, .working index (.ask question next) state⟩) :
    stepsLeftAt plan after id < stepsLeftAt plan m id := by
  have fewer {worker changed : Worker σ ω} {later : Machine σ ω}
      (found : m.workers[id]? = some worker)
      (workers : later.workers = m.workers.set id changed)
      (less : changed.phase.stepsLeft plan.events later.next <
        worker.phase.stepsLeft plan.events m.next) :
      stepsLeftAt plan later id < stepsLeftAt plan m id := by
    rwa [stepsLeftAt_found found, stepsLeftAt_found (getElem?_put found workers)]
  cases move with
  | rest atEnd => exact absurd (atEnd.symm.trans on) nofun
  | heed found stopped => exact fewer found rfl (by simp [Phase.stepsLeft])
  | pass found running => exact fewer found rfl (by simp [put, Phase.stepsLeft])
  | claim found left =>
    refine fewer found rfl ?_
    have inside : m.next.toNat < plan.events.toNat := left
    have inRange := plan.events.toNat_lt
    simp only [put, Phase.stepsLeft, toNat_add_one (show m.next.toNat + 1 < 2 ^ 64 by omega)]
    omega
  | exhaust found none => exact fewer found rfl (by simp [Phase.stepsLeft])
  | answer found => exact (answered _ _ _ _ _ found).elim
  | finish found => exact fewer found rfl (by simp [put, Phase.stepsLeft])
  | complete found => exact fewer found rfl (by simp [put, Phase.stepsLeft])
  | skip found => exact fewer found rfl (by simp [put, Phase.stepsLeft])
  | fail found => exact fewer found rfl (by simp [Phase.stepsLeft])
  | store found => exact fewer found rfl (by simp [Phase.stepsLeft])
  | panic found => exact fewer found rfl (by simp [Phase.stepsLeft])

theorem stepsLeftAt_hurry_step (plan : RunPlan σ ω) (on : m.isOverAt id = false) :
    stepsLeftAt plan ((m.hurry plan id).step plan id) id < stepsLeftAt plan m id := by
  cases found : m.workers[id]? with
  | none => simp [isOverAt, found] at on
  | some worker =>
    obtain ⟨buffer, phase⟩ := worker
    by_cases outside : phase.inside? = none
    · rw [hurry_elsewhere found outside]
      refine (move_step plan m id).stepsLeftAt_lt on fun _ _ _ _ _ working => ?_
      rw [found] at working
      cases working
      cases outside
    · cases phase with
      | working index rest state =>
        have inside := hurry_working plan found
        have same := getElem?_put found (congrArg Machine.workers inside)
        refine Nat.lt_of_lt_of_eq
          ((move_step plan (m.hurry plan id) id).stepsLeftAt_lt ?_ ?_) ?_
        · simp [isOverAt, same, Phase.isOver]
        · intro _ _ _ _ _ working
          cases same.symm.trans working
        · rw [stepsLeftAt_found found, stepsLeftAt_found same, inside]
          rfl
      | _ => exact absurd rfl outside

theorem isOverAt_serve {steps : Nat} (enough : stepsLeftAt plan m id ≤ steps) :
    (m.serve plan id steps).isOverAt id = true := by
  induction steps generalizing m with
  | zero => exact isOverAt_of_stepsLeftAt (Nat.le_zero.mp enough)
  | succ steps ih =>
    rw [serve]
    split
    · assumption
    · rename_i on
      have fewer := stepsLeftAt_hurry_step plan (Bool.eq_false_iff.mpr on)
      exact ih (by omega)

/-- Workers that serve one after the other all come to their end, if each may take the most steps
that it can need for any claim counter. -/
theorem exists_foldl_serve (plan : RunPlan σ ω) {ids : List Nat} (distinct : ids.Nodup)
    (steps : Nat) (m : Machine σ ω) (enough : ∀ id ∈ ids, ∀ worker, m.workers[id]? = some worker →
      ∀ next, worker.phase.stepsLeft plan.events next ≤ steps) :
    ∃ schedule, (∀ id ∈ schedule, id ∈ ids) ∧
      ids.foldl (fun m id => m.serve plan id steps) m = m.follow plan schedule ∧
      ∀ id ∈ ids, (m.follow plan schedule).isOverAt id = true := by
  induction ids generalizing m with
  | nil => exact ⟨[], nofun, rfl, nofun⟩
  | cons id rest ih =>
    obtain ⟨fresh, distinctRest⟩ := List.nodup_cons.mp distinct
    obtain ⟨taken, served⟩ := exists_serve plan id steps m
    have ended : (m.serve plan id steps).isOverAt id = true := by
      refine isOverAt_serve ?_
      cases found : m.workers[id]? with
      | none => simp [stepsLeftAt, found]
      | some worker =>
        rw [stepsLeftAt_found found]
        exact enough id (List.mem_cons_self ..) worker found m.next
    have others : ∀ other ∈ rest, ∀ worker,
        (m.serve plan id steps).workers[other]? = some worker →
          ∀ next, worker.phase.stepsLeft plan.events next ≤ steps := by
      intro other member worker found
      have different : other ∉ List.replicate taken id := by
        rintro present
        exact fresh (List.eq_of_mem_replicate present ▸ member)
      rw [served, getElem?_follow plan different] at found
      exact enough other (List.mem_cons_of_mem _ member) worker found
    obtain ⟨schedule, within, folded, atEnd⟩ := ih distinctRest _ others
    rw [served] at folded atEnd ended
    refine ⟨List.replicate taken id ++ schedule, ?_, ?_, ?_⟩
    · intro other member
      rcases List.mem_append.mp member with first | later
      · exact List.eq_of_mem_replicate first ▸ List.mem_cons_self ..
      · exact List.mem_cons_of_mem _ (within other later)
    · rw [List.foldl_cons, served, folded, follow_append]
    · intro other member
      rw [follow_append]
      rcases List.mem_cons.mp member with rfl | later
      · have unnamed : other ∉ schedule := fun named => fresh (within other named)
        rwa [isOverAt, getElem?_follow plan unnamed]
      · exact atEnd other later

theorem exists_foldl_serve_all (plan : RunPlan σ ω) (steps : Nat) (m : Machine σ ω)
    (enough : ∀ worker ∈ m.workers, ∀ next, worker.phase.stepsLeft plan.events next ≤ steps) :
    ∃ schedule, (List.range m.workers.length).foldl (fun m id => m.serve plan id steps) m =
      m.follow plan schedule ∧ (m.follow plan schedule).isOver = true := by
  obtain ⟨schedule, _, folded, atEnd⟩ := exists_foldl_serve plan List.nodup_range steps m
    fun id _ worker found => enough worker (List.mem_of_getElem? found)
  refine ⟨schedule, folded, List.all_eq_true.mpr fun worker member => ?_⟩
  obtain ⟨id, within, rfl⟩ := List.getElem_of_mem member
  have below : id ∈ List.range m.workers.length := by
    rw [List.mem_range]
    rwa [length_workers_from] at within
  have ended := atEnd id below
  rwa [isOverAt, List.getElem?_eq_getElem within, Option.all_some] at ended

/-- Wherever a run stands, it can be brought to its end. -/
theorem exists_isOver (plan : RunPlan σ ω) (m : Machine σ ω) :
    ∃ schedule, (m.follow plan schedule).isOver = true := by
  obtain ⟨schedule, _, atEnd⟩ := exists_foldl_serve_all plan (4 * plan.events.toNat + 4) m
    fun worker _ next => by cases worker.phase <;> simp only [Phase.stepsLeft] <;> omega
  exact ⟨schedule, atEnd⟩

/-- Every run comes to its end, by a schedule of its workers. -/
theorem exists_complete (plan : RunPlan σ ω) (workers : Nat) :
    ∃ schedule, (start plan workers).complete plan = (start plan workers).follow plan schedule ∧
      ((start plan workers).follow plan schedule).isOver = true := by
  refine exists_foldl_serve_all plan (stepBound plan) (start plan workers) ?_
  intro worker member next
  rw [List.eq_of_mem_replicate member]
  simp only [Phase.stepsLeft, stepBound]
  omega

end Machine

end DetectorSim
