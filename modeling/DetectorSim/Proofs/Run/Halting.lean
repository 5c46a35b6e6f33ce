import DetectorSim.Proofs.Run.Claims

/-! How far a run goes on behind a stop. Loading the stop flag and claiming are two steps, so a
worker that is between them when the flag is set still claims; no other worker does, and that one
only once. -/

namespace DetectorSim

/-- Whether a worker is behind an event that ended the run, or at its end. -/
def Phase.isSpent {σ ω : Type} : Phase σ ω → Bool
  | .closing outcome => outcome.endsRun
  | .storing _ | .ended | .panicked => true
  | _ => false

namespace Machine

variable {σ ω : Type}

/-- A worker found the stop flag unset and has yet to claim. -/
def IsClearedAt (m : Machine σ ω) (id : Nat) : Prop :=
  ∃ buffer, m.workers[id]? = some ⟨buffer, .cleared⟩

/-- A worker is spent: it will enter no further event. -/
def IsSpentAt (m : Machine σ ω) (id : Nat) : Prop :=
  ∃ worker, m.workers[id]? = some worker ∧ worker.phase.isSpent = true

theorem IsSpentAt.not_cleared {m : Machine σ ω} {id : Nat} (spent : m.IsSpentAt id) :
    ¬m.IsClearedAt id := by
  intro ⟨buffer, cleared⟩
  obtain ⟨worker, found, ended⟩ := spent
  obtain rfl := Option.some.inj (cleared.symm.trans found)
  cases ended

/-- The workers that claim while a schedule is followed, in the order of the claims. -/
def claimants [Inhabited σ] (plan : RunPlan σ ω) : Machine σ ω → List Nat → List Nat
  | _, [] => []
  | m, id :: rest =>
    (m.entered (m.step plan id) id).toList.map (fun _ => id) ++ claimants plan (m.step plan id) rest

/-- How a worker may change: it enters an event only behind finding the stop flag unset, finds the
flag unset only if it is, and stays spent. -/
structure Change (stopped : Bool) (before after : Phase σ ω) : Prop where
  enters : before.inside? = none → after.inside? ≠ none → before = .cleared
  clears : after = .cleared → stopped = false
  spent : before.isSpent = true → after.isSpent = true

section Put

variable {m after : Machine σ ω} {id : Nat} {worker changed : Worker σ ω}

theorem getElem?_put (found : m.workers[id]? = some worker)
    (workers : after.workers = m.workers.set id changed) : after.workers[id]? = some changed := by
  obtain ⟨within, _⟩ := List.getElem?_eq_some_iff.mp found
  rw [workers, List.getElem?_set_self within]

end Put

variable [Inhabited σ] {plan : RunPlan σ ω} {m after : Machine σ ω} {id other : Nat}

theorem length_claimants (plan : RunPlan σ ω) (m : Machine σ ω) (schedule : List Nat) :
    (m.claimants plan schedule).length = (m.claims plan schedule).length := by
  induction schedule generalizing m with
  | nil => rfl
  | cons id rest ih => simp [claimants, claims, ih]

theorem mem_claimants_cons (plan : RunPlan σ ω) (m : Machine σ ω) (id other : Nat)
    (rest : List Nat) :
    other ∈ m.claimants plan (id :: rest) ↔
      (other = id ∧ m.entered (m.step plan id) id ≠ none) ∨
        other ∈ (m.step plan id).claimants plan rest := by
  cases enters : m.entered (m.step plan id) id <;> simp [claimants, enters]

namespace Move

theorem elsewhere (move : Move plan m id after) (different : other ≠ id) :
    after.workers[other]? = m.workers[other]? := by
  cases move <;> first | rfl | exact List.getElem?_set_ne different.symm

theorem change (move : Move plan m id after) :
    after = m ∨ ∃ worker changed, m.workers[id]? = some worker ∧
      after.workers = m.workers.set id changed ∧ Change m.stopped worker.phase changed.phase := by
  cases move with
  | rest atEnd => exact .inl rfl
  | heed found stopped => exact .inr ⟨_, _, found, rfl, nofun, nofun, nofun⟩
  | pass found running => exact .inr ⟨_, _, found, rfl, nofun, fun _ => running, nofun⟩
  | claim found left => exact .inr ⟨_, _, found, rfl, fun _ _ => rfl, nofun, nofun⟩
  | exhaust found none => exact .inr ⟨_, _, found, rfl, nofun, nofun, nofun⟩
  | answer found answered => exact .inr ⟨_, _, found, rfl, nofun, nofun, nofun⟩
  | finish found => exact .inr ⟨_, _, found, rfl, nofun, nofun, nofun⟩
  | complete found => exact .inr ⟨_, _, found, rfl, nofun, nofun, nofun⟩
  | skip found => exact .inr ⟨_, _, found, rfl, nofun, nofun, nofun⟩
  | fail found reported => exact .inr ⟨_, _, found, rfl, nofun, nofun, fun _ => rfl⟩
  | store found => exact .inr ⟨_, _, found, rfl, nofun, nofun, fun _ => rfl⟩
  | panic found => exact .inr ⟨_, _, found, rfl, nofun, nofun, fun _ => rfl⟩

/-- A worker that enters an event was ready to, and is no longer. -/
theorem cleared_of_entered (move : Move plan m id after) (enters : m.entered after id ≠ none) :
    m.IsClearedAt id ∧ ¬after.IsClearedAt id := by
  rcases move.change with rfl | ⟨worker, changed, found, workers, change⟩
  · exact absurd (entered_self after id) enters
  · rw [entered_put found workers] at enters
    have outside : worker.phase.inside? = none := by
      by_cases inside : worker.phase.inside?.isSome = true
      · exact absurd (if_pos inside) enters
      · simpa using inside
    rw [outside] at enters
    have cleared : worker.phase = .cleared := change.enters outside enters
    constructor
    · exact ⟨worker.buffer, by rw [found, ← cleared]⟩
    · intro ⟨buffer, ready⟩
      obtain rfl := Option.some.inj ((getElem?_put found workers).symm.trans ready)
      exact enters rfl

theorem stopped (move : Move plan m id after) (stopped : m.stopped = true) :
    after.stopped = true := by
  cases move <;> first | exact stopped | rfl

/-- Behind a stop no worker gets ready to claim. -/
theorem cleared_before (move : Move plan m id after) (stopped : m.stopped = true)
    (cleared : after.IsClearedAt other) : m.IsClearedAt other := by
  obtain ⟨buffer, cleared⟩ := cleared
  by_cases same : other = id
  · subst same
    rcases move.change with rfl | ⟨worker, changed, found, workers, change⟩
    · exact ⟨buffer, cleared⟩
    · obtain rfl := Option.some.inj ((getElem?_put found workers).symm.trans cleared)
      have running := change.clears rfl
      rw [stopped] at running
      cases running
  · rw [move.elsewhere same] at cleared
    exact ⟨buffer, cleared⟩

theorem spent (move : Move plan m id after) (spent : m.IsSpentAt other) :
    after.IsSpentAt other := by
  obtain ⟨seen, present, ended⟩ := spent
  by_cases same : other = id
  · subst same
    rcases move.change with rfl | ⟨worker, changed, found, workers, change⟩
    · exact ⟨seen, present, ended⟩
    · obtain rfl := Option.some.inj (found.symm.trans present)
      exact ⟨changed, getElem?_put found workers, change.spent ended⟩
  · rw [← move.elsewhere same] at present
    exact ⟨seen, present, ended⟩

/-- Only a worker whose event ended in an error or a panic sets the flag. -/
theorem stops (move : Move plan m id after) (running : m.stopped = false)
    (stopped : after.stopped = true) :
    ∃ buffer outcome, m.workers[id]? = some ⟨buffer, .closing outcome⟩ ∧
      outcome.endsRun = true := by
  cases move with
  | @fail buffer failure _ found reported => exact ⟨buffer, .failed failure, found, rfl⟩
  | @panic buffer module found => exact ⟨buffer, .panicked module, found, rfl⟩
  | _ => exact absurd (running.symm.trans stopped) Bool.false_ne_true

end Move

theorem getElem?_follow (plan : RunPlan σ ω) {schedule : List Nat} (unnamed : id ∉ schedule) :
    (m.follow plan schedule).workers[id]? = m.workers[id]? := by
  induction schedule generalizing m with
  | nil => rfl
  | cons next rest ih =>
    rw [List.mem_cons, not_or] at unnamed
    rw [follow_cons, ih unnamed.2, (move_step plan m next).elsewhere unnamed.1]

theorem stopped_follow (plan : RunPlan σ ω) (schedule : List Nat) (stopped : m.stopped = true) :
    (m.follow plan schedule).stopped = true :=
  follow_keeps (fun m => m.stopped = true) (fun stopped move => move.stopped stopped) schedule
    stopped

theorem IsSpentAt.not_mem_claimants (spent : m.IsSpentAt id) (schedule : List Nat) :
    id ∉ m.claimants plan schedule := by
  induction schedule generalizing m with
  | nil => exact List.not_mem_nil
  | cons next rest ih =>
    have move := move_step plan m next
    intro member
    rcases (mem_claimants_cons plan m next id rest).mp member with ⟨rfl, enters⟩ | later
    · exact spent.not_cleared (move.cleared_of_entered enters).1
    · exact ih (move.spent spent) later

/-- Behind a stop only those claim that were ready to. -/
theorem cleared_of_mem_claimants (stopped : m.stopped = true) (schedule : List Nat)
    (member : id ∈ m.claimants plan schedule) : m.IsClearedAt id := by
  induction schedule generalizing m with
  | nil => cases member
  | cons next rest ih =>
    have move := move_step plan m next
    rcases (mem_claimants_cons plan m next id rest).mp member with ⟨rfl, enters⟩ | later
    · exact (move.cleared_of_entered enters).1
    · exact move.cleared_before stopped (ih (move.stopped stopped) later)

theorem nodup_claimants (stopped : m.stopped = true) (schedule : List Nat) :
    (m.claimants plan schedule).Nodup := by
  induction schedule generalizing m with
  | nil => exact List.nodup_nil
  | cons id rest ih =>
    have move := move_step plan m id
    have still := move.stopped stopped
    cases enters : m.entered (m.step plan id) id with
    | none => simpa [claimants, enters] using ih still
    | some index =>
      -- the worker that claims is not ready to a second time
      have unready := (move.cleared_of_entered (by simp [enters])).2
      have once : id ∉ (m.step plan id).claimants plan rest := by
        intro again
        exact unready (cleared_of_mem_claimants still rest again)
      simpa [claimants, enters] using ⟨once, ih still⟩

/-- A worker whose event ended in an error or a panic is spent from then on. -/
theorem spent_of_processed (plan : RunPlan σ ω) (workers : Nat) (schedule : List Nat) :
    ∀ p ∈ ((start plan workers).follow plan schedule).processed, p.outcome.endsRun = true →
      ((start plan workers).follow plan schedule).IsSpentAt p.worker := by
  apply follow_keeps (fun m => ∀ p ∈ m.processed, p.outcome.endsRun = true → m.IsSpentAt p.worker)
  · intro m id after valid move p member ends
    by_cases earlier : p ∈ m.processed
    · exact move.spent (valid p earlier ends)
    · cases move with
      | finish found =>
        obtain rfl := (List.mem_cons.mp member).resolve_right earlier
        exact ⟨_, getElem?_put found rfl, ends⟩
      | _ => exact absurd member earlier
  · intro p member
    cases member

/-- Fewer events are claimed behind a stop than there are workers, since the one that stopped the
run is spent. -/
theorem claims_lt_of_stopped (plan : RunPlan σ ω) (workers : Nat) (before : List Nat)
    (stopped : ((start plan workers).follow plan before).stopped = true) (later : List Nat) :
    (((start plan workers).follow plan before).claims plan later).length < workers := by
  have fault := (stopInvariant_follow plan workers before).cause stopped
  obtain ⟨p, present, ends⟩ := List.any_eq_true.mp fault
  have spent := spent_of_processed plan workers before p present ends
  have count := length_workers_follow plan workers before
  have below {id : Nat} {worker : Worker σ ω}
      (found : ((start plan workers).follow plan before).workers[id]? = some worker) :
      id ∈ List.range workers := by
    obtain ⟨within, _⟩ := List.getElem?_eq_some_iff.mp found
    exact List.mem_range.mpr (count ▸ within)
  have stopper : p.worker ∈ List.range workers := by
    obtain ⟨_, found, _⟩ := spent
    exact below found
  have others : ((start plan workers).follow plan before).claimants plan later ⊆
      (List.range workers).erase p.worker := by
    intro id member
    obtain ⟨_, claimant⟩ := cleared_of_mem_claimants stopped later member
    refine (List.mem_erase_of_ne ?_).mpr (below claimant)
    rintro rfl
    exact spent.not_mem_claimants later member
  have bound := (List.subperm_of_subset (nodup_claimants stopped later) others).length_le
  rw [length_claimants, List.length_erase_of_mem stopper, List.length_range] at bound
  have positive := List.mem_range.mp stopper
  omega

/-- A stop bounds what is begun behind it. Only a worker whose event ended in an error or a panic
sets the stop flag, and such a worker claims nothing more. Once the flag is set it stays set; a
worker that has yet to load it claims nothing; any other claims once at most, and only if it had
found the flag unset and not yet claimed. So fewer events are claimed than there are workers. -/
theorem stop_bounds_claims (plan : RunPlan σ ω) (workers : Nat) (before : List Nat) :
    let m := (start plan workers).follow plan before
    (∀ id, m.stopped = false → (m.step plan id).stopped = true →
      ∃ buffer outcome, m.workers[id]? = some ⟨buffer, .closing outcome⟩ ∧
        outcome.endsRun = true) ∧
    (∀ p ∈ m.processed, p.outcome.endsRun = true → ∀ later, p.worker ∉ m.claimants plan later) ∧
    (m.stopped = true → ∀ later,
      (m.follow plan later).stopped = true ∧
      (∀ id buffer, m.workers[id]? = some ⟨buffer, .ready⟩ → id ∉ m.claimants plan later) ∧
      (m.claimants plan later).Nodup ∧
      (∀ id ∈ m.claimants plan later, ∃ buffer, m.workers[id]? = some ⟨buffer, .cleared⟩) ∧
      (m.claimants plan later).length = (m.claims plan later).length ∧
      (m.claims plan later).length < workers) := by
  intro m
  refine ⟨fun id running => (move_step plan m id).stops running, ?_, ?_⟩
  · intro p present ends later
    exact (spent_of_processed plan workers before p present ends).not_mem_claimants later
  · intro stopped later
    refine ⟨stopped_follow plan later stopped, ?_, nodup_claimants stopped later,
      fun id => cleared_of_mem_claimants stopped later, length_claimants plan m later,
      claims_lt_of_stopped plan workers before stopped later⟩
    intro id buffer ready member
    obtain ⟨other, cleared⟩ := cleared_of_mem_claimants stopped later member
    cases ready.symm.trans cleared

/-- A module that refuses the first event and panics in any other. -/
private def refusing : ReadyModule Unit Unit :=
  ⟨0, ⟨"refusing", .global⟩, .new "refusing" none, [], true,
    { memory := ()
      run := fun view => if view.index = 0 then EventProgram.fail (.fatal "no") else .panic
      finalize := fun _ => pure () }⟩

/-- Of four workers, two are ready to claim when the first stops the run, and do; the last has yet
to load the stop flag, and does not. -/
theorem two_claims_behind_a_stop :
    let plan : RunPlan Unit Unit := ⟨[refusing], .empty, .empty, 9, 0⟩
    let running := (start plan 4).follow plan [0, 0, 0, 1, 0, 2]
    let m := (start plan 4).follow plan [0, 0, 0, 1, 0, 2, 0]
    let later := [1, 3, 1, 2, 0, 1, 3, 1, 2, 2, 2, 0, 1, 2]
    (running.stopped = false ∧ (running.step plan 0).stopped = true ∧
      ∃ buffer outcome, running.workers[0]? = some ⟨buffer, .closing outcome⟩ ∧
        outcome.endsRun = true) ∧
      (∃ p ∈ m.processed, p.outcome.endsRun = true ∧ p.worker ∉ m.claimants plan later) ∧
      (∃ buffer, m.workers[3]? = some ⟨buffer, .ready⟩ ∧ 3 ∉ m.claimants plan later) ∧
      m.stopped = true ∧ m.claims plan later = [1, 2] ∧ (m.claims plan later).length < 4 := by
  intro plan running m later
  have unset : running.stopped = false := by decide
  have stops : (running.step plan 0).stopped = true := by decide
  have stopped : m.stopped = true := by decide
  have fault : m.hasFault = true := by decide
  obtain ⟨p, present, ends⟩ := List.any_eq_true.mp fault
  have stopper := (stop_bounds_claims plan 4 [0, 0, 0, 1, 0, 2]).1 0 unset stops
  have bounds := stop_bounds_claims plan 4 [0, 0, 0, 1, 0, 2, 0]
  have behind := bounds.2.2 stopped later
  have ready : m.workers[3]? = some ⟨.new plan.table.size, .ready⟩ :=
    getElem?_follow plan (by decide)
  have spent : p.worker ∉ m.claimants plan later := bounds.2.1 p present ends later
  have unready : 3 ∉ m.claimants plan later := behind.2.1 3 _ ready
  have fewer : (m.claims plan later).length < 4 := behind.2.2.2.2.2
  refine ⟨⟨unset, stops, ?_⟩, ⟨p, present, ends, spent⟩, ⟨_, ready, unready⟩, stopped, ?_, fewer⟩
  · exact stopper
  · decide

end Machine

end DetectorSim
