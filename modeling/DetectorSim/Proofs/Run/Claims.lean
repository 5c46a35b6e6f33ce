import DetectorSim.Proofs.Run.Stops
import Mathlib.Algebra.Group.Nat.Defs
import Mathlib.Data.List.Nodup

/-! Claiming of events. The claim counter advances with each attempt, the last one of each worker
included, and wraps; the attempts that find an event left are the claims. -/

namespace DetectorSim.Machine

variable {σ ω : Type}

/-- The event that a worker is inside of. -/
def insideAt (m : Machine σ ω) (id : Nat) : Option UInt64 :=
  (m.workers[id]?).bind (·.phase.inside?)

/-- The events that workers are inside of. -/
def inFlight (m : Machine σ ω) : List UInt64 :=
  m.workers.filterMap (·.phase.inside?)

/-- The events taken to their end, the latest first. -/
def finished (m : Machine σ ω) : List UInt64 :=
  m.processed.map (·.index)

/-- The number of workers at their end. -/
def overCount (m : Machine σ ω) : Nat :=
  m.workers.countP (·.phase.isOver)

/-- The event that a worker enters from one state to another. -/
def entered (before after : Machine σ ω) (id : Nat) : Option UInt64 :=
  if (before.insideAt id).isSome then none else after.insideAt id

/-- The events claimed while a schedule is followed, in the order of the claims. -/
def claims [Inhabited σ] (plan : RunPlan σ ω) : Machine σ ω → List Nat → List UInt64
  | _, [] => []
  | m, id :: rest =>
    (m.entered (m.step plan id) id).toList ++ claims plan (m.step plan id) rest

theorem entered_self (m : Machine σ ω) (id : Nat) : m.entered m id = none := by
  unfold entered
  split
  · rfl
  · rename_i outside
    simpa using outside

section Put

open scoped List

variable {m after : Machine σ ω} {id : Nat} {worker changed : Worker σ ω}

theorem entered_put (found : m.workers[id]? = some worker)
    (workers : after.workers = m.workers.set id changed) :
    m.entered after id =
      if worker.phase.inside?.isSome then none else changed.phase.inside? := by
  obtain ⟨within, _⟩ := List.getElem?_eq_some_iff.mp found
  simp [entered, insideAt, found, workers, List.getElem?_set_self within]

theorem inFlight_perm (found : m.workers[id]? = some worker) :
    m.inFlight.Perm
      (worker.phase.inside?.toList ++ (m.others id).filterMap (·.phase.inside?)) := by
  have split := (workers_perm found).filterMap (·.phase.inside?)
  cases same : worker.phase.inside? <;> simpa [inFlight, same] using split

theorem inFlight_put (found : m.workers[id]? = some worker)
    (workers : after.workers = m.workers.set id changed) :
    after.inFlight.Perm
      (changed.phase.inside?.toList ++ (m.others id).filterMap (·.phase.inside?)) := by
  have split := (put_workers_perm found changed).filterMap (·.phase.inside?)
  rw [inFlight, workers]
  cases same : changed.phase.inside? <;> simpa [same] using split

/-- What a worker enters and leaves accounts for the events in flight and those finished. -/
theorem held_put (gone : List UInt64) (found : m.workers[id]? = some worker)
    (workers : after.workers = m.workers.set id changed)
    (processed : after.finished = gone ++ m.finished)
    (balance : changed.phase.inside?.toList ++ gone =
      (if worker.phase.inside?.isSome then none else changed.phase.inside?).toList ++
        worker.phase.inside?.toList) :
    (after.inFlight ++ after.finished).Perm
      ((m.entered after id).toList ++ (m.inFlight ++ m.finished)) := by
  let elsewhere := (m.others id).filterMap (·.phase.inside?)
  have old : (m.inFlight ++ m.finished).Perm
      (worker.phase.inside?.toList ++ (elsewhere ++ m.finished)) := by
    simpa using (inFlight_perm found).append_right m.finished
  calc after.inFlight ++ after.finished
    _ ~ changed.phase.inside?.toList ++ (elsewhere ++ (gone ++ m.finished)) := by
      rw [processed]
      simpa using (inFlight_put found workers).append_right (gone ++ m.finished)
    _ ~ changed.phase.inside?.toList ++ (gone ++ (elsewhere ++ m.finished)) :=
      List.perm_append_comm_assoc .. |>.append_left _
    _ = (m.entered after id).toList ++
        (worker.phase.inside?.toList ++ (elsewhere ++ m.finished)) := by
      rw [entered_put found workers, ← List.append_assoc, balance, List.append_assoc]
    _ ~ (m.entered after id).toList ++ (m.inFlight ++ m.finished) := old.symm.append_left _

theorem overCount_put (found : m.workers[id]? = some worker)
    (workers : after.workers = m.workers.set id changed) :
    after.overCount + (if worker.phase.isOver then 1 else 0) =
      m.overCount + (if changed.phase.isOver then 1 else 0) :=
  countP_put (·.phase.isOver) found workers

theorem overCount_lt (found : m.workers[id]? = some worker)
    (before : worker.phase.isOver = false) : m.overCount < m.workers.length := by
  refine Nat.lt_of_le_of_ne List.countP_le_length ?_
  intro all
  have atEnd := List.countP_eq_length.mp all worker (List.mem_of_getElem? found)
  rw [before] at atEnd
  cases atEnd

end Put

variable [Inhabited σ] {plan : RunPlan σ ω} {m after : Machine σ ω} {id : Nat}

/-- The events in flight and those finished grow by the event that is entered. -/
theorem held_move (move : Move plan m id after) :
    (after.inFlight ++ after.finished).Perm
      ((m.entered after id).toList ++ (m.inFlight ++ m.finished)) := by
  cases move with
  | rest atEnd => simp [entered_self]
  | heed found stopped => exact held_put [] found rfl rfl rfl
  | pass found running => exact held_put [] found rfl rfl rfl
  | claim found left => exact held_put [] found rfl rfl rfl
  | exhaust found none => exact held_put [] found rfl rfl rfl
  | answer found answered => exact held_put [] found rfl rfl rfl
  | @finish _ index _ _ found => exact held_put [index] found rfl rfl rfl
  | complete found => exact held_put [] found rfl rfl rfl
  | skip found => exact held_put [] found rfl rfl rfl
  | fail found reported => exact held_put [] found rfl rfl rfl
  | store found => exact held_put [] found rfl rfl rfl
  | panic found => exact held_put [] found rfl rfl rfl

/-- The events that a number of attempts claims: those among the first that the run has. -/
def firstEvents (plan : RunPlan σ ω) (attempts : Nat) : List UInt64 :=
  ((List.range attempts).map UInt64.ofNat).filter (· < plan.events)

omit [Inhabited σ] in
theorem firstEvents_succ (plan : RunPlan σ ω) (attempts : Nat) :
    firstEvents plan (attempts + 1) = firstEvents plan attempts ++
      (if UInt64.ofNat attempts < plan.events then some (UInt64.ofNat attempts)
        else none).toList := by
  simp only [firstEvents, List.range_succ, List.map_append, List.filter_append, List.map_cons,
    List.map_nil, List.filter_singleton]
  by_cases left : UInt64.ofNat attempts < plan.events <;> simp [left]

/-- The attempts made so far account for the counter, the claims and the workers at their end. As
long as the counter cannot pass its range, each worker makes at most one attempt in vain. -/
structure ClaimInvariant (plan : RunPlan σ ω) (claims : List UInt64) (attempts : Nat)
    (m : Machine σ ω) : Prop where
  counter : m.next = UInt64.ofNat attempts
  order : claims = firstEvents plan attempts
  held : (m.inFlight ++ m.finished).Perm claims
  exhausted : 0 < m.overCount → m.stopped = true ∨ plan.events.toNat ≤ attempts
  bounded : plan.events.toNat + m.workers.length ≤ 2 ^ 64 →
    attempts ≤ plan.events.toNat + m.overCount

omit [Inhabited σ] in
theorem claimInvariant_start (plan : RunPlan σ ω) (workers : Nat) :
    ClaimInvariant plan [] 0 (start plan workers) where
  counter := rfl
  order := rfl
  held := by simp [inFlight, finished, start, Phase.inside?]
  exhausted atEnd := by simp [overCount, start, Phase.isOver] at atEnd
  bounded _ := Nat.zero_le _

namespace ClaimInvariant

variable {claims : List UInt64} {attempts : Nat} {worker changed : Worker σ ω}

private theorem quiet (valid : ClaimInvariant plan claims attempts m)
    (move : Move plan m id after) (found : m.workers[id]? = some worker)
    (workers : after.workers = m.workers.set id changed) (next : after.next = m.next)
    (unentered : (if worker.phase.inside?.isSome then none else changed.phase.inside?) = none)
    (before : worker.phase.isOver = false) (stopped : m.stopped = true → after.stopped = true)
    (heeds : changed.phase.isOver = true → after.stopped = true) :
    ClaimInvariant plan (claims ++ (m.entered after id).toList) attempts after := by
  have entered := (entered_put found workers).trans unentered
  have count := overCount_put found workers
  simp only [before, Bool.false_eq_true, if_false, Nat.add_zero] at count
  have kept := held_move move
  rw [entered, Option.toList_none, List.nil_append] at kept
  rw [entered, Option.toList_none, List.append_nil]
  refine ⟨next.trans valid.counter, valid.order, kept.trans valid.held, ?_, ?_⟩
  · intro atEnd
    by_cases ends : changed.phase.isOver = true
    · exact .inl (heeds ends)
    · simp only [ends, Bool.false_eq_true, if_false, Nat.add_zero] at count
      exact (valid.exhausted (count ▸ atEnd)).imp_left stopped
  · intro room
    rw [workers, List.length_set] at room
    have bound := valid.bounded room
    omega

private theorem claim (valid : ClaimInvariant plan claims attempts m)
    (move : Move plan m id after) (found : m.workers[id]? = some worker)
    (workers : after.workers = m.workers.set id changed) (next : after.next = m.next + 1)
    (enters : (if worker.phase.inside?.isSome then none else changed.phase.inside?) = some m.next)
    (left : m.next < plan.events) (before : worker.phase.isOver = false)
    (later : changed.phase.isOver = false) (stopped : after.stopped = m.stopped) :
    ClaimInvariant plan (claims ++ (m.entered after id).toList) (attempts + 1) after := by
  have entered := (entered_put found workers).trans enters
  have count := overCount_put found workers
  simp only [before, later, Bool.false_eq_true, if_false, Nat.add_zero] at count
  have grown := held_move move
  rw [entered, Option.toList_some, List.singleton_append] at grown
  rw [entered, Option.toList_some]
  refine ⟨?_, ?_, ?_, ?_, ?_⟩
  · rw [next, valid.counter, UInt64.ofNat_add]
    rfl
  · rw [firstEvents_succ, ← valid.counter, if_pos left, ← valid.order]
    rfl
  · exact grown.trans ((valid.held.cons m.next).trans (List.perm_append_singleton ..).symm)
  · intro atEnd
    rw [stopped]
    exact (valid.exhausted (count ▸ atEnd)).imp_right Nat.le_succ_of_le
  · intro room
    rw [workers, List.length_set] at room
    have bound := valid.bounded room
    have free := overCount_lt found before
    -- the counter has not passed its range, so it is the number of attempts
    have small : attempts < 2 ^ 64 := by omega
    have same : m.next.toNat = attempts := by
      rw [valid.counter, UInt64.toNat_ofNat_of_lt' small]
    have inside : m.next.toNat < plan.events.toNat := left
    omega

private theorem exhaust (valid : ClaimInvariant plan claims attempts m)
    (move : Move plan m id after) (found : m.workers[id]? = some worker)
    (workers : after.workers = m.workers.set id changed) (next : after.next = m.next + 1)
    (unentered : (if worker.phase.inside?.isSome then none else changed.phase.inside?) = none)
    (none : plan.events ≤ m.next) (before : worker.phase.isOver = false)
    (later : changed.phase.isOver = true) :
    ClaimInvariant plan (claims ++ (m.entered after id).toList) (attempts + 1) after := by
  have entered := (entered_put found workers).trans unentered
  have count := overCount_put found workers
  simp only [before, later, Bool.false_eq_true, if_false, if_true, Nat.add_zero] at count
  have kept := held_move move
  rw [entered, Option.toList_none, List.nil_append] at kept
  rw [entered, Option.toList_none, List.append_nil]
  refine ⟨?_, ?_, kept.trans valid.held, ?_, ?_⟩
  · rw [next, valid.counter, UInt64.ofNat_add]
    rfl
  · rw [firstEvents_succ, ← valid.counter, if_neg (UInt64.not_lt.mpr none), ← valid.order]
    simp
  · intro _
    have reached : plan.events.toNat ≤ m.next.toNat := none
    have modular : m.next.toNat ≤ attempts := by
      rw [valid.counter, UInt64.toNat_ofNat']
      exact Nat.mod_le ..
    exact .inr (by omega)
  · intro room
    rw [workers, List.length_set] at room
    have bound := valid.bounded room
    omega

theorem move (valid : ClaimInvariant plan claims attempts m) (stops : StopInvariant m)
    (move : Move plan m id after) :
    ∃ later, ClaimInvariant plan (claims ++ (m.entered after id).toList) later after := by
  cases move with
  | rest atEnd =>
    rw [entered_self, Option.toList_none, List.append_nil]
    exact ⟨attempts, valid⟩
  | heed found stopped =>
    exact ⟨_, valid.quiet (.heed found stopped) found rfl rfl rfl rfl (fun flag => flag)
      (fun _ => stopped)⟩
  | pass found running =>
    exact ⟨_, valid.quiet (.pass found running) found rfl rfl rfl rfl (fun flag => flag) nofun⟩
  | claim found left =>
    exact ⟨_, valid.claim (.claim found left) found rfl rfl rfl left rfl rfl rfl⟩
  | exhaust found none =>
    exact ⟨_, valid.exhaust (.exhaust found none) found rfl rfl rfl none rfl rfl⟩
  | answer found answered =>
    exact ⟨_, valid.quiet (.answer found answered) found rfl rfl rfl rfl (fun flag => flag) nofun⟩
  | finish found =>
    exact ⟨_, valid.quiet (.finish found) found rfl rfl rfl rfl (fun flag => flag) nofun⟩
  | complete found =>
    exact ⟨_, valid.quiet (.complete found) found rfl rfl rfl rfl (fun flag => flag) nofun⟩
  | skip found =>
    exact ⟨_, valid.quiet (.skip found) found rfl rfl rfl rfl (fun flag => flag) nofun⟩
  | fail found reported =>
    exact ⟨_, valid.quiet (.fail found reported) found rfl rfl rfl rfl (fun _ => rfl) nofun⟩
  | store found =>
    have stopped := stops.failing _ (List.mem_of_getElem? found) rfl
    exact ⟨_, valid.quiet (.store found) found rfl rfl rfl rfl (fun flag => flag)
      (fun _ => stopped)⟩
  | panic found =>
    exact ⟨_, valid.quiet (.panic found) found rfl rfl rfl rfl (fun _ => rfl) (fun _ => rfl)⟩

end ClaimInvariant

theorem claimInvariant_follow (plan : RunPlan σ ω) (workers : Nat) (schedule : List Nat) :
    ∃ attempts, ClaimInvariant plan ((start plan workers).claims plan schedule) attempts
      ((start plan workers).follow plan schedule) := by
  -- from any state, behind the claims made so far
  have onwards (schedule : List Nat) {m : Machine σ ω} {before : List UInt64} {attempts : Nat}
      (stops : StopInvariant m) (valid : ClaimInvariant plan before attempts m) :
      ∃ attempts, ClaimInvariant plan (before ++ m.claims plan schedule) attempts
        (m.follow plan schedule) := by
    induction schedule generalizing m before attempts with
    | nil => exact ⟨attempts, by simpa [claims] using valid⟩
    | cons id rest ih =>
      have step := move_step plan m id
      obtain ⟨later, next⟩ := valid.move stops step
      rw [claims, ← List.append_assoc]
      exact ih (stops.move step) next
  simpa using onwards schedule (stopInvariant_start plan workers)
    (claimInvariant_start plan workers)

section Bounded

omit [Inhabited σ]

/-- As long as the counter does not pass its range, the events claimed are an initial segment. -/
theorem firstEvents_eq (plan : RunPlan σ ω) {attempts : Nat} (room : attempts ≤ 2 ^ 64) :
    firstEvents plan attempts =
      (List.range (min attempts plan.events.toNat)).map UInt64.ofNat := by
  induction attempts with
  | zero => simp [firstEvents]
  | succ attempts ih =>
    have small : (UInt64.ofNat attempts).toNat = attempts := UInt64.toNat_ofNat_of_lt' room
    have inside : UInt64.ofNat attempts < plan.events ↔ attempts < plan.events.toNat := by
      rw [UInt64.lt_iff_toNat_lt, small]
    rw [firstEvents_succ, ih (by omega)]
    by_cases left : attempts < plan.events.toNat
    · rw [if_pos (inside.mpr left), Nat.min_eq_left (by omega), Nat.min_eq_left (by omega),
        List.range_succ, List.map_append]
      rfl
    · rw [if_neg (mt inside.mp left), Nat.min_eq_right (by omega), Nat.min_eq_right (by omega)]
      simp

theorem mem_initialSegment {size : Nat} (room : size ≤ 2 ^ 64) (index : UInt64) :
    index ∈ (List.range size).map UInt64.ofNat ↔ index.toNat < size := by
  constructor
  · intro member
    obtain ⟨n, within, rfl⟩ := List.mem_map.mp member
    have below := List.mem_range.mp within
    rwa [UInt64.toNat_ofNat_of_lt' (Nat.lt_of_lt_of_le below room)]
  · intro below
    exact List.mem_map.mpr ⟨index.toNat, List.mem_range.mpr below, UInt64.ofNat_toNat⟩

theorem nodup_initialSegment {size : Nat} (room : size ≤ 2 ^ 64) :
    ((List.range size).map UInt64.ofNat).Nodup := by
  refine List.Nodup.map_on ?_ List.nodup_range
  intro a first b second same
  have below := Nat.lt_of_lt_of_le (List.mem_range.mp first) room
  have below' := Nat.lt_of_lt_of_le (List.mem_range.mp second) room
  simpa [UInt64.toNat_ofNat_of_lt' below, UInt64.toNat_ofNat_of_lt' below'] using
    congrArg UInt64.toNat same

end Bounded

theorem claims_eq (plan : RunPlan σ ω) {workers : Nat}
    (room : plan.events.toNat + workers ≤ 2 ^ 64) (schedule : List Nat) :
    ∃ size ≤ plan.events.toNat, (start plan workers).claims plan schedule =
      (List.range size).map UInt64.ofNat := by
  obtain ⟨attempts, valid⟩ := claimInvariant_follow plan workers schedule
  have length := length_workers_follow plan workers schedule
  have bound := valid.bounded (by rwa [length])
  have most : ((start plan workers).follow plan schedule).overCount ≤
      ((start plan workers).follow plan schedule).workers.length := List.countP_le_length
  exact ⟨min attempts plan.events.toNat, Nat.min_le_right .., by
    rw [valid.order, firstEvents_eq plan (by omega)]⟩

section Over

omit [Inhabited σ]

theorem inFlight_of_isOver {m : Machine σ ω} (atEnd : m.isOver = true) : m.inFlight = [] := by
  refine List.filterMap_eq_nil_iff.mpr fun worker member => ?_
  have ended := List.all_eq_true.mp atEnd worker member
  cases same : worker.phase <;> simp_all [Phase.isOver, Phase.inside?]

theorem overCount_of_isOver {m : Machine σ ω} (atEnd : m.isOver = true) :
    m.overCount = m.workers.length :=
  List.countP_eq_length.mpr (List.all_eq_true.mp atEnd)

end Over

/-- When all workers are at their end and no event ended in an error or a panic, every event is
finished, whether or not the counter passed its range. -/
theorem mem_finished (plan : RunPlan σ ω) {workers : Nat} (nonempty : 0 < workers)
    (schedule : List Nat) (atEnd : ((start plan workers).follow plan schedule).isOver = true)
    (faultless : ((start plan workers).follow plan schedule).hasFault = false) {index : UInt64}
    (within : index < plan.events) :
    index ∈ ((start plan workers).follow plan schedule).finished := by
  obtain ⟨attempts, valid⟩ := claimInvariant_follow plan workers schedule
  have positive : 0 < ((start plan workers).follow plan schedule).overCount := by
    rwa [overCount_of_isOver atEnd, length_workers_follow]
  have enough : plan.events.toNat ≤ attempts := by
    rcases valid.exhausted positive with stopped | enough
    · have fault := (stopInvariant_follow plan workers schedule).cause stopped
      rw [faultless] at fault
      cases fault
    · exact enough
  have claimed : index ∈ firstEvents plan attempts := by
    refine List.mem_filter.mpr ⟨List.mem_map.mpr ⟨index.toNat, ?_, UInt64.ofNat_toNat⟩, ?_⟩
    · exact List.mem_range.mpr (Nat.lt_of_lt_of_le within enough)
    · simpa using within
  have held := valid.held.mem_iff.mpr (valid.order ▸ claimed)
  rwa [inFlight_of_isOver atEnd, List.nil_append] at held

theorem lt_of_mem_finished (plan : RunPlan σ ω) (workers : Nat) (schedule : List Nat)
    {index : UInt64} (member : index ∈ ((start plan workers).follow plan schedule).finished) :
    index < plan.events := by
  obtain ⟨attempts, valid⟩ := claimInvariant_follow plan workers schedule
  have claimed := valid.held.mem_iff.mp (List.mem_append_right _ member)
  rw [valid.order] at claimed
  simpa using (List.mem_filter.mp claimed).2

/-- As long as the counter cannot pass its range, no event is finished twice. -/
theorem nodup_finished (plan : RunPlan σ ω) {workers : Nat}
    (room : plan.events.toNat + workers ≤ 2 ^ 64) (schedule : List Nat) :
    ((start plan workers).follow plan schedule).finished.Nodup := by
  obtain ⟨size, most, claimed⟩ := claims_eq plan room schedule
  obtain ⟨attempts, valid⟩ := claimInvariant_follow plan workers schedule
  have distinct := nodup_initialSegment (show size ≤ 2 ^ 64 by omega)
  rw [← claimed] at distinct
  exact (List.nodup_append.mp (valid.held.nodup_iff.mpr distinct)).2.1

/-- No interleaving hands an event out twice: the events claimed are distinct and are always the
first events of the run, and they are the ones that workers are inside of or have finished. When
all workers are at their end and no event ended in an error or a panic, each event of the run was
processed once, by one worker. -/
theorem events_claimed_exactly_once (plan : RunPlan σ ω) {workers : Nat} (nonempty : 0 < workers)
    (room : plan.events.toNat + workers ≤ 2 ^ 64) (schedule : List Nat) :
    let claimed := (start plan workers).claims plan schedule
    let m := (start plan workers).follow plan schedule
    claimed.Nodup ∧ (∀ index ∈ claimed, index < plan.events) ∧
      (∃ size ≤ plan.events.toNat, ∀ index : UInt64, index ∈ claimed ↔ index.toNat < size) ∧
      (m.inFlight ++ m.finished).Perm claimed ∧
      (m.isOver = true → m.hasFault = false → ∀ index < plan.events,
        ∃ p, m.processed.filter (·.index == index) = [p]) := by
  obtain ⟨size, most, claimed⟩ := claims_eq plan room schedule
  obtain ⟨attempts, valid⟩ := claimInvariant_follow plan workers schedule
  have held := valid.held
  have inRange : size ≤ 2 ^ 64 := by omega
  simp only [claimed] at held ⊢
  refine ⟨nodup_initialSegment inRange, ?_, ⟨size, most, mem_initialSegment inRange⟩, held, ?_⟩
  · intro index member
    exact Nat.lt_of_lt_of_le ((mem_initialSegment inRange index).mp member) most
  · intro atEnd faultless index within
    have once := List.count_eq_one_of_mem (nodup_finished plan room schedule)
      (mem_finished plan nonempty schedule atEnd faultless within)
    rw [finished, List.count, List.countP_map, List.countP_eq_length_filter] at once
    exact List.length_eq_one_iff.mp once

/-- Two workers that take turns unevenly share three events. -/
theorem two_workers_share_three_events :
    let plan : RunPlan Unit Unit := ⟨[], .empty, .empty, 3, 0⟩
    let schedule := [0, 1, 1, 0, 0, 1, 1, 0, 1, 0, 1, 1, 0, 1, 1, 1]
    let m := (start plan 2).follow plan schedule
    (0 < 2 ∧ plan.events.toNat + 2 ≤ 2 ^ 64) ∧ ((start plan 2).claims plan schedule).Nodup ∧
      (m.isOver = true ∧ m.hasFault = false) ∧
      ∃ p, m.processed.filter (·.index == 2) = [p] := by
  intro plan schedule m
  have nonempty : 0 < 2 := by decide
  have room : plan.events.toNat + 2 ≤ 2 ^ 64 := by decide
  have once := events_claimed_exactly_once plan nonempty room schedule
  have atEnd : m.isOver = true := by decide
  have faultless : m.hasFault = false := by decide
  exact ⟨⟨nonempty, room⟩, once.1, ⟨atEnd, faultless⟩,
    once.2.2.2.2 atEnd faultless 2 (by decide)⟩

end DetectorSim.Machine
