import DetectorSim.Proofs.Run.Conversations
import Mathlib.Data.List.Perm.Basic

/-! The memory of a module over a run. If no module looks at its memory, the changes that a module
makes are those of its events taken alone, in an order that depends on the schedule; changes that
commute leave the same memory after every schedule. -/

namespace DetectorSim

open Interaction (Exchange)

variable {σ ω : Type}

/-- The memory after changes. -/
def accumulate (changes : List (σ → σ)) (memory : σ) : σ :=
  changes.foldl (fun memory change => change memory) memory

theorem accumulate_append (changes more : List (σ → σ)) (memory : σ) :
    accumulate (changes ++ more) memory = accumulate more (accumulate changes memory) :=
  List.foldl_append

/-- Changes that commute accumulate to the same memory in every order. -/
theorem accumulate_perm {changes others : List (σ → σ)} (same : changes.Perm others)
    (commute : ∀ f ∈ changes, ∀ g ∈ changes, ∀ memory, f (g memory) = g (f memory))
    (memory : σ) : accumulate changes memory = accumulate others memory :=
  same.foldl_eq' (fun f first g second memory => (commute f first g second memory).symm) memory

/-- The change of its memory that a question of a module asks for. -/
def PassageQuestion.change? (module : ModuleId) : PassageQuestion σ ω → Option (σ → σ)
  | .inside view (.update change) => if view.module = module then some change else none
  | _ => none

/-- The changes of its memory that a module asks for. -/
def Passage.changes (module : ModuleId) (exchanges : List (Exchange (passageInterface σ ω))) :
    List (σ → σ) :=
  exchanges.filterMap (·.question.change? module)

/-- The change of memory that a question of a running module asks for. -/
def EventQuestion.change? : EventQuestion σ ω → Option (σ → σ)
  | .update change => some change
  | _ => none

theorem Passage.changes_eq_own (module : ModuleId)
    (exchanges : List (Exchange (passageInterface σ ω))) :
    changes module exchanges = (exchanges.filterMap (own? module)).filterMap fun x =>
      EventQuestion.change? x.question := by
  rw [changes, List.filterMap_filterMap]
  refine List.filterMap_congr fun x _ => ?_
  obtain ⟨question, answer⟩ := x
  cases question with
  | enter event asked => rfl
  | inside view q =>
    by_cases mine : view.module = module
    · rw [own?, if_pos mine]
      cases q with
      | update change => exact if_pos mine
      | _ => rfl
    · rw [own?, if_neg mine]
      cases q with
      | update change => exact if_neg mine
      | _ => rfl

theorem Passage.changes_cons (module : ModuleId) (x : Exchange (passageInterface σ ω))
    (rest : List (Exchange (passageInterface σ ω))) :
    changes module (x :: rest) =
      (PassageQuestion.change? module x.question).toList ++ changes module rest := by
  rw [changes, List.filterMap_cons]
  cases PassageQuestion.change? module x.question <;> rfl

theorem RunPlan.memory_of_mem {plan : RunPlan σ ω}
    (ids : plan.modules.map (·.id) = List.range plan.modules.length) {i : ReadyModule σ ω}
    (member : i ∈ plan.modules) : plan.commons.memories[i.id]? = some i.body.memory := by
  obtain ⟨place, found⟩ := List.mem_iff_getElem?.mp member
  have number : place = i.id := by
    have listed := congrArg (·[place]?) ids
    obtain ⟨within, _⟩ := List.getElem?_eq_some_iff.mp found
    rw [List.getElem?_map, found, List.getElem?_range within] at listed
    exact (Option.some.inj listed).symm
  rw [commons, List.getElem?_map, ← number, found, Option.map_some]

variable [Inhabited σ]

namespace Passage

variable {table : SubscriptionTable ω} {geometry : Geometry} {module : ModuleId}

/-- The memory of a module changes as it asks, and in no other way. -/
theorem memory_answers (q : PassageQuestion σ ω) (e : EventState ω) (c : Commons σ) :
    (answers table geometry q (e, c)).2.2.memories[module]? =
      (c.memories[module]?).map (accumulate (q.change? module).toList) := by
  have kept : c.memories[module]? = (c.memories[module]?).map (accumulate []) :=
    Option.map_id'.symm
  cases q with
  | enter event asked =>
    simp only [answers]
    split <;> exact kept
  | inside view q =>
    cases q with
    | update change =>
      change (c.memories.modify view.module change)[module]? = _
      rw [List.getElem?_modify, PassageQuestion.change?]
      split <;> rfl
    | dispatch topic message =>
      refine Eq.trans ?_ kept
      simp only [answers, Commons.after, Commons.undelivered]
      split
      · split <;> rfl
      · rfl
    | _ => exact kept

/-- The changes that a blind passage asks for do not depend on what workers share. -/
theorem changes_of_blind {p : Passage σ ω EventOutcome}
    (blind : p.Ignores PassageQuestion.asksMemory) (e : EventState ω) (c c' : Commons σ) :
    changes module (p.asked (answers table geometry) (e, c)) =
      changes module (p.asked (answers table geometry) (e, c')) := by
  have same := Interaction.questions_of_ignores blind (@answers_shown _ _ _ table geometry)
    (@answers_visible _ _ _ table geometry) e c c'
  let change : (passageInterface σ ω).Question → Option (σ → σ) := PassageQuestion.change? module
  have asked := congrArg (List.filterMap change) same
  rw [List.filterMap_map, List.filterMap_map] at asked
  exact asked

end Passage

/-- The changes that a worker has yet to ask for in its event. -/
def Phase.pending (plan : RunPlan σ ω) (module : ModuleId) : Phase σ ω → List (σ → σ)
  | .working _ rest state =>
    Passage.changes module (rest.asked (Passage.answers plan.table plan.geometry)
      (state, plan.commons))
  | _ => []

/-- The changes of a module in an event that is taken alone. -/
def RunPlan.changes (plan : RunPlan σ ω) (module : ModuleId) (index : UInt64) : List (σ → σ) :=
  Passage.changes module (plan.conversation index)

namespace Machine

/-- The memory of a module shows all changes of the events claimed so far, but for those that are
still to come. -/
def MemoryInvariant (plan : RunPlan σ ω) (module : ModuleId) (m : Machine σ ω) : Prop :=
  ∃ made, m.commons.memories[module]? =
      (plan.commons.memories[module]?).map (accumulate made) ∧
    (made ++ m.workers.flatMap (·.phase.pending plan module)).Perm
      ((m.inFlight ++ m.finished).flatMap (plan.changes module))

theorem memoryInvariant_start (plan : RunPlan σ ω) (module : ModuleId) (workers : Nat) :
    MemoryInvariant plan module (start plan workers) := by
  refine ⟨[], Option.map_id'.symm, ?_⟩
  have pending : (start plan workers).workers.flatMap (·.phase.pending plan module) = [] :=
    List.flatMap_eq_nil_iff.mpr (forall_workers_start (by rfl) workers)
  have inside : (start plan workers).inFlight = [] :=
    List.filterMap_eq_nil_iff.mpr (forall_workers_start (by rfl) workers)
  rw [pending, inside]
  exact .refl _

namespace MemoryInvariant

variable {plan : RunPlan σ ω} {module : ModuleId} {m after : Machine σ ω} {id : Nat}

/-- A worker keeps the invariant if it makes and leaves what was pending or comes with the event
that it enters. -/
theorem put {worker changed : Worker σ ω} (valid : MemoryInvariant plan module m)
    (move : Move plan m id after) (new : List (σ → σ)) (found : m.workers[id]? = some worker)
    (workers : after.workers = m.workers.set id changed)
    (memory : after.commons.memories[module]? =
      (m.commons.memories[module]?).map (accumulate new))
    (balance : new ++ changed.phase.pending plan module = worker.phase.pending plan module ++
      (if worker.phase.inside?.isSome then none else changed.phase.inside?).toList.flatMap
        (plan.changes module)) : MemoryInvariant plan module after := by
  rw [← entered_put found workers] at balance
  obtain ⟨made, remembered, account⟩ := valid
  refine ⟨made ++ new, ?_, ?_⟩
  · rw [memory, remembered, Option.map_map]
    exact congrArg (Option.map · _) (funext fun s => (accumulate_append made new s).symm)
  · let elsewhere := (m.others id).flatMap (·.phase.pending plan module)
    let entered := (m.entered after id).toList.flatMap (plan.changes module)
    have old : (m.workers.flatMap (·.phase.pending plan module)).Perm
        (worker.phase.pending plan module ++ elsewhere) :=
      (workers_perm found).flatMap_right _
    have now : (after.workers.flatMap (·.phase.pending plan module)).Perm
        (changed.phase.pending plan module ++ elsewhere) := by
      rw [workers]
      exact (put_workers_perm found changed).flatMap_right _
    open scoped List in
    calc made ++ new ++ after.workers.flatMap (·.phase.pending plan module)
      _ ~ made ++ new ++ (changed.phase.pending plan module ++ elsewhere) := now.append_left _
      _ = made ++ (worker.phase.pending plan module ++ entered ++ elsewhere) := by
        rw [← balance]
        simp only [List.append_assoc]
      _ ~ entered ++ (made ++ (worker.phase.pending plan module ++ elsewhere)) := by
        simpa only [List.append_assoc] using List.perm_append_comm_assoc
          (made ++ worker.phase.pending plan module) entered elsewhere
      _ ~ entered ++ (made ++ m.workers.flatMap (·.phase.pending plan module)) :=
        (old.symm.append_left _).append_left _
      _ ~ entered ++ (m.inFlight ++ m.finished).flatMap (plan.changes module) :=
        account.append_left _
      _ = ((m.entered after id).toList ++ (m.inFlight ++ m.finished)).flatMap
          (plan.changes module) := List.flatMap_append.symm
      _ ~ (after.inFlight ++ after.finished).flatMap (plan.changes module) :=
        (held_move move).symm.flatMap_right _

theorem move (alone : IndependenceInvariant plan m)
    (valid : MemoryInvariant plan module m) (move : Move plan m id after) :
    MemoryInvariant plan module after := by
  have kept : m.commons.memories[module]? = (m.commons.memories[module]?).map (accumulate []) :=
    Option.map_id'.symm
  cases move with
  | rest atEnd => exact valid
  | heed found stopped => exact valid.put (.heed found stopped) [] found rfl kept rfl
  | pass found running => exact valid.put (.pass found running) [] found rfl kept rfl
  | @claim buffer found left =>
    have fresh : buffer = .new plan.table.size := alone.fresh _ (List.mem_of_getElem? found)
    refine valid.put (.claim found left) [] found rfl kept ?_
    rw [fresh]
    exact (List.append_nil _).symm
  | exhaust found none => exact valid.put (.exhaust found none) [] found rfl kept rfl
  | @answer buffer index question next state found reply answered =>
    obtain ⟨ignores, _⟩ := alone.inside _ (List.mem_of_getElem? found)
    let answers := Passage.answers (σ := σ) plan.table plan.geometry
    refine valid.put (.answer found answered) (question.change? module).toList found rfl ?_ ?_
    · rw [answered]
      exact Passage.memory_answers question state m.commons
    · calc (question.change? module).toList ++
          Passage.changes module ((next reply.1).asked answers (reply.2.1, plan.commons))
        _ = (question.change? module).toList ++
            Passage.changes module ((next reply.1).asked answers (reply.2.1, reply.2.2)) :=
          congrArg _ (Passage.changes_of_blind (ignores.2 _) _ _ _)
        _ = Passage.changes module
            (Interaction.asked answers (.ask question next) (state, m.commons)) := by
          rw [answered]
          exact (Passage.changes_cons module ⟨question, _⟩ _).symm
        _ = Passage.changes module
            (Interaction.asked answers (.ask question next) (state, plan.commons)) :=
          Passage.changes_of_blind ignores _ _ _
        _ = _ := (List.append_nil _).symm
  | finish found => exact valid.put (.finish found) [] found rfl kept rfl
  | complete found => exact valid.put (.complete found) [] found rfl kept rfl
  | skip found => exact valid.put (.skip found) [] found rfl kept rfl
  | fail found reported =>
    refine valid.put (.fail found reported) [] found rfl ?_ rfl
    rw [reported]
    exact kept
  | store found => exact valid.put (.store found) [] found rfl kept rfl
  | panic found => exact valid.put (.panic found) [] found rfl kept rfl

end MemoryInvariant

theorem memoryInvariant_follow (plan : RunPlan σ ω) (blind : ∀ i ∈ plan.modules, i.body.IsBlind)
    (module : ModuleId) (workers : Nat) (schedule : List Nat) :
    MemoryInvariant plan module ((start plan workers).follow plan schedule) :=
  (follow_keeps (fun m => IndependenceInvariant plan m ∧ MemoryInvariant plan module m)
    (fun valid move => ⟨valid.1.move blind move, valid.2.move valid.1 move⟩) schedule
    ⟨independenceInvariant_start plan workers, memoryInvariant_start plan module workers⟩).2

/-- When all workers are at their end and no event ended in an error or a panic, each event was
finished once. -/
theorem finished_perm (plan : RunPlan σ ω) {workers : Nat} (nonempty : 0 < workers)
    (room : plan.events.toNat + workers ≤ 2 ^ 64) (schedule : List Nat)
    (atEnd : ((start plan workers).follow plan schedule).isOver = true)
    (faultless : ((start plan workers).follow plan schedule).hasFault = false) :
    ((start plan workers).follow plan schedule).finished.Perm plan.indices := by
  have inRange : plan.events.toNat ≤ 2 ^ 64 := Nat.le_of_lt plan.events.toNat_lt
  refine (List.perm_ext_iff_of_nodup (nodup_finished plan room schedule)
    (nodup_initialSegment inRange)).mpr fun index => ?_
  rw [mem_initialSegment inRange]
  exact ⟨lt_of_mem_finished plan workers schedule,
    mem_finished plan nonempty schedule atEnd faultless⟩

/-- If no module looks at its memory and the changes of a module commute, then a run without errors
and panics leaves it the memory of one event after the other. -/
theorem memory_of_isOver (plan : RunPlan σ ω) (blind : ∀ i ∈ plan.modules, i.body.IsBlind)
    (module : ModuleId)
    (commute : ∀ index index', ∀ f ∈ plan.changes module index,
      ∀ g ∈ plan.changes module index', ∀ memory, f (g memory) = g (f memory))
    {workers : Nat} (nonempty : 0 < workers) (room : plan.events.toNat + workers ≤ 2 ^ 64)
    (schedule : List Nat)
    (atEnd : ((start plan workers).follow plan schedule).isOver = true)
    (faultless : ((start plan workers).follow plan schedule).hasFault = false) :
    ((start plan workers).follow plan schedule).commons.memories[module]? =
      (plan.commons.memories[module]?).map
        (accumulate (plan.indices.flatMap (plan.changes module))) := by
  obtain ⟨made, remembered, account⟩ := memoryInvariant_follow plan blind module workers schedule
  have none : ((start plan workers).follow plan schedule).workers.flatMap
      (·.phase.pending plan module) = [] := by
    refine List.flatMap_eq_nil_iff.mpr fun worker member => ?_
    have ended := List.all_eq_true.mp atEnd worker member
    cases same : worker.phase <;> simp_all [Phase.isOver, Phase.pending]
  rw [none, List.append_nil, inFlight_of_isOver atEnd, List.nil_append] at account
  have all := account.trans
    ((finished_perm plan nonempty room schedule atEnd faultless).flatMap_right _)
  rw [remembered]
  refine congrArg (Option.map · _) (funext (accumulate_perm all ?_))
  intro f first g second
  obtain ⟨index, _, first⟩ := List.mem_flatMap.mp (all.mem_iff.mp first)
  obtain ⟨index', _, second⟩ := List.mem_flatMap.mp (all.mem_iff.mp second)
  exact commute index index' f first g second

end Machine

end DetectorSim
