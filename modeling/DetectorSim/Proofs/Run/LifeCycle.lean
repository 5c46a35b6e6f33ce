import DetectorSim.Proofs.Pipeline.Preparation
import DetectorSim.Proofs.Run.Completion
import DetectorSim.Proofs.Run.Passages

/-! The calls to modules over the life of a simulation. A run adds calls for the modules that its
events entered and nothing else; finalization adds one for each module. -/

namespace DetectorSim

variable {σ ω : Type}

/-- The calls that are made for an event. -/
def EventState.runs (e : EventState ω) (index : UInt64) : List ModuleCall :=
  e.entered.map (.run index)

/-- The calls that were made for the event that a worker is inside of. -/
def Phase.runs : Phase σ ω → List ModuleCall
  | .working index _ state => state.runs index
  | _ => []

/-- The calls that were made for a processed event. -/
def Processed.runs (p : Processed ω) : List ModuleCall :=
  p.state.runs p.index

/-- A worker inside of an event goes through the modules in order. -/
def Phase.IsOrderly (plan : RunPlan σ ω) : Phase σ ω → Prop
  | .working index rest state => ∃ last ahead, state.Stands plan.modules last ahead ∧
      rest.Follows index last ahead
  | _ => True

/-- A processed event went through the modules in order, and its outcome is due to the last one that
ran. -/
def Processed.IsOrderly (plan : RunPlan σ ω) (p : Processed ω) : Prop :=
  ∃ last ahead, p.state.Stands plan.modules last ahead ∧ p.outcome.IsDueTo p.index last ahead

namespace Machine

/-- All events go through the modules in order, and the calls are those made for them. -/
structure OrderInvariant (plan : RunPlan σ ω) (m : Machine σ ω) : Prop where
  inside : ∀ worker ∈ m.workers, worker.phase.IsOrderly plan
  processed : ∀ p ∈ m.processed, p.IsOrderly plan
  calls : m.commons.calls.Perm
    (m.workers.flatMap (·.phase.runs) ++ m.processed.flatMap Processed.runs)

theorem orderInvariant_start (plan : RunPlan σ ω) (workers : Nat) :
    OrderInvariant plan (start plan workers) where
  inside := forall_workers_start trivial workers
  processed p present := nomatch present
  calls := by
    have none : (start plan workers).workers.flatMap (·.phase.runs) = [] := by
      refine List.flatMap_eq_nil_iff.mpr fun worker member => ?_
      rw [List.eq_of_mem_replicate member]
      rfl
    rw [none]
    exact .nil

namespace OrderInvariant

variable {plan : RunPlan σ ω} {m after : Machine σ ω} {id : Nat} {worker changed : Worker σ ω}

private theorem put (valid : OrderInvariant plan m) (found : m.workers[id]? = some worker)
    (workers : after.workers = m.workers.set id changed) (inside : changed.phase.IsOrderly plan)
    (processed : ∀ p ∈ after.processed, p.IsOrderly plan)
    (calls : (after.commons.calls ++ worker.phase.runs ++ m.processed.flatMap Processed.runs).Perm
      (m.commons.calls ++ changed.phase.runs ++ after.processed.flatMap Processed.runs)) :
    OrderInvariant plan after where
  inside := forall_workers_put valid.inside workers inside
  processed := processed
  calls := by
    -- by the number of each call, as the worker may stand anywhere among the others
    refine List.perm_iff_count.mpr fun call => ?_
    have old := ((workers_perm found).flatMap_right (·.phase.runs)).count_eq call
    have new := ((put_workers_perm found changed).flatMap_right (·.phase.runs)).count_eq call
    have before := valid.calls.count_eq call
    have added := calls.count_eq call
    rw [← workers] at new
    simp only [List.flatMap_cons, List.count_append] at old new before added ⊢
    omega

private theorem quiet (valid : OrderInvariant plan m) (found : m.workers[id]? = some worker)
    (workers : after.workers = m.workers.set id changed)
    (outside : worker.phase.runs = []) (unentered : changed.phase.runs = [])
    (inside : changed.phase.IsOrderly plan) (processed : after.processed = m.processed)
    (calls : after.commons.calls = m.commons.calls) : OrderInvariant plan after := by
  refine valid.put found workers inside (processed ▸ valid.processed) ?_
  rw [outside, unentered, processed, calls]

variable [Inhabited σ]

theorem move (valid : OrderInvariant plan m) (move : Move plan m id after) :
    OrderInvariant plan after := by
  cases move with
  | rest atEnd => exact valid
  | heed found stopped => exact valid.quiet found rfl rfl rfl trivial rfl rfl
  | pass found running => exact valid.quiet found rfl rfl rfl trivial rfl rfl
  | claim found left =>
    refine valid.quiet found rfl rfl rfl ?_ rfl rfl
    exact ⟨none, plan.modules, ⟨⟨[], rfl, .slnil, nofun⟩, rfl⟩, Passage.through_follows _ _ none⟩
  | exhaust found none => exact valid.quiet found rfl rfl rfl trivial rfl rfl
  | @answer buffer index question next state found reply answered =>
    obtain ⟨last, ahead, stands, follows⟩ := valid.inside _ (List.mem_of_getElem? found)
    obtain ⟨inside, entered, calls⟩ := follows.answer stands m.commons
    rw [← answered] at inside entered calls
    refine valid.put found rfl inside valid.processed (.append_right _ ?_)
    change (reply.2.2.calls ++ state.runs index).Perm (m.commons.calls ++ reply.2.1.runs index)
    rw [calls, EventState.runs, EventState.runs, entered, List.map_append, List.append_assoc,
      ← List.append_assoc m.commons.calls]
    exact List.perm_append_comm
  | finish found =>
    obtain ⟨last, ahead, stands, follows⟩ := valid.inside _ (List.mem_of_getElem? found)
    refine valid.put found rfl trivial ?_ ?_
    · intro p present
      rcases List.mem_cons.mp present with rfl | earlier
      · exact ⟨last, ahead, stands, follows⟩
      · exact valid.processed p earlier
    · change List.Perm _ (_ ++ [] ++ (_ ++ _))
      rw [List.append_nil, ← List.append_assoc]
      rfl
  | complete found => exact valid.quiet found rfl rfl rfl trivial rfl rfl
  | skip found => exact valid.quiet found rfl rfl rfl trivial rfl rfl
  | fail found reported =>
    subst reported
    exact valid.quiet found rfl rfl rfl trivial rfl rfl
  | store found => exact valid.quiet found rfl rfl rfl trivial rfl rfl
  | panic found => exact valid.quiet found rfl rfl rfl trivial rfl rfl

end OrderInvariant

variable [Inhabited σ]

theorem orderInvariant_follow (plan : RunPlan σ ω) (workers : Nat) (schedule : List Nat) :
    OrderInvariant plan ((start plan workers).follow plan schedule) :=
  follow_keeps (OrderInvariant plan) OrderInvariant.move schedule
    (orderInvariant_start plan workers)

omit [Inhabited σ] in
/-- When all workers are at their end, the calls are those made for the processed events. -/
theorem OrderInvariant.calls_of_isOver {plan : RunPlan σ ω} {m : Machine σ ω}
    (valid : OrderInvariant plan m) (atEnd : m.isOver = true) :
    m.commons.calls.Perm (m.processed.flatMap Processed.runs) := by
  have none : m.workers.flatMap (·.phase.runs) = [] := by
    refine List.flatMap_eq_nil_iff.mpr fun worker member => ?_
    have ended := List.all_eq_true.mp atEnd worker member
    cases same : worker.phase <;> simp_all [Phase.isOver, Phase.runs]
  have calls := valid.calls
  rwa [none, List.nil_append] at calls

end Machine

theorem answerEnd_keeps {τ : Type} (module : String) (q : EndQuestion ω) (e : Ending ω)
    (answers : Interaction.Answers fileInterface τ) (files : τ) :
    (((answerEnd module q).run e).run answers files).1.2.calls = e.calls := by
  cases q <;> rfl

variable [Inhabited σ]

/-- Every module is finalized once, in order, whatever the others return. -/
theorem finalizeAll_calls {τ : Type} (memories : List σ) (modules : List (ReadyModule σ ω))
    (e : Ending ω) (answers : Interaction.Answers fileInterface τ) (files : τ) :
    ∃ errors : List (Option ModuleError), errors.length = modules.length ∧
      (((finalizeAll memories modules).run e).run answers files).1.2.calls =
        e.calls ++ List.zipWith .finalize (modules.map (·.id)) errors := by
  induction modules generalizing e files with
  | nil => exact ⟨[], rfl, (List.append_nil _).symm⟩
  | cons i rest ih =>
    have kept := Interaction.interpret_keeps (·.calls = e.calls)
      (fun q s outer same =>
        (answerEnd_keeps i.identifier.display q s answers outer).trans same)
      (i.body.finalize (memories.getD i.id default)).run e files rfl
    simp only [finalizeAll, StateT.run_bind, Interaction.run_bind]
    generalize (((i.body.finalize (memories.getD i.id default)).run.interpret
      (answerEnd i.identifier.display)).run e).run answers files = ended at kept ⊢
    obtain ⟨⟨outcome, b⟩, files⟩ := ended
    -- the others are finalized whatever this module returned
    have onwards (error : Option ModuleError) (reports : List Report) :
        ∃ errors, errors.length = (i :: rest).length ∧ (((finalizeAll memories rest).run
          ⟨b.notes, reports, b.calls ++ [.finalize i.id error]⟩).run answers files).1.2.calls =
            e.calls ++ List.zipWith .finalize ((i :: rest).map (·.id)) errors := by
      obtain ⟨errors, length, calls⟩ :=
        ih ⟨b.notes, reports, b.calls ++ [.finalize i.id error]⟩ files
      refine ⟨error :: errors, congrArg (· + 1) length, ?_⟩
      rw [calls, show b.calls = e.calls from kept, List.append_assoc]
      rfl
    cases outcome with
    | ok _ => exact onwards none b.reports
    | error fault => exact onwards (some fault) _

namespace Simulation

open Machine

/-- Concluding a run leaves the calls of the run and behind them one finalization of each module. -/
theorem conclude_calls {τ : Type} (s : Simulation σ ω) (m : Machine σ ω)
    (answers : Interaction.Answers fileInterface τ) (files : τ) :
    ∃ errors : List (Option ModuleError), errors.length = s.modules.length ∧
      ((s.conclude m).run answers files).1.calls =
        m.commons.calls.reverse ++ List.zipWith .finalize (s.modules.map (·.id)) errors := by
  obtain ⟨errors, length, calls⟩ :=
    finalizeAll_calls m.commons.memories s.modules ⟨[], [], []⟩ answers files
  refine ⟨errors, length, ?_⟩
  rw [conclude, Interaction.run_bind]
  exact congrArg (m.commons.calls.reverse ++ ·) calls

/-- The order of calls over the life of a simulation, whatever modules return. They are constructed
in order up to the first error; only if there is none, they are initialized in order up to the first
error, which is the one returned. Only then do events run, each through the modules in order. Every
run can come to its end, and behind the last call of its events each module is finalized once, in
order, whatever finalizations return. -/
theorem calls_follow_life_cycle {τ : Type} (registry : Registry σ ω) (config : Config.RunConfig)
    (given : Option Geometry) (processors : Nat) (geometry : Geometry)
    (answers : Interaction.Answers fileInterface τ) (files : τ) :
    let ended :=
      (prepare registry config given processors).resultFrom (.start geometry) answers files
    (∀ e, ended.1 = .error e → Unprepared registry config [] e ended.2) ∧
    ∀ s, ended.1 = .ok s →
      let n := s.modules.length
      (∃ parts,
        List.Forall₂ (Config.Section.Expands registry ended.2.geometry) config.modules parts ∧
        List.Forall₂ Instance.Fills s.modules parts.flatten) ∧
      s.modules.map (·.id) = List.range n ∧
      ended.2.calls = stageCalls .construct n none ++ stageCalls .init n none ∧
      (∃ schedule, s.run = s.conclude ((start s.plan s.workers).follow s.plan schedule) ∧
        ((start s.plan s.workers).follow s.plan schedule).isOver = true) ∧
      ∀ schedule,
        let m := (start s.plan s.workers).follow s.plan schedule
        (∀ worker ∈ m.workers, ∀ index rest state, worker.phase = .working index rest state →
          state.entered.Sublist (List.range n)) ∧
        (∀ p ∈ m.processed, p.state.entered.Sublist (List.range n)) ∧
        (∃ more, (m.follow s.plan more).isOver = true) ∧
        (m.isOver = true → ∀ {υ : Type} (answers : Interaction.Answers fileInterface υ) (files : υ),
          ∃ runs errors, runs.Perm (m.processed.flatMap Processed.runs) ∧ errors.length = n ∧
            ((s.conclude m).run answers files).1.calls =
              runs ++ List.zipWith .finalize (List.range n) errors) := by
  intro ended
  have leads := prepare_leads registry config given processors (.start geometry)
  refine ⟨fun e failed => leads.error failed, fun s prepared => ?_⟩
  have ready := leads.ok prepared
  intro n
  refine ⟨ready.filled, ready.ids, ready.calls, ?_, fun schedule => ?_⟩
  · obtain ⟨schedule, same, atEnd⟩ := exists_complete s.plan s.workers
    exact ⟨schedule, congrArg s.conclude same, atEnd⟩
  · intro m
    have valid := orderInvariant_follow s.plan s.workers schedule
    have ordered {e : EventState ω} {last ahead} (stands : e.Stands s.plan.modules last ahead) :
        e.entered.Sublist (List.range n) := by
      obtain ⟨past, split, sublist, _⟩ := stands.behind
      rw [← ready.ids, show s.modules = past ++ ahead from split, List.map_append]
      exact sublist.trans (List.sublist_append_left ..)
    refine ⟨?_, ?_, exists_isOver s.plan m, ?_⟩
    · intro worker member index rest state inside
      have orderly := valid.inside worker member
      rw [inside] at orderly
      obtain ⟨last, ahead, stands, _⟩ := orderly
      exact ordered stands
    · intro p present
      obtain ⟨last, ahead, stands, _⟩ := valid.processed p present
      exact ordered stands
    · intro atEnd υ answers files
      obtain ⟨errors, length, calls⟩ := s.conclude_calls m answers files
      refine ⟨m.commons.calls.reverse, errors, ?_, length, ready.ids ▸ calls⟩
      exact (List.reverse_perm _).trans (valid.calls_of_isOver atEnd)

/-- A module that skips the second event, panics in the third and cannot be finalized. -/
private def unsteady : Module Unit Unit where
  memory := ()
  run := fun view =>
    if view.index = 1 then EventProgram.fail (.skip "later")
    else if view.index = 2 then .panic
    else pure ()
  finalize := fun _ => throw (.fatal "lost")

private def steady : Module Unit Unit :=
  ⟨(), fun _ => pure (), fun _ => pure ()⟩

/-- Types of modules of which the last one cannot be initialized. -/
private def lifeTypes : Registry Unit Unit :=
  ⟨[⟨"Unsteady", .global, true, fun _ => pure unsteady.blueprint⟩,
    ⟨"Steady", .global, true, fun _ => pure steady.blueprint⟩,
    ⟨"Refusing", .global, true, fun _ => pure ⟨fun _ => throw (.fatal "no")⟩⟩]⟩

private def threeEvents (modules : List String) : Config.RunConfig where
  globals := ((Config.Section.new Config.globalName none).set "number_of_events" "3").set
    "random_seed" "7"
  modules := modules.map fun name => .new name none

/-- Skips, panics and failed finalizations do not change the order of calls, and a module that
cannot be initialized is the last one that is called. -/
theorem faults_keep_the_life_cycle :
    let prepared := (prepare lifeTypes (threeEvents ["Unsteady", "Steady"]) none 2).resultFrom
      (.start .empty) FileTree.answers ⟨[]⟩
    let failed := (prepare lifeTypes (threeEvents ["Steady", "Refusing", "Unsteady"]) none
      2).resultFrom (.start .empty) FileTree.answers ⟨[]⟩
    (∃ s, prepared.1 = .ok s ∧ s.workers = 2 ∧
      prepared.2.calls = stageCalls .construct 2 none ++ stageCalls .init 2 none ∧
      ∃ schedule runs errors,
        let m := (start s.plan s.workers).follow s.plan schedule
        m.isOver = true ∧ runs.Perm (m.processed.flatMap Processed.runs) ∧ errors.length = 2 ∧
          (s.run.run FileTree.answers ⟨[]⟩).1.calls =
            runs ++ List.zipWith .finalize (List.range 2) errors ∧
          (s.run.run FileTree.answers ⟨[]⟩).1.calls =
            [.run 0 0, .run 0 1, .run 1 0, .run 2 0, .finalize 0 (some (.fatal "lost")),
              .finalize 1 none]) ∧
      failed.1.map (·.workers) = .error (.initialization "Refusing" (.fatal "no")) ∧
      Unprepared lifeTypes (threeEvents ["Steady", "Refusing", "Unsteady"]) []
        (.initialization "Refusing" (.fatal "no")) failed.2 := by
  intro prepared failed
  obtain ⟨s, made⟩ : ∃ s, prepared.1 = .ok s := ⟨_, rfl⟩
  have known : prepared.1.map (fun s => (s.modules.length, s.workers,
      (s.run.run FileTree.answers ⟨[]⟩).1.calls)) = .ok (2, 2, [.run 0 0, .run 0 1, .run 1 0,
        .run 2 0, .finalize 0 (some (.fatal "lost")), .finalize 1 none]) := rfl
  rw [made, Except.map, Except.ok.injEq, Prod.mk.injEq, Prod.mk.injEq] at known
  obtain ⟨count, workers, calls⟩ := known
  have order := (calls_follow_life_cycle lifeTypes (threeEvents ["Unsteady", "Steady"]) none 2
    .empty FileTree.answers ⟨[]⟩).2 s made
  rw [count] at order
  obtain ⟨_, _, setup, ⟨schedule, ran, atEnd⟩, runs⟩ := order
  obtain ⟨_, _, _, concluded⟩ := runs schedule
  obtain ⟨calledRuns, errors, perm, length, whole⟩ := concluded atEnd FileTree.answers ⟨[]⟩
  refine ⟨⟨s, made, workers, setup, schedule, calledRuns, errors, atEnd, perm, length, ?_, calls⟩,
    rfl, ?_⟩
  · rw [ran, whole]
  · exact (calls_follow_life_cycle lifeTypes
      (threeEvents ["Steady", "Refusing", "Unsteady"]) none 2 .empty FileTree.answers ⟨[]⟩).1 _ rfl

end Simulation

end DetectorSim
