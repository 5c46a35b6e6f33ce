import DetectorSim.Proofs.Run.Exchanges
import DetectorSim.Proofs.Run.Histories
import DetectorSim.Proofs.Run.Memory

/-! The exchanges of a run, event by event. However workers take turns, what is exchanged in a run
is made up of the histories of its events, mixed with each other; what a module may ask in an event
can so be told from what all modules were told in the run. -/

namespace DetectorSim

open Interaction (Exchange)

variable {σ ω : Type} [Inhabited σ]

/-- The exchanges behind the phase of a worker: the history of the event that it is inside of. -/
def Phase.IsToldBy (plan : RunPlan σ ω) :
    Phase σ ω → List (Exchange (passageInterface σ ω)) → Prop
  | .working index rest state, told => plan.Tells index told rest state
  | _, told => told = []

/-- What one module may ask, said of the questions in an event. -/
def PassageQuestion.AskedBy (module : ModuleId) (allowed : EventQuestion σ ω → Prop) :
    PassageQuestion σ ω → Prop
  | .enter .. => True
  | .inside view q => view.module = module → allowed q

/-- What one module is told, said of the answers in an event. -/
def PassageQuestion.ToldTo (module : ModuleId) (known : (q : EventQuestion σ ω) → q.Answer → Prop) :
    (q : PassageQuestion σ ω) → q.Answer → Prop
  | .enter .., _ => True
  | .inside view q, answer => view.module = module → known q answer

namespace Machine

/-- The exchanges so far are those of the events that are finished and of those that workers are
inside of. -/
structure LogInvariant (plan : RunPlan σ ω) (m : Machine σ ω)
    (log : List (Exchange (passageInterface σ ω)))
    (finished : List (Processed ω × List (Exchange (passageInterface σ ω))))
    (inside : List (Worker σ ω × List (Exchange (passageInterface σ ω)))) : Prop where
  processed : finished.map Prod.fst = m.processed
  workers : inside.map Prod.fst = m.workers
  told : ∀ x ∈ finished, plan.Tells x.1.index x.2 (.done x.1.outcome) x.1.state
  telling : ∀ x ∈ inside, x.1.phase.IsToldBy plan x.2
  account : log.Perm (finished.flatMap Prod.snd ++ inside.flatMap Prod.snd)

theorem logInvariant_start (plan : RunPlan σ ω) (workers : Nat) :
    LogInvariant plan (start plan workers) [] []
      ((start plan workers).workers.map fun worker => (worker, [])) where
  processed := rfl
  workers := by
    rw [List.map_map]
    exact List.map_id _
  told := List.forall_mem_nil _
  telling := List.forall_mem_map.mpr (forall_workers_start (by rfl) workers)
  account := by
    rw [List.flatMap_map, List.flatMap_eq_nil_iff.mpr fun _ _ => rfl]
    exact .nil

namespace LogInvariant

variable {plan : RunPlan σ ω} {m after : Machine σ ω} {id : Nat} {worker changed : Worker σ ω}
  {log : List (Exchange (passageInterface σ ω))}
  {finished : List (Processed ω × List (Exchange (passageInterface σ ω)))}
  {inside : List (Worker σ ω × List (Exchange (passageInterface σ ω)))}

private theorem put (valid : LogInvariant plan m log finished inside)
    (found : m.workers[id]? = some worker) (workers : after.workers = m.workers.set id changed)
    (made : List (Exchange (passageInterface σ ω)))
    (goes : ∀ old, worker.phase.IsToldBy plan old →
      ∃ (ended : List (Processed ω × List (Exchange (passageInterface σ ω)))) (new : _),
        after.processed = ended.map Prod.fst ++ m.processed ∧
        (∀ x ∈ ended, plan.Tells x.1.index x.2 (.done x.1.outcome) x.1.state) ∧
        changed.phase.IsToldBy plan new ∧
        (old ++ made).Perm (ended.flatMap Prod.snd ++ new)) :
    ∃ finished inside, LogInvariant plan after (log ++ made) finished inside := by
  obtain ⟨⟨_, old⟩, here, rfl⟩ : ∃ x, inside[id]? = some x ∧ x.1 = worker := by
    rw [← valid.workers, List.getElem?_map, Option.map_eq_some_iff] at found
    exact found
  obtain ⟨ended, new, processed, told, telling, balance⟩ :=
    goes old (valid.telling _ (List.mem_of_getElem? here))
  obtain ⟨within, same⟩ := List.getElem?_eq_some_iff.mp here
  refine ⟨ended ++ finished, inside.set id (changed, new), ?_, ?_, ?_, ?_, ?_⟩
  · rw [List.map_append, valid.processed, processed]
  · rw [List.map_set, valid.workers, workers]
  · exact List.forall_mem_append.mpr ⟨told, valid.told⟩
  · intro x member
    rcases List.mem_or_eq_of_mem_set member with earlier | rfl
    · exact valid.telling x earlier
    · exact telling
  · let elsewhere := (inside.eraseIdx id).flatMap Prod.snd
    have before : (inside.flatMap Prod.snd).Perm (old ++ elsewhere) := by
      have split := (List.getElem_cons_eraseIdx_perm within).symm.flatMap_right Prod.snd
      rwa [same] at split
    have now : ((inside.set id (changed, new)).flatMap Prod.snd).Perm (new ++ elsewhere) :=
      (List.set_perm_cons_eraseIdx within (changed, new)).flatMap_right Prod.snd
    open scoped List in
    calc log ++ made
      _ ~ finished.flatMap Prod.snd ++ (old ++ elsewhere) ++ made :=
        (valid.account.trans (before.append_left _)).append_right made
      _ = finished.flatMap Prod.snd ++ (old ++ (elsewhere ++ made)) := by
        simp only [List.append_assoc]
      _ ~ finished.flatMap Prod.snd ++ (old ++ (made ++ elsewhere)) :=
        (List.perm_append_comm.append_left _).append_left _
      _ = finished.flatMap Prod.snd ++ ((old ++ made) ++ elsewhere) := by
        rw [List.append_assoc]
      _ ~ finished.flatMap Prod.snd ++ ((ended.flatMap Prod.snd ++ new) ++ elsewhere) :=
        (balance.append_right _).append_left _
      _ = finished.flatMap Prod.snd ++ (ended.flatMap Prod.snd ++ (new ++ elsewhere)) := by
        rw [List.append_assoc]
      _ ~ ended.flatMap Prod.snd ++ (finished.flatMap Prod.snd ++ (new ++ elsewhere)) :=
        List.perm_append_comm_assoc ..
      _ ~ ended.flatMap Prod.snd ++ (finished.flatMap Prod.snd ++
          (inside.set id (changed, new)).flatMap Prod.snd) :=
        (now.symm.append_left _).append_left _
      _ = (ended ++ finished).flatMap Prod.snd ++
          (inside.set id (changed, new)).flatMap Prod.snd := by
        rw [List.flatMap_append, List.append_assoc]

private theorem quiet (valid : LogInvariant plan m log finished inside)
    (found : m.workers[id]? = some worker) (asks : worker.phase.exchange? plan m.commons = none)
    (workers : after.workers = m.workers.set id changed) (processed : after.processed = m.processed)
    (outside : ∀ old, worker.phase.IsToldBy plan old → old = [])
    (told : changed.phase.IsToldBy plan []) :
    ∃ finished inside,
      LogInvariant plan after (log ++ (m.exchange? plan id).toList) finished inside := by
  rw [exchange?_found found, asks]
  refine valid.put found workers [] fun old known => ⟨[], [], processed, ?_, told, ?_⟩
  · exact List.forall_mem_nil _
  · rw [outside old known]
    exact .nil

theorem move (fresh : ∀ worker ∈ m.workers, worker.buffer = .new plan.table.size)
    (valid : LogInvariant plan m log finished inside) (move : Move plan m id after) :
    ∃ finished inside,
      LogInvariant plan after (log ++ (m.exchange? plan id).toList) finished inside := by
  cases move with
  | rest atEnd =>
    rw [exchange?_of_isOverAt atEnd]
    exact ⟨finished, inside, (List.append_nil log).symm ▸ valid⟩
  | heed found stopped => exact valid.quiet found rfl rfl rfl (fun _ none => none) rfl
  | pass found running => exact valid.quiet found rfl rfl rfl (fun _ none => none) rfl
  | @claim buffer found left =>
    have clear : buffer = .new plan.table.size := fresh _ (List.mem_of_getElem? found)
    refine valid.quiet found rfl rfl rfl (fun _ none => none) ⟨.refl _, ?_⟩
    rw [clear]
    exact .refl _
  | exhaust found none => exact valid.quiet found rfl rfl rfl (fun _ none => none) rfl
  | @answer buffer index question next state found reply answered =>
    subst answered
    rw [exchange?_found found]
    refine valid.put found rfl _ fun old known => ⟨[], old ++ [⟨question, _⟩], rfl, ?_, ?_, .refl _⟩
    · exact List.forall_mem_nil _
    · exact ⟨known.reaches.trans (.ask _ (.refl _)),
        known.passes.trans (.ask m.commons (.refl _))⟩
  | @finish buffer index outcome state found =>
    rw [exchange?_found found]
    refine valid.put found rfl [] fun old known =>
      ⟨[(⟨id, index, outcome, state⟩, old)], [], rfl, ?_, ?_, ?_⟩
    · exact List.forall_mem_singleton.mpr known
    · rfl
    · simp only [List.flatMap_cons, List.flatMap_nil, List.append_nil]
      exact .refl _
  | complete found => exact valid.quiet found rfl rfl rfl (fun _ none => none) rfl
  | skip found => exact valid.quiet found rfl rfl rfl (fun _ none => none) rfl
  | fail found reported => exact valid.quiet found rfl rfl rfl (fun _ none => none) rfl
  | store found => exact valid.quiet found rfl rfl rfl (fun _ none => none) rfl
  | panic found => exact valid.quiet found rfl rfl rfl (fun _ none => none) rfl

end LogInvariant

theorem logInvariant_follow (plan : RunPlan σ ω) (workers : Nat) (schedule : List Nat) :
    ∃ finished inside, LogInvariant plan ((start plan workers).follow plan schedule)
      ((start plan workers).exchanges plan schedule) finished inside :=
  (follow_logs (fun m log => HistoryInvariant plan m ∧
      ∃ finished inside, LogInvariant plan m log finished inside)
    (fun ⟨histories, _, _, valid⟩ move => ⟨histories.move move, valid.move histories.fresh move⟩)
    schedule
    ⟨historyInvariant_start plan workers, [], _, logInvariant_start plan workers⟩).2

section Events

variable {plan : RunPlan σ ω} {workers : Nat} {schedule : List Nat}

/-- When all workers are at their end, the exchanges of a run are those of its events. -/
theorem exists_histories_of_isOver
    (atEnd : ((start plan workers).follow plan schedule).isOver = true) :
    ∃ finished : List (Processed ω × List (Exchange (passageInterface σ ω))),
      finished.map Prod.fst = ((start plan workers).follow plan schedule).processed ∧
      (∀ x ∈ finished, plan.Tells x.1.index x.2 (.done x.1.outcome) x.1.state) ∧
      ((start plan workers).exchanges plan schedule).Perm (finished.flatMap Prod.snd) := by
  obtain ⟨finished, inside, valid⟩ := logInvariant_follow plan workers schedule
  refine ⟨finished, valid.processed, valid.told, ?_⟩
  have none : inside.flatMap Prod.snd = [] := by
    refine List.flatMap_eq_nil_iff.mpr fun x member => ?_
    have present : x.1 ∈ ((start plan workers).follow plan schedule).workers :=
      valid.workers ▸ List.mem_map.mpr ⟨x, member, rfl⟩
    have ended := List.all_eq_true.mp atEnd x.1 present
    have told := valid.telling x member
    cases same : x.1.phase <;> simp_all [Phase.isOver, Phase.IsToldBy]
  have account := valid.account
  rwa [none, List.append_nil] at account

theorem exchanges_append (m : Machine σ ω) (schedule rest : List Nat) :
    m.exchanges plan (schedule ++ rest) =
      m.exchanges plan schedule ++ (m.follow plan schedule).exchanges plan rest := by
  induction schedule generalizing m with
  | nil => rfl
  | cons id others ih =>
    rw [List.cons_append, exchanges, exchanges, ih, List.append_assoc]
    rfl

/-- What is asked in a run is asked in an event, behind exchanges that are in the run as well. -/
theorem exists_event_of_exchange {x : Exchange (passageInterface σ ω)}
    (made : x ∈ (start plan workers).exchanges plan schedule) :
    ∃ (index : UInt64) (told : List (Exchange (passageInterface σ ω)))
      (next : x.question.Answer → Passage σ ω EventOutcome) (state : EventState ω) (c : Commons σ),
      plan.Tells index told (.ask x.question next) state ∧
      x.answer = (Passage.answers plan.table plan.geometry x.question (state, c)).1 ∧
      ∀ y ∈ told, y ∈ (start plan workers).exchanges plan schedule := by
  obtain ⟨before, id, rest, rfl, asked⟩ := mem_exchanges_iff.mp made
  obtain ⟨buffer, index, question, next, state, found, rfl⟩ := exchange?_eq_some_iff.mp asked
  obtain ⟨finished, inside, valid⟩ := logInvariant_follow plan workers before
  obtain ⟨⟨_, told⟩, member, rfl⟩ : ∃ y ∈ inside, y.1 = _ := by
    have present := List.mem_of_getElem? found
    rw [← valid.workers] at present
    exact List.mem_map.mp present
  refine ⟨index, told, next, state, _, valid.telling _ member, rfl, fun y listed => ?_⟩
  rw [exchanges_append]
  exact List.mem_append_left _ <| valid.account.mem_iff.mpr <|
    List.mem_append_right _ <| List.mem_flatMap.mpr ⟨_, member, listed⟩

/-- A module asks in a run what it may ask as long as it is answered as in the run. -/
theorem own_allowed {i : ReadyModule σ ω} (numbers : (plan.modules.map (·.id)).Nodup)
    (member : i ∈ plan.modules) {known : (q : EventQuestion σ ω) → q.Answer → Prop}
    {allowed : EventQuestion σ ω → Prop}
    (asks : ∀ index, (i.body.run (i.eventView index)).run.OnlyAsksGiven known allowed)
    (answered : ∀ x ∈ ((start plan workers).exchanges plan schedule).filterMap
      (Passage.own? i.id), known x.question x.answer) :
    ∀ x ∈ ((start plan workers).exchanges plan schedule).filterMap (Passage.own? i.id),
      allowed x.question := by
  have through (index : UInt64) : (Passage.through index plan.modules).OnlyAsksGiven
      (PassageQuestion.ToldTo i.id known) (PassageQuestion.AskedBy i.id allowed) := by
    refine Passage.onlyAsksGiven_through (fun _ _ => trivial) fun j listed => ?_
    by_cases same : j.id = i.id
    · cases List.inj_on_of_nodup_map numbers listed member same
      exact ((asks index).told fun q a holds => holds rfl).mono fun q may _ => may
    · exact ((Interaction.onlyAsks_true _).mono fun _ _ own => absurd own same).given
  intro x own
  obtain ⟨view, mine, made⟩ := Passage.mem_own_iff.mp own
  obtain ⟨index, told, next, state, c, tells, _, within⟩ := exists_event_of_exchange made
  have heard : ∀ y ∈ told, y.question.ToldTo i.id known y.answer := by
    rintro ⟨question, answer⟩ listed
    cases question with
    | enter event module => trivial
    | inside view q =>
      intro mine
      exact answered ⟨q, answer⟩ (Passage.mem_own_iff.mpr ⟨view, mine, within _ listed⟩)
  exact ((through index).reaches tells.reaches heard).2.1 mine

end Events

/-- The memory of a module shows the changes among these exchanges. -/
def Remembers (plan : RunPlan σ ω) (module : ModuleId) (m : Machine σ ω)
    (log : List (Exchange (passageInterface σ ω))) : Prop :=
  m.commons.memories[module]? =
    (plan.commons.memories[module]?).map (accumulate (Passage.changes module log))

theorem Remembers.move {plan : RunPlan σ ω} {module : ModuleId} {m after : Machine σ ω} {id : Nat}
    {log : List (Exchange (passageInterface σ ω))} (valid : Remembers plan module m log)
    (move : Move plan m id after) :
    Remembers plan module after (log ++ (m.exchange? plan id).toList) := by
  have quiet {worker : Worker σ ω} (found : m.workers[id]? = some worker)
      (asks : worker.phase.exchange? plan m.commons = none) :
      Remembers plan module m (log ++ (m.exchange? plan id).toList) := by
    rw [exchange?_found found, asks]
    exact (List.append_nil log).symm ▸ valid
  cases move with
  | rest atEnd =>
    rw [exchange?_of_isOverAt atEnd]
    exact (List.append_nil log).symm ▸ valid
  | @answer buffer index question next state found reply answered =>
    subst answered
    have changes : Passage.changes module (log ++ (m.exchange? plan id).toList) =
        Passage.changes module log ++ (question.change? module).toList := by
      rw [exchange?_found found, Passage.changes, List.filterMap_append]
      exact congrArg (_ ++ ·) ((Passage.changes_cons module _ []).trans (List.append_nil _))
    refine (Passage.memory_answers question state m.commons).trans ?_
    rw [changes, show m.commons.memories[module]? = _ from valid, Option.map_map]
    exact congrArg (Option.map · _)
      (funext fun s => (accumulate_append (Passage.changes module log) _ s).symm)
  | fail found reported =>
    subst reported
    exact quiet found rfl
  | heed found _ => exact quiet found rfl
  | pass found _ => exact quiet found rfl
  | claim found _ => exact quiet found rfl
  | exhaust found _ => exact quiet found rfl
  | finish found => exact quiet found rfl
  | complete found => exact quiet found rfl
  | skip found => exact quiet found rfl
  | store found => exact quiet found rfl
  | panic found => exact quiet found rfl

/-- The memory of a module is what its changes in the run leave. -/
theorem remembers_follow (plan : RunPlan σ ω) (module : ModuleId) (workers : Nat)
    (schedule : List Nat) : Remembers plan module ((start plan workers).follow plan schedule)
      ((start plan workers).exchanges plan schedule) :=
  have start : Remembers plan module (start plan workers) [] := Option.map_id'.symm
  follow_logs (Remembers plan module) Remembers.move schedule start

end Machine

end DetectorSim
