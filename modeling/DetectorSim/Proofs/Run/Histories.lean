import DetectorSim.Proofs.Message.Fetching
import DetectorSim.Proofs.Run.Independence
import DetectorSim.Proofs.Run.Passages
import DetectorSim.Proofs.Run.Questions

/-! The history of an event. Between two exchanges of an event other workers may change anything
that is shared; what belongs to the event, its messages and the modules that have run, is known from its
own exchanges. -/

namespace DetectorSim

open Interaction (Exchange)

variable {σ ω : Type}

/-- The dispatch that an exchange of a passage is. -/
def Passage.dispatch? : Exchange (passageInterface σ ω) → Option Dispatch
  | ⟨.inside view (.dispatch topic message), _⟩ => some ⟨view.origin, ⟨topic, message⟩⟩
  | _ => none

/-- The module that an exchange of a passage lets in. -/
def Passage.entered? : Exchange (passageInterface σ ω) → Option ModuleId
  | ⟨.enter _ module, entered⟩ =>
    let entered : Bool := entered
    if entered then some module else none
  | _ => none

namespace EventState

variable [Inhabited σ]

/-- With these exchanges an event comes from one state to another, whatever is shared at each. -/
inductive Passes (table : SubscriptionTable ω) (geometry : Geometry) :
    EventState ω → List (Exchange (passageInterface σ ω)) → EventState ω → Prop where
  | refl (e : EventState ω) : Passes table geometry e [] e
  | ask {e later : EventState ω} {question : PassageQuestion σ ω}
      {rest : List (Exchange (passageInterface σ ω))} (c : Commons σ)
      (onwards : Passes table geometry
        (Passage.answers table geometry question (e, c)).2.1 rest later) :
      Passes table geometry e
        (⟨question, (Passage.answers table geometry question (e, c)).1⟩ :: rest) later

variable {table : SubscriptionTable ω} {geometry : Geometry} {e k later : EventState ω}
  {exchanges more : List (Exchange (passageInterface σ ω))}

theorem Passes.trans (first : Passes table geometry e exchanges k)
    (second : Passes table geometry k more later) :
    Passes table geometry e (exchanges ++ more) later := by
  induction first with
  | refl e => exact second
  | ask c _ ih => exact .ask c (ih second)

theorem passes_append_iff : Passes table geometry e (exchanges ++ more) later ↔
    ∃ k, Passes table geometry e exchanges k ∧ Passes table geometry k more later := by
  constructor
  · intro passes
    induction exchanges generalizing e with
    | nil => exact ⟨e, .refl e, passes⟩
    | cons x rest ih =>
      obtain _ | ⟨c, onwards⟩ := passes
      obtain ⟨k, begins, ends⟩ := ih onwards
      exact ⟨k, .ask c begins, ends⟩
  · rintro ⟨k, begins, ends⟩
    exact begins.trans ends

/-- What an answer dispatches comes behind the messages from before. -/
theorem buffer_answers (question : PassageQuestion σ ω) (e : EventState ω) (c : Commons σ) :
    let reply := Passage.answers table geometry question (e, c)
    reply.2.1.buffer = (Passage.dispatch? ⟨question, reply.1⟩).elim e.buffer fun d =>
      (e.buffer.dispatch table d.origin d.message.message).buffer := by
  cases question with
  | enter event module =>
    simp only [Passage.answers]
    split <;> rfl
  | inside view q => cases q <;> rfl

/-- The messages of an event are those of its dispatches. -/
theorem Passes.buffer (passes : Passes table geometry e exchanges later) :
    later.buffer = (exchanges.filterMap Passage.dispatch?).foldl
      (fun b d => (b.dispatch table d.origin d.message.message).buffer) e.buffer := by
  induction passes with
  | refl e => rfl
  | @ask e later question rest c _ ih =>
    have here := @buffer_answers _ _ _ table geometry question e c
    rw [ih, here, List.filterMap_cons]
    cases Passage.dispatch? ⟨question, (Passage.answers table geometry question (e, c)).1⟩ <;> rfl

theorem Passes.buffer_dispatchAll {seed index : UInt64}
    (passes : Passes table geometry (.start (.new table.size) seed index) exchanges later) :
    later.buffer = EventBuffer.dispatchAll table (exchanges.filterMap Passage.dispatch?) :=
  passes.buffer

theorem entered_answers (question : PassageQuestion σ ω) (e : EventState ω) (c : Commons σ) :
    let reply := Passage.answers table geometry question (e, c)
    reply.2.1.entered = e.entered ++ (Passage.entered? ⟨question, reply.1⟩).toList := by
  cases question with
  | enter event module =>
    simp only [Passage.answers]
    by_cases admitted : e.admits table module = true
    · simp only [admitted, if_true]
      exact e.entered_log _
    · simp only [admitted, Bool.false_eq_true, if_false]
      exact (List.append_nil _).symm
  | inside view q =>
    refine Eq.trans ?_ (List.append_nil _).symm
    exact e.entered_reply table geometry (c.memories.getD view.module default) view q

theorem Passes.entered (passes : Passes table geometry e exchanges later) :
    later.entered = e.entered ++ exchanges.filterMap Passage.entered? := by
  induction passes with
  | refl e => exact (List.append_nil _).symm
  | @ask e later question rest c _ ih =>
    have here := @entered_answers _ _ _ table geometry question e c
    rw [ih, here, List.append_assoc, List.filterMap_eq_flatMap_toList,
      List.filterMap_eq_flatMap_toList, List.flatMap_cons]

theorem Passes.inboxes (passes : Passes table geometry e exchanges later) :
    later.buffer.inboxes.length = e.buffer.inboxes.length := by
  induction passes with
  | refl e => rfl
  | ask c _ ih => exact ih.trans (Passage.answers_inboxes ..)

end EventState

/-- With these exchanges, an event of a run came from its start to this point of its passage and to
this state. -/
structure RunPlan.Tells [Inhabited σ] (plan : RunPlan σ ω) (index : UInt64)
    (exchanges : List (Exchange (passageInterface σ ω))) (point : Passage σ ω EventOutcome)
    (e : EventState ω) : Prop where
  reaches : (Passage.through index plan.modules).Reaches exchanges point
  passes : EventState.Passes plan.table plan.geometry
    (.start (.new plan.table.size) plan.seed index) exchanges e

/-- A worker inside of an event has a history of it. -/
def Phase.IsTold [Inhabited σ] (plan : RunPlan σ ω) : Phase σ ω → Prop
  | .working index rest state => ∃ exchanges, plan.Tells index exchanges rest state
  | _ => True

namespace Machine

variable [Inhabited σ]

/-- All events have histories. -/
structure HistoryInvariant (plan : RunPlan σ ω) (m : Machine σ ω) : Prop where
  fresh : ∀ worker ∈ m.workers, worker.buffer = .new plan.table.size
  inside : ∀ worker ∈ m.workers, worker.phase.IsTold plan
  processed : ∀ p ∈ m.processed, ∃ exchanges,
    plan.Tells p.index exchanges (.done p.outcome) p.state

theorem historyInvariant_start (plan : RunPlan σ ω) (workers : Nat) :
    HistoryInvariant plan (start plan workers) where
  fresh := forall_workers_start (by rfl) workers
  inside := forall_workers_start trivial workers
  processed p present := nomatch present

namespace HistoryInvariant

variable {plan : RunPlan σ ω} {m after : Machine σ ω} {id : Nat}

private theorem quiet {buffer : EventBuffer} {phase changed : Phase σ ω}
    (valid : HistoryInvariant plan m) (found : m.workers[id]? = some ⟨buffer, phase⟩)
    (workers : after.workers = m.workers.set id ⟨buffer, changed⟩)
    (processed : after.processed = m.processed) (told : changed.IsTold plan) :
    HistoryInvariant plan after where
  fresh := by
    have fresh : buffer = .new plan.table.size := valid.fresh _ (List.mem_of_getElem? found)
    exact forall_workers_put valid.fresh workers fresh
  inside := forall_workers_put valid.inside workers told
  processed := processed ▸ valid.processed

theorem move (valid : HistoryInvariant plan m) (move : Move plan m id after) :
    HistoryInvariant plan after := by
  cases move with
  | rest atEnd => exact valid
  | heed found stopped => exact valid.quiet found rfl rfl trivial
  | pass found running => exact valid.quiet found rfl rfl trivial
  | @claim buffer found left =>
    have fresh : buffer = .new plan.table.size := valid.fresh _ (List.mem_of_getElem? found)
    refine valid.quiet found rfl rfl ⟨[], .refl _, ?_⟩
    rw [fresh]
    exact .refl _
  | exhaust found none => exact valid.quiet found rfl rfl trivial
  | @answer buffer index question next state found reply answered =>
    obtain ⟨exchanges, reaches, passes⟩ := valid.inside _ (List.mem_of_getElem? found)
    subst answered
    refine valid.quiet found rfl rfl ⟨_, reaches.trans (.ask _ (.refl _)), ?_⟩
    exact passes.trans (.ask m.commons (.refl _))
  | @finish buffer index outcome state found =>
    obtain ⟨exchanges, reaches, passes⟩ := valid.inside _ (List.mem_of_getElem? found)
    have length : state.buffer.inboxes.length = plan.table.size := by
      rw [passes.inboxes]
      exact List.length_replicate
    have fresh : state.buffer.clear = .new plan.table.size := by
      rw [EventBuffer.clear_eq_new, length]
    exact {
      fresh := forall_workers_put valid.fresh rfl fresh
      inside := forall_workers_put valid.inside rfl trivial
      processed := List.forall_mem_cons.mpr ⟨⟨exchanges, reaches, passes⟩, valid.processed⟩ }
  | complete found => exact valid.quiet found rfl rfl trivial
  | skip found => exact valid.quiet found rfl rfl trivial
  | fail found reported => exact valid.quiet found rfl rfl trivial
  | store found => exact valid.quiet found rfl rfl trivial
  | panic found => exact valid.quiet found rfl rfl trivial

end HistoryInvariant

theorem historyInvariant_follow (plan : RunPlan σ ω) (workers : Nat) (schedule : List Nat) :
    HistoryInvariant plan ((start plan workers).follow plan schedule) :=
  follow_keeps (HistoryInvariant plan) HistoryInvariant.move schedule
    (historyInvariant_start plan workers)

end Machine

end DetectorSim
