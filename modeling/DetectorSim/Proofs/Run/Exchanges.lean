import DetectorSim.Proofs.Run.Moves
import DetectorSim.Proofs.Run.Questions

/-! The exchanges of a run, of all workers and events, in the order of a schedule. What modules did
in a run is read off them; what a move keeps of a run and its exchanges so far, every schedule
keeps. -/

namespace DetectorSim

open Interaction (Exchange)

variable {σ ω : Type}

/-- The record of the dispatch that an exchange is, with the module that dispatched. -/
def Passage.sent? : Exchange (passageInterface σ ω) → Option (ModuleId × DispatchRecord)
  | ⟨.inside view (.dispatch topic message), count⟩ =>
    some (view.module, ⟨topic, message.detectorName, view.origin, count⟩)
  | _ => none

theorem Passage.dispatch_of_sent {x : Exchange (passageInterface σ ω)}
    {dispatched : ModuleId × DispatchRecord} (sent : sent? x = some dispatched) :
    ∃ (view : EventView) (topic : Topic) (message : Message topic) (count : Nat),
      x = ⟨.inside view (.dispatch topic message), count⟩ ∧
        dispatched = (view.module, ⟨topic, message.detectorName, view.origin, count⟩) := by
  obtain ⟨question, answer⟩ := x
  cases question with
  | enter event module => cases sent
  | inside view q =>
    cases q with
    | dispatch topic message =>
      cases sent
      exact ⟨view, topic, message, answer, rfl, rfl⟩
    | _ => cases sent

variable [Inhabited σ]

/-- The question that a worker asks with its next step, and the answer. -/
def Phase.exchange? (plan : RunPlan σ ω) (c : Commons σ) :
    Phase σ ω → Option (Exchange (passageInterface σ ω))
  | .working _ (.ask question _) state =>
    some ⟨question, (Passage.answers plan.table plan.geometry question (state, c)).1⟩
  | _ => none

namespace Machine

/-- The exchange that the next step of a worker is, if it is one. -/
def exchange? (plan : RunPlan σ ω) (m : Machine σ ω) (id : Nat) :
    Option (Exchange (passageInterface σ ω)) :=
  (m.workers[id]?).bind (·.phase.exchange? plan m.commons)

/-- The exchanges that are made while a schedule is followed, in order. -/
def exchanges (plan : RunPlan σ ω) :
    Machine σ ω → List Nat → List (Exchange (passageInterface σ ω))
  | _, [] => []
  | m, id :: rest => (m.exchange? plan id).toList ++ exchanges plan (m.step plan id) rest

/-- The dispatches that are made while a schedule is followed, each with its module. -/
def sent (plan : RunPlan σ ω) (m : Machine σ ω) (schedule : List Nat) :
    List (ModuleId × DispatchRecord) :=
  (m.exchanges plan schedule).filterMap Passage.sent?

variable {plan : RunPlan σ ω} {m : Machine σ ω} {id : Nat}

theorem exchange?_found {worker : Worker σ ω} (found : m.workers[id]? = some worker) :
    m.exchange? plan id = worker.phase.exchange? plan m.commons := by
  rw [exchange?, found, Option.bind_some]

theorem exchange?_of_isOverAt (atEnd : m.isOverAt id = true) : m.exchange? plan id = none := by
  cases found : m.workers[id]? with
  | none => rw [exchange?, found, Option.bind_none]
  | some worker =>
    rw [exchange?_found found]
    rw [isOverAt, found, Option.all_some] at atEnd
    cases same : worker.phase <;> simp_all [Phase.isOver, Phase.exchange?]

/-- Only a worker that is about to ask something makes an exchange. -/
theorem exchange?_eq_some_iff {x : Exchange (passageInterface σ ω)} :
    m.exchange? plan id = some x ↔ ∃ buffer index question next state,
      m.workers[id]? = some ⟨buffer, .working index (.ask question next) state⟩ ∧
        x = ⟨question,
          (Passage.answers plan.table plan.geometry question (state, m.commons)).1⟩ := by
  constructor
  · intro made
    obtain ⟨⟨buffer, phase⟩, found, asked⟩ := Option.bind_eq_some_iff.mp made
    cases phase with
    | working index rest state =>
      cases rest with
      | done outcome => cases asked
      | ask question next =>
        cases asked
        exact ⟨buffer, index, question, next, state, found, rfl⟩
    | _ => cases asked
  · rintro ⟨buffer, index, question, next, state, found, rfl⟩
    exact exchange?_found found

/-- Each exchange of a run was made in a state of it. -/
theorem mem_exchanges_iff {schedule : List Nat} {x : Exchange (passageInterface σ ω)} :
    x ∈ m.exchanges plan schedule ↔ ∃ before id rest, schedule = before ++ id :: rest ∧
      (m.follow plan before).exchange? plan id = some x := by
  induction schedule generalizing m with
  | nil => simp [exchanges]
  | cons id rest ih =>
    rw [exchanges, List.mem_append, Option.mem_toList, ih]
    constructor
    · rintro (here | ⟨before, other, later, rfl, made⟩)
      · exact ⟨[], id, rest, rfl, here⟩
      · exact ⟨id :: before, other, later, rfl, made⟩
    · rintro ⟨before, other, later, split, made⟩
      cases before with
      | nil =>
        cases split
        exact .inl made
      | cons first before =>
        cases split
        exact .inr ⟨before, other, later, rfl, made⟩

/-- What every move keeps of a state and the exchanges before it, every schedule keeps. -/
theorem follow_logs (keeps : Machine σ ω → List (Exchange (passageInterface σ ω)) → Prop)
    (move : ∀ {m log id after}, keeps m log → Move plan m id after →
      keeps after (log ++ (m.exchange? plan id).toList))
    (schedule : List Nat) {log : List (Exchange (passageInterface σ ω))} (start : keeps m log) :
    keeps (m.follow plan schedule) (log ++ m.exchanges plan schedule) := by
  induction schedule generalizing m log with
  | nil => rwa [exchanges, List.append_nil]
  | cons id rest ih =>
    rw [exchanges, ← List.append_assoc]
    exact ih (move start (move_step plan m id))

end Machine

end DetectorSim
