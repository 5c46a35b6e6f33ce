import DetectorSim.Run.Event

/-! Programs that do not look at some of the answers they get. What such a program returns does not
depend on the part of the state that only those answers show. A module that never looks at its
memory is such a program, and so is the passage of an event through modules of this kind. -/

namespace DetectorSim

namespace Interaction

variable {I : Interface} {α β σ τ : Type}

/-- A program goes on in the same way whatever the answer to a hidden question is. -/
def Ignores (hidden : I.Question → Prop) : Interaction I α → Prop
  | done _ => True
  | ask q next => (hidden q → ∀ a b, next a = next b) ∧ ∀ a, (next a).Ignores hidden

variable {hidden : I.Question → Prop}

theorem ignores_bind {p : Interaction I α} {f : α → Interaction I β} (first : p.Ignores hidden)
    (rest : ∀ a, (f a).Ignores hidden) : (p >>= f).Ignores hidden := by
  induction p with
  | done a => exact rest a
  | ask q next ih =>
    refine ⟨fun unseen a b => ?_, fun a => ih a (first.2 a)⟩
    exact congrArg (·.bind f) (first.1 unseen a b)

theorem ignores_query {q : I.Question} (shown : ¬hidden q) : (query q).Ignores hidden :=
  ⟨fun unseen => absurd unseen shown, fun _ => trivial⟩

/-- Neither what a program returns nor the visible part of the state that it leaves depends on the
other part, if only the answers that it ignores do. -/
theorem run_of_ignores {answers : Answers I (σ × τ)} {p : Interaction I α}
    (blind : p.Ignores hidden)
    (shown : ∀ q s t t', ¬hidden q → (answers q (s, t)).1 = (answers q (s, t')).1)
    (visible : ∀ q s t t', (answers q (s, t)).2.1 = (answers q (s, t')).2.1) (s : σ) (t t' : τ) :
    (p.run answers (s, t)).1 = (p.run answers (s, t')).1 ∧
      (p.run answers (s, t)).2.1 = (p.run answers (s, t')).2.1 := by
  induction p generalizing s t t' with
  | done a => exact ⟨rfl, rfl⟩
  | ask q next ih =>
    have onwards : next (answers q (s, t)).1 = next (answers q (s, t')).1 := by
      by_cases unseen : hidden q
      · exact blind.1 unseen _ _
      · exact congrArg next (shown q s t t' unseen)
    have same : (answers q (s, t)).2 = ((answers q (s, t')).2.1, (answers q (s, t)).2.2) :=
      Prod.ext (visible q s t t') rfl
    change (run answers (next (answers q (s, t)).1) (answers q (s, t)).2).1 = _ ∧
      (run answers (next (answers q (s, t)).1) (answers q (s, t)).2).2.1 = _
    rw [onwards, same]
    exact ih _ (blind.2 _) _ _ _

end Interaction

/-- Whether a question of a running module is answered from its memory. -/
def EventQuestion.asksMemory {σ ω : Type} : EventQuestion σ ω → Prop
  | .update _ => True
  | _ => False

/-- Whether a question of a passage is answered from the memory of a module. -/
def PassageQuestion.asksMemory {σ ω : Type} : PassageQuestion σ ω → Prop
  | .enter .. => False
  | .inside _ q => q.asksMemory

/-- The run of a module depends on the event only: on its index, the engine, the messages, and what
dispatching them returns. The module may change its memory but goes on without looking at it. -/
def Module.IsBlind {σ ω : Type} (m : Module σ ω) : Prop :=
  ∀ view, (m.run view).run.Ignores EventQuestion.asksMemory

namespace Passage

open Interaction

variable {σ ω : Type}

theorem ofModule_ignores {α : Type} {p : Interaction (eventInterface σ ω) α} (view : EventView)
    (blind : p.Ignores EventQuestion.asksMemory) :
    (ofModule view p).Ignores PassageQuestion.asksMemory := by
  induction p with
  | done a => trivial
  | ask q next ih =>
    refine ⟨fun unseen a b => ?_, fun a => ih a (blind.2 a)⟩
    exact congrArg (ofModule view) (blind.1 unseen a b)

theorem through_ignores (index : UInt64) {modules : List (ReadyModule σ ω)}
    (blind : ∀ i ∈ modules, i.body.IsBlind) :
    (through index modules).Ignores PassageQuestion.asksMemory := by
  induction modules with
  | nil => trivial
  | cons i rest ih =>
    have others := ih fun j member => blind j (List.mem_cons_of_mem _ member)
    refine ignores_bind (ignores_query id) fun entered => ?_
    cases entered with
    | false => exact others
    | true =>
      refine ignores_bind (ofModule_ignores _ (blind i (List.mem_cons_self ..) _)) fun ending => ?_
      cases ending with
      | ok _ => exact others
      | error halt => trivial

variable [Inhabited σ] {table : SubscriptionTable ω} {geometry : Geometry}

/-- What workers share only shows in answers about memory. -/
theorem answers_shown (q : PassageQuestion σ ω) (e : EventState ω) (c c' : Commons σ)
    (shown : ¬q.asksMemory) :
    (answers table geometry q (e, c)).1 = (answers table geometry q (e, c')).1 := by
  cases q with
  | enter event module => simp only [answers]; split <;> rfl
  | inside view q => cases q <;> first | rfl | exact absurd trivial shown

/-- The state of an event does not take up anything of what workers share. -/
theorem answers_visible (q : PassageQuestion σ ω) (e : EventState ω) (c c' : Commons σ) :
    (answers table geometry q (e, c)).2.1 = (answers table geometry q (e, c')).2.1 := by
  cases q with
  | enter event module => simp only [answers]; split <;> rfl
  | inside view q => cases q <;> rfl

/-- The outcome of a blind passage and the state of its event depend on the event alone. -/
theorem run_of_blind {p : Passage σ ω EventOutcome} (blind : p.Ignores PassageQuestion.asksMemory)
    (e : EventState ω) (c c' : Commons σ) :
    (p.run (answers table geometry) (e, c)).1 = (p.run (answers table geometry) (e, c')).1 ∧
      (p.run (answers table geometry) (e, c)).2.1 =
        (p.run (answers table geometry) (e, c')).2.1 :=
  run_of_ignores blind answers_shown answers_visible e c c'

end Passage

end DetectorSim
