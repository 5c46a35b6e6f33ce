/-!
Programs that ask. An interaction asks one question at a time and goes on with
the answer, so what it may do is exactly what its interface offers. Questions are
answered from a state, which gives the interaction a meaning as a function.
-/

namespace DetectorSim

/-- The questions of an interface and the type of each answer. -/
structure Interface where
  Question : Type
  Answer : Question → Type

/-- A program over an interface that ends with a value. -/
inductive Interaction (I : Interface) (α : Type) : Type where
  | done (value : α)
  | ask (question : I.Question) (next : I.Answer question → Interaction I α)

namespace Interaction

variable {I : Interface} {α β γ σ : Type}

/-- Goes on with another program after the end. -/
def bind (p : Interaction I α) (f : α → Interaction I β) : Interaction I β :=
  match p with
  | done a => f a
  | ask q next => ask q fun answer => (next answer).bind f

instance : Monad (Interaction I) where
  pure := done
  bind := bind

theorem bind_done (p : Interaction I α) : p.bind done = p := by
  induction p with
  | done a => rfl
  | ask q next ih => exact congrArg (ask q) (funext ih)

theorem bind_assoc (p : Interaction I α) (f : α → Interaction I β) (g : β → Interaction I γ) :
    (p.bind f).bind g = p.bind fun a => (f a).bind g := by
  induction p with
  | done a => rfl
  | ask q next ih => exact congrArg (ask q) (funext ih)

instance : LawfulMonad (Interaction I) :=
  LawfulMonad.mk' _ bind_done (fun _ _ => rfl) bind_assoc

/-- Asks a question and returns the answer. -/
def query (question : I.Question) : Interaction I (I.Answer question) :=
  ask question done

/-- A way to answer the questions of an interface from a state. -/
def Answers (I : Interface) (σ : Type) : Type :=
  (question : I.Question) → σ → I.Answer question × σ

/-- Runs a program with its questions answered from a state. -/
def run (answers : Answers I σ) : Interaction I α → σ → α × σ
  | done a, s => (a, s)
  | ask q next, s => (next (answers q s).1).run answers (answers q s).2

/-- Runs a program with its questions answered by another monad. -/
def interpret {m : Type → Type} [Monad m] (answer : (q : I.Question) → m (I.Answer q)) :
    Interaction I α → m α
  | done a => pure a
  | ask q next => do
    let reply ← answer q
    (next reply).interpret answer

@[simp] theorem run_pure (answers : Answers I σ) (a : α) (s : σ) :
    (pure a : Interaction I α).run answers s = (a, s) := rfl

@[simp] theorem run_query (answers : Answers I σ) (q : I.Question) (s : σ) :
    (query q).run answers s = answers q s := rfl

@[simp] theorem run_bind (answers : Answers I σ) (p : Interaction I α) (f : α → Interaction I β)
    (s : σ) :
    (p >>= f).run answers s = (f (p.run answers s).1).run answers (p.run answers s).2 := by
  induction p generalizing s with
  | done a => rfl
  | ask q next ih => exact ih (answers q s).1 (answers q s).2

end Interaction

end DetectorSim
