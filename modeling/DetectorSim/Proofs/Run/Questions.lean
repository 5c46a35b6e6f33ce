import DetectorSim.Run.Event

/-! Which questions programs ask. Exchanges of questions and answers take a program from one point
to another; whatever the answers are, the passage of an event asks what its modules ask, each from its
own view. -/

namespace DetectorSim

namespace Interaction

variable {I : Interface} {α β : Type}

/-- A question and the answer that it got. -/
structure Exchange (I : Interface) where
  question : I.Question
  answer : I.Answer question

/-- With these answers to its questions, a program comes to this point. -/
inductive Reaches : Interaction I α → List (Exchange I) → Interaction I α → Prop where
  | refl (p : Interaction I α) : Reaches p [] p
  | ask {question : I.Question} {next : I.Answer question → Interaction I α}
      (answer : I.Answer question) {rest : List (Exchange I)} {later : Interaction I α}
      (onwards : Reaches (next answer) rest later) :
      Reaches (.ask question next) (⟨question, answer⟩ :: rest) later

section Reaching

variable {p q r : Interaction I α} {exchanges more : List (Exchange I)}

theorem Reaches.trans (first : p.Reaches exchanges q) (second : q.Reaches more r) :
    p.Reaches (exchanges ++ more) r := by
  induction first with
  | refl p => exact second
  | ask answer _ ih => exact .ask answer (ih second)

theorem reaches_done_iff {a : α} :
    (done a : Interaction I α).Reaches exchanges r ↔ exchanges = [] ∧ r = done a := by
  constructor
  · rintro ⟨⟩
    exact ⟨rfl, rfl⟩
  · rintro ⟨rfl, rfl⟩
    exact .refl _

theorem Reaches.of_done {a b : α} (ended : p.Reaches exchanges (done a))
    (whole : p.Reaches (exchanges ++ more) (done b)) : more = [] ∧ b = a := by
  induction exchanges generalizing p with
  | nil =>
    cases ended
    obtain ⟨none, same⟩ := reaches_done_iff.mp whole
    cases same
    exact ⟨none, rfl⟩
  | cons x rest ih =>
    obtain _ | ⟨answer, onwards⟩ := ended
    obtain _ | ⟨_, whole⟩ := whole
    exact ih onwards whole

theorem Reaches.bind (reaches : p.Reaches exchanges q) (f : α → Interaction I β) :
    (p >>= f).Reaches exchanges (q >>= f) := by
  induction reaches with
  | refl p => exact .refl _
  | ask answer _ ih => exact .ask answer ih

/-- A program that goes on with another one is either still within the first, or behind its end. -/
theorem reaches_bind {f : α → Interaction I β} {r : Interaction I β}
    (reaches : (p >>= f).Reaches exchanges r) :
    (∃ question next, p.Reaches exchanges (.ask question next) ∧ r = .ask question next >>= f) ∨
      ∃ first rest a, exchanges = first ++ rest ∧ p.Reaches first (done a) ∧
        (f a).Reaches rest r := by
  induction p generalizing exchanges with
  | done a => exact .inr ⟨[], exchanges, a, rfl, .refl _, reaches⟩
  | ask question next ih =>
    obtain _ | ⟨answer, onwards⟩ := reaches
    · exact .inl ⟨question, next, .refl _, rfl⟩
    · rcases ih answer onwards with ⟨q, later, within, same⟩ | ⟨first, rest, a, rfl, ends, behind⟩
      · exact .inl ⟨q, later, .ask answer within, same⟩
      · exact .inr ⟨_, rest, a, rfl, .ask answer ends, behind⟩

/-- A program that goes on with another one comes to its end through the end of the first. -/
theorem reaches_bind_done_iff {f : α → Interaction I β} {value : β} :
    (p >>= f).Reaches exchanges (done value) ↔ ∃ first rest a, exchanges = first ++ rest ∧
      p.Reaches first (done a) ∧ (f a).Reaches rest (done value) := by
  constructor
  · intro reaches
    rcases reaches_bind reaches with ⟨question, next, within, same⟩ | behind
    · cases same
    · exact behind
  · rintro ⟨first, rest, a, rfl, ends, behind⟩
    exact (ends.bind f).trans behind

end Reaching

/-- A program asks only such questions, whatever the answers are. -/
def OnlyAsks (allowed : I.Question → Prop) : Interaction I α → Prop
  | done _ => True
  | ask q next => allowed q ∧ ∀ a, (next a).OnlyAsks allowed

/-- A program asks only such questions as long as the answers are such ones. -/
def OnlyAsksGiven (known : (q : I.Question) → I.Answer q → Prop) (allowed : I.Question → Prop) :
    Interaction I α → Prop
  | done _ => True
  | ask q next => allowed q ∧ ∀ a, known q a → (next a).OnlyAsksGiven known allowed

variable {known : (q : I.Question) → I.Answer q → Prop} {allowed : I.Question → Prop}

theorem onlyAsksGiven_bind {p : Interaction I α} {f : α → Interaction I β}
    (first : p.OnlyAsksGiven known allowed) (rest : ∀ a, (f a).OnlyAsksGiven known allowed) :
    (p >>= f).OnlyAsksGiven known allowed := by
  induction p with
  | done a => exact rest a
  | ask q next ih => exact ⟨first.1, fun a holds => ih a (first.2 a holds)⟩

theorem OnlyAsksGiven.mono {others : I.Question → Prop} {p : Interaction I α}
    (asks : p.OnlyAsksGiven known allowed) (implies : ∀ q, allowed q → others q) :
    p.OnlyAsksGiven known others := by
  induction p with
  | done a => trivial
  | ask q next ih => exact ⟨implies q asks.1, fun a holds => ih a (asks.2 a holds)⟩

theorem OnlyAsksGiven.told {more : (q : I.Question) → I.Answer q → Prop} {p : Interaction I α}
    (asks : p.OnlyAsksGiven known allowed) (implies : ∀ q a, more q a → known q a) :
    p.OnlyAsksGiven more allowed := by
  induction p with
  | done a => trivial
  | ask q next ih => exact ⟨asks.1, fun a holds => ih a (asks.2 a (implies q a holds))⟩

/-- With such answers a program comes to no other questions. -/
theorem OnlyAsksGiven.reaches {p q : Interaction I α} {exchanges : List (Exchange I)}
    (asks : p.OnlyAsksGiven known allowed) (reaches : p.Reaches exchanges q)
    (answered : ∀ x ∈ exchanges, known x.question x.answer) :
    (∀ x ∈ exchanges, allowed x.question) ∧ q.OnlyAsksGiven known allowed := by
  induction reaches with
  | refl p => exact ⟨List.forall_mem_nil _, asks⟩
  | ask answer _ ih =>
    obtain ⟨here, further⟩ := List.forall_mem_cons.mp answered
    obtain ⟨others, later⟩ := ih (asks.2 answer here) further
    exact ⟨List.forall_mem_cons.mpr ⟨asks.1, others⟩, later⟩

theorem onlyAsks_iff_given {p : Interaction I α} :
    p.OnlyAsks allowed ↔ p.OnlyAsksGiven (fun _ _ => True) allowed := by
  induction p with
  | done a => exact .rfl
  | ask q next ih =>
    exact and_congr_right fun _ => forall_congr' fun a => (ih a).trans (true_imp_iff).symm

theorem onlyAsks_bind {p : Interaction I α} {f : α → Interaction I β} (first : p.OnlyAsks allowed)
    (rest : ∀ a, (f a).OnlyAsks allowed) : (p >>= f).OnlyAsks allowed :=
  onlyAsks_iff_given.mpr <| onlyAsksGiven_bind (onlyAsks_iff_given.mp first) fun a =>
    onlyAsks_iff_given.mp (rest a)

theorem onlyAsks_query {q : I.Question} (permitted : allowed q) : (query q).OnlyAsks allowed :=
  ⟨permitted, fun _ => trivial⟩

theorem OnlyAsks.mono {others : I.Question → Prop} {p : Interaction I α}
    (asks : p.OnlyAsks allowed) (implies : ∀ q, allowed q → others q) : p.OnlyAsks others :=
  onlyAsks_iff_given.mpr <| (onlyAsks_iff_given.mp asks).mono implies

theorem OnlyAsks.given {p : Interaction I α} (asks : p.OnlyAsks allowed) :
    p.OnlyAsksGiven known allowed := by
  induction p with
  | done a => trivial
  | ask q next ih => exact ⟨asks.1, fun a _ => ih a (asks.2 a)⟩

theorem onlyAsks_true (p : Interaction I α) : p.OnlyAsks fun _ => True := by
  induction p with
  | done a => trivial
  | ask q next ih => exact ⟨trivial, ih⟩

theorem OnlyAsks.reaches {p q : Interaction I α} {exchanges : List (Exchange I)}
    (asks : p.OnlyAsks allowed) (reaches : p.Reaches exchanges q) :
    (∀ x ∈ exchanges, allowed x.question) ∧ q.OnlyAsks allowed := by
  obtain ⟨asked, later⟩ :=
    (onlyAsks_iff_given.mp asks).reaches reaches fun _ _ => trivial
  exact ⟨asked, onlyAsks_iff_given.mpr later⟩

end Interaction

namespace Passage

open Interaction

variable {σ ω : Type} {allowed : PassageQuestion σ ω → Prop}
  {known : (q : PassageQuestion σ ω) → q.Answer → Prop}

theorem onlyAsksGiven_ofModule {α : Type} {view : EventView}
    {p : Interaction (eventInterface σ ω) α}
    (asks : p.OnlyAsksGiven (fun q => known (.inside view q)) fun q => allowed (.inside view q)) :
    (ofModule view p).OnlyAsksGiven known allowed := by
  induction p with
  | done a => trivial
  | ask q next ih => exact ⟨asks.1, fun a holds => ih a (asks.2 a holds)⟩

theorem onlyAsks_ofModule {α : Type} {view : EventView} {p : Interaction (eventInterface σ ω) α}
    (asks : p.OnlyAsks fun q => allowed (.inside view q)) : (ofModule view p).OnlyAsks allowed :=
  onlyAsks_iff_given.mpr <| onlyAsksGiven_ofModule (onlyAsks_iff_given.mp asks)

/-- A passage asks what may be asked if each of its modules does. -/
theorem onlyAsksGiven_through {index : UInt64} {modules : List (ReadyModule σ ω)}
    (entering : ∀ i ∈ modules, allowed (.enter index i.id))
    (asks : ∀ i ∈ modules, (i.body.run (i.eventView index)).run.OnlyAsksGiven
      (fun q => known (.inside (i.eventView index) q))
      fun q => allowed (.inside (i.eventView index) q)) :
    (through index modules).OnlyAsksGiven known allowed := by
  induction modules with
  | nil => trivial
  | cons i rest ih =>
    obtain ⟨enters, others⟩ := List.forall_mem_cons.mp entering
    obtain ⟨first, later⟩ := List.forall_mem_cons.mp asks
    refine onlyAsksGiven_bind ⟨enters, fun _ _ => trivial⟩ fun entered => ?_
    cases entered with
    | false => exact ih others later
    | true =>
      refine onlyAsksGiven_bind (onlyAsksGiven_ofModule first) fun ending => ?_
      cases ending with
      | ok _ => exact ih others later
      | error halt => trivial

theorem onlyAsks_through {index : UInt64} {modules : List (ReadyModule σ ω)}
    (entering : ∀ i ∈ modules, allowed (.enter index i.id))
    (asks : ∀ i ∈ modules, (i.body.run (i.eventView index)).run.OnlyAsks fun q =>
      allowed (.inside (i.eventView index) q)) : (through index modules).OnlyAsks allowed :=
  onlyAsks_iff_given.mpr <| onlyAsksGiven_through entering fun i member =>
    onlyAsks_iff_given.mp (asks i member)

end Passage

end DetectorSim
