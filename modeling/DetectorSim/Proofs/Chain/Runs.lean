import DetectorSim.Proofs.Chain.Counting
import DetectorSim.Proofs.Message.Fetching

/-! What the modules of a chain do in an event: a depositor dispatches no hits, a digitizer those of
the latest deposit that it received, and a counter changes its memory by the hits that it received.
None of them looks at its memory. -/

namespace DetectorSim

open Interaction (Exchange)
open SubscriptionTable (ofList)
open EventBuffer (dispatchAll owned)

variable {σ ω : Type}

namespace Interaction

variable {I : Interface} {α : Type}

/-- A program that asks no hidden question does not look at the answers. -/
theorem OnlyAsks.ignores {hidden : I.Question → Prop} {p : Interaction I α}
    (asks : p.OnlyAsks fun q => ¬hidden q) : p.Ignores hidden := by
  induction p with
  | done a => trivial
  | ask q next ih => exact ⟨fun unseen => absurd unseen asks.1, fun a => ih a (asks.2 a)⟩

end Interaction

/-- A dispatch of a topic. -/
def EventQuestion.dispatches (t : Topic) : EventQuestion σ ω → Prop
  | .dispatch topic _ => topic = t
  | _ => False

namespace EventProgram

variable {α β : Type} {allowed : EventQuestion σ ω → Prop}

theorem onlyAsksGiven_bind {known : (q : EventQuestion σ ω) → q.Answer → Prop}
    {x : EventProgram σ ω α} {f : α → EventProgram σ ω β}
    (first : x.run.OnlyAsksGiven known allowed)
    (rest : ∀ a, (f a).run.OnlyAsksGiven known allowed) :
    (x >>= f).run.OnlyAsksGiven known allowed := by
  rw [ExceptT.run_bind]
  refine Interaction.onlyAsksGiven_bind first fun ending => ?_
  cases ending with
  | ok a => exact rest a
  | error halt => trivial

/-- Behind a question, a program goes on with an answer of the kind. -/
theorem onlyAsksGiven_ask {known : (q : EventQuestion σ ω) → q.Answer → Prop}
    {q : EventQuestion σ ω} {f : q.Answer → EventProgram σ ω β} (permitted : allowed q)
    (rest : ∀ answer, known q answer → (f answer).run.OnlyAsksGiven known allowed) :
    (query q >>= f).run.OnlyAsksGiven known allowed :=
  ⟨permitted, rest⟩

theorem onlyAsks_bind {x : EventProgram σ ω α} {f : α → EventProgram σ ω β}
    (first : x.run.OnlyAsks allowed) (rest : ∀ a, (f a).run.OnlyAsks allowed) :
    (x >>= f).run.OnlyAsks allowed :=
  Interaction.onlyAsks_iff_given.mpr <|
    onlyAsksGiven_bind (Interaction.onlyAsks_iff_given.mp first) fun a =>
      Interaction.onlyAsks_iff_given.mp (rest a)

theorem onlyAsks_query {q : EventQuestion σ ω} (permitted : allowed q) :
    (query q).run.OnlyAsks allowed :=
  ⟨permitted, fun _ => trivial⟩

end EventProgram

/-- A question that is not answered from memory and dispatches no hits. -/
def EventQuestion.isPlain (q : EventQuestion σ ω) : Prop :=
  ¬q.asksMemory ∧ ¬q.dispatches .hits

namespace ChargeDepositor

theorem onlyAsks_drawCharges (d : ChargeDepositor) {allowed : EventQuestion HitCounts ω → Prop}
    (draws : ∀ draw, allowed (.draw draw)) (number : Nat) (drawn : List PixelCharge) :
    (d.drawCharges number drawn).run.OnlyAsks allowed := by
  have below (bound : UInt32) : (EventProgram.below bound).run.OnlyAsks allowed := by
    refine EventProgram.onlyAsks_bind (EventProgram.onlyAsks_query (draws _)) fun drawn => ?_
    cases drawn <;> trivial
  have charge : d.drawCharge.run.OnlyAsks allowed := by
    refine EventProgram.onlyAsks_bind (below _) fun column => ?_
    refine EventProgram.onlyAsks_bind (below _) fun row => ?_
    exact EventProgram.onlyAsks_bind (EventProgram.onlyAsks_query (draws _)) fun charge => trivial
  induction number generalizing drawn with
  | zero => trivial
  | succ more ih => exact EventProgram.onlyAsks_bind charge fun charge => ih _

/-- A depositor asks whether anything receives its deposits; it asks what may be asked if what it
does upon that does. -/
theorem onlyAsksGiven_of_deposits {known : (q : EventQuestion HitCounts ω) → q.Answer → Prop}
    {allowed : EventQuestion HitCounts ω → Prop} (d : ChargeDepositor)
    (asking : allowed (.hasSubscribers .deposits (some d.detector.name)))
    (depositing : known (.hasSubscribers .deposits (some d.detector.name)) true → (do
      let charges ← d.drawCharges d.pixels []
      let message ← EventProgram.make .deposits ⟨charges⟩ (some d.detector)
      let _ ← EventProgram.dispatch message : EventProgram HitCounts ω Unit).run.OnlyAsksGiven
        known allowed) :
    (d.run : EventProgram HitCounts ω Unit).run.OnlyAsksGiven known allowed := by
  refine EventProgram.onlyAsksGiven_ask asking fun (received : Bool) answered => ?_
  cases received with
  | false => trivial
  | true =>
    by_cases many : mostCharges < d.pixels
    · rw [if_pos rfl, if_pos many]
      trivial
    · rw [if_pos rfl, if_neg many]
      exact depositing answered

theorem onlyAsks_run (d : ChargeDepositor) :
    (d.run : EventProgram HitCounts ω Unit).run.OnlyAsks EventQuestion.isPlain := by
  refine Interaction.onlyAsks_iff_given.mpr (d.onlyAsksGiven_of_deposits ⟨id, id⟩ fun _ => ?_)
  refine EventProgram.onlyAsksGiven_bind (d.onlyAsks_drawCharges (fun _ => ⟨id, id⟩) _ _).given
    fun charges => ?_
  refine EventProgram.onlyAsksGiven_ask ⟨id, id⟩ fun message _ => ?_
  exact EventProgram.onlyAsksGiven_ask ⟨id, nofun⟩ fun count _ => trivial

end ChargeDepositor

namespace ThresholdDigitizer

theorem checkEmpty_eq (d : ThresholdDigitizer) (view : EventView) (hits : Hits) :
    ∃ checked, (d.checkEmpty view hits : EventProgram HitCounts ω Unit).run = .done checked := by
  rw [checkEmpty]
  split
  · cases d.onEmpty <;> exact ⟨_, rfl⟩
  · exact ⟨_, rfl⟩

theorem run_eq (d : ThresholdDigitizer) (view : EventView) :
    (d.run view : EventProgram HitCounts ω Unit).run = .ask (.fetch .deposits)
      fun (deposits : Except MessageError (Message .deposits)) => match deposits with
      | .error e => .done (.error (.error (.message e)))
      | .ok deposits =>
        (d.checkEmpty view (d.hitsOf deposits.payload) : EventProgram HitCounts ω Unit).run >>=
          fun checked => match checked with
          | .error halt => .done (.error halt)
          | .ok _ => .ask (.make .hits (d.hitsOf deposits.payload) (some d.detector))
            fun (message : Message .hits) =>
              .ask (.dispatch .hits message) fun _ => .done (.ok ()) := by
  refine congrArg (Interaction.ask _) (funext fun deposits => ?_)
  cases deposits with
  | error e => rfl
  | ok deposits =>
    change ExceptT.run (d.checkEmpty view (d.hitsOf deposits.payload) >>= fun _ => do
      let message ← EventProgram.make .hits (d.hitsOf deposits.payload) (some d.detector)
      let _ ← EventProgram.dispatch message) = _
    rw [ExceptT.run_bind]
    refine congrArg (_ >>= ·) (funext fun checked => ?_)
    cases checked <;> rfl

/-- A digitizer that does not end its run early dispatches the hits of what it fetched. -/
theorem reaches_run {d : ThresholdDigitizer} {view : EventView} {ending : Except Halt Unit}
    {own : List (Exchange (eventInterface HitCounts ω))}
    (runs : (d.run view).run.Reaches own (.done ending)) :
    (∃ answer halt, own = [⟨.fetch .deposits, answer⟩] ∧ ending = .error halt) ∨
      ∃ (deposits : Message .deposits) (message : Message .hits) (count : Nat),
        own = [⟨.fetch .deposits, Except.ok deposits⟩,
          ⟨.make .hits (d.hitsOf deposits.payload) (some d.detector), message⟩,
          ⟨.dispatch .hits message, count⟩] := by
  rw [run_eq] at runs
  obtain _ | ⟨answer, onwards⟩ := runs
  revert answer
  intro (answer : Except MessageError (Message .deposits)) onwards
  cases answer with
  | error e =>
    obtain ⟨rfl, same⟩ := Interaction.reaches_done_iff.mp onwards
    cases same
    exact .inl ⟨_, _, rfl, rfl⟩
  | ok deposits =>
    obtain ⟨checked, same⟩ := checkEmpty_eq (ω := ω) d view (d.hitsOf deposits.payload)
    dsimp only at onwards
    rw [same] at onwards
    cases checked with
    | error halt =>
      obtain ⟨rfl, same⟩ := Interaction.reaches_done_iff.mp onwards
      cases same
      exact .inl ⟨_, _, rfl, rfl⟩
    | ok _ =>
      obtain _ | ⟨message, onwards⟩ := onwards
      obtain _ | ⟨count, onwards⟩ := onwards
      obtain ⟨rfl, _⟩ := Interaction.reaches_done_iff.mp onwards
      exact .inr ⟨deposits, message, count, rfl⟩

/-- A digitizer asks what may be asked if it may fetch, and may make and dispatch the hits of what it
fetched. -/
theorem onlyAsksGiven_of_hits {known : (q : EventQuestion HitCounts ω) → q.Answer → Prop}
    {allowed : EventQuestion HitCounts ω → Prop} (d : ThresholdDigitizer) (view : EventView)
    (fetching : allowed (.fetch .deposits))
    (passing : ∀ deposits : Message .deposits, known (.fetch .deposits) (Except.ok deposits) →
      allowed (.make .hits (d.hitsOf deposits.payload) (some d.detector)) ∧
        ∀ message : Message .hits,
          known (.make .hits (d.hitsOf deposits.payload) (some d.detector)) message →
            allowed (.dispatch .hits message)) :
    (d.run view : EventProgram HitCounts ω Unit).run.OnlyAsksGiven known allowed := by
  rw [run_eq]
  refine ⟨fetching, fun (answer : Except MessageError (Message .deposits)) fetched => ?_⟩
  cases answer with
  | error e => trivial
  | ok deposits =>
    obtain ⟨checked, same⟩ := checkEmpty_eq (ω := ω) d view (d.hitsOf deposits.payload)
    dsimp only
    rw [same]
    obtain ⟨making, dispatching⟩ := passing deposits fetched
    cases checked with
    | error halt => trivial
    | ok _ => exact ⟨making, fun message made => ⟨dispatching message made, fun _ _ => trivial⟩⟩

theorem onlyAsks_run (d : ThresholdDigitizer) (view : EventView) :
    (d.run view : EventProgram HitCounts ω Unit).run.OnlyAsks fun q =>
      ¬EventQuestion.asksMemory q :=
  Interaction.onlyAsks_iff_given.mpr <|
    d.onlyAsksGiven_of_hits view id fun _ _ => ⟨id, fun _ _ => id⟩

end ThresholdDigitizer

namespace HitCounter

theorem run_eq : (run : EventProgram HitCounts ω Unit).run = .ask (.fetchAll .hits)
    fun (messages : Except MessageError (List (Message .hits))) => match messages with
    | .error e => .done (.error (.error (.message e)))
    | .ok messages =>
      if messages.any HitCounts.hasHits then
        .ask (.update HitCounts.countEvent) fun _ =>
          .ask (.update (HitCounts.addMessages messages)) fun _ => .done (.ok ())
      else .ask (.update (HitCounts.addMessages messages)) fun _ => .done (.ok ()) := by
  refine congrArg (Interaction.ask _) (funext fun messages => ?_)
  cases messages with
  | error e => rfl
  | ok messages =>
    change ExceptT.run (do
      if messages.any HitCounts.hasHits then EventProgram.update HitCounts.countEvent
      EventProgram.update (HitCounts.addMessages messages)) = _
    dsimp only
    split <;> rfl

/-- A counter fetches the hits of its event and changes its memory by them. -/
theorem reaches_run {ending : Except Halt Unit}
    {own : List (Exchange (eventInterface HitCounts ω))}
    (runs : run.run.Reaches own (.done ending)) :
    ∃ (answer : Except MessageError (List (Message .hits)))
      (rest : List (Exchange (eventInterface HitCounts ω))),
      own = ⟨.fetchAll .hits, answer⟩ :: rest ∧ ∀ messages, answer = .ok messages →
        (own.filterMap fun x => EventQuestion.change? x.question) = HitCounts.changes messages := by
  rw [run_eq] at runs
  obtain _ | ⟨answer, onwards⟩ := runs
  revert answer
  intro (answer : Except MessageError (List (Message .hits))) onwards
  refine ⟨answer, _, rfl, ?_⟩
  rintro messages rfl
  dsimp only at onwards
  by_cases any : messages.any HitCounts.hasHits = true
  · rw [if_pos any] at onwards
    obtain _ | ⟨before, onwards⟩ := onwards
    obtain _ | ⟨before', onwards⟩ := onwards
    obtain ⟨rfl, _⟩ := Interaction.reaches_done_iff.mp onwards
    rw [HitCounts.changes, if_pos any]
    rfl
  · rw [if_neg any] at onwards
    obtain _ | ⟨before, onwards⟩ := onwards
    obtain ⟨rfl, _⟩ := Interaction.reaches_done_iff.mp onwards
    rw [HitCounts.changes, if_neg any]
    rfl

theorem onlyAsks_run : (run : EventProgram HitCounts ω Unit).run.OnlyAsks fun q =>
    ¬EventQuestion.dispatches .hits q := by
  rw [run_eq]
  refine ⟨id, fun (answer : Except MessageError (List (Message .hits))) => ?_⟩
  cases answer with
  | error e => trivial
  | ok messages =>
    dsimp only
    split
    · exact ⟨id, fun _ => ⟨id, fun _ => trivial⟩⟩
    · exact ⟨id, fun _ => trivial⟩

theorem ignores_run : (run : EventProgram HitCounts ω Unit).run.Ignores
    EventQuestion.asksMemory := by
  rw [run_eq]
  refine ⟨fun unseen => absurd unseen id,
    fun (answer : Except MessageError (List (Message .hits))) => ?_⟩
  cases answer with
  | error e => trivial
  | ok messages =>
    dsimp only
    split
    · exact ⟨fun _ _ _ => rfl, fun _ => ⟨fun _ _ _ => rfl, fun _ => trivial⟩⟩
    · exact ⟨fun _ _ _ => rfl, fun _ => trivial⟩

end HitCounter

end DetectorSim
