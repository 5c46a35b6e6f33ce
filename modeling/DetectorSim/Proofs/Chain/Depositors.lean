import DetectorSim.Proofs.Chain.Assembly
import DetectorSim.Proofs.Chain.Runs
import DetectorSim.Proofs.Run.Histories
import DetectorSim.Proofs.Run.Turns
import DetectorSim.Proofs.Run.Warnings

/-! Depositors and the subscriptions to deposits. Whether a message would be received is answered
from the same table that a dispatch goes through, whichever worker asks and whatever happens in
between; a depositor goes on only if its deposit is received. -/

namespace DetectorSim

open Config
open Interaction (Exchange)

variable {σ ω : Type}

/-- An answer agrees with the subscriptions of a table: a message is received if and only if there
are subscribers for it, and comes with the addressee that it was made for. -/
def EventQuestion.Agrees (table : SubscriptionTable ω) : (q : EventQuestion σ ω) → q.Answer → Prop
  | .hasSubscribers topic addressee, received => received = table.hasSubscribersFor topic addressee
  | .make topic _ detector, message =>
    let message : Message topic := message
    message.detector = detector
  | .dispatch topic message, count =>
    table.hasSubscribersFor topic message.detectorName = true ↔ (1 : Nat) ≤ count
  | _, _ => True

/-- The same of the answers in the passage of an event. -/
def PassageQuestion.Agrees (table : SubscriptionTable ω) :
    (q : PassageQuestion σ ω) → q.Answer → Prop
  | .enter .., _ => True
  | .inside _ q, answer => q.Agrees table answer

section Agreement

variable [Inhabited σ] {table : SubscriptionTable ω} {geometry : Geometry}

theorem Passage.answers_agree (question : PassageQuestion σ ω) (e : EventState ω) (c : Commons σ) :
    question.Agrees table (Passage.answers table geometry question (e, c)).1 := by
  cases question with
  | enter event module => trivial
  | inside view q =>
    cases q with
    | dispatch topic message => exact e.buffer.hasSubscribersFor_iff view.origin message table
    | hasSubscribers topic addressee => rfl
    | make topic payload detector => rfl
    | _ => trivial

theorem EventState.Passes.agree {e later : EventState ω}
    {exchanges : List (Exchange (passageInterface σ ω))}
    (passes : Passes table geometry e exchanges later) :
    ∀ x ∈ exchanges, x.question.Agrees table x.answer := by
  induction passes with
  | refl e => exact List.forall_mem_nil _
  | ask c _ ih => exact List.forall_mem_cons.mpr ⟨Passage.answers_agree _ _ c, ih⟩

/-- In a run, what modules ask is what they may ask with answers that agree with the table. -/
theorem Machine.exchanges_agree {plan : RunPlan σ ω} {allowed : PassageQuestion σ ω → Prop}
    (asks : ∀ index, (Passage.through index plan.modules).OnlyAsksGiven
      (PassageQuestion.Agrees plan.table) allowed) {workers : Nat} {schedule : List Nat} :
    ∀ x ∈ (start plan workers).exchanges plan schedule,
      allowed x.question ∧ x.question.Agrees plan.table x.answer := by
  intro x member
  obtain ⟨before, id, _, _, made⟩ := mem_exchanges_iff.mp member
  obtain ⟨buffer, index, question, next, state, found, rfl⟩ := exchange?_eq_some_iff.mp made
  obtain ⟨exchanges, reaches, passes⟩ :=
    (historyInvariant_follow plan workers before).inside _ (List.mem_of_getElem? found)
  exact ⟨((asks index).reaches reaches passes.agree).2.1, Passage.answers_agree _ _ _⟩

end Agreement

namespace ChargeDepositor

variable (table : SubscriptionTable ω) (d : ChargeDepositor)

/-- Something receives the deposits of this depositor. -/
def IsHeard : Prop :=
  table.hasSubscribersFor .deposits (some d.detector.name) = true

/-- What a depositor asks: whether its deposits are received, and only if so for charges and a
message of them to dispatch to its detector. -/
def Permits : EventQuestion σ ω → Prop
  | .hasSubscribers topic addressee => topic = .deposits ∧ addressee = some d.detector.name
  | .dispatch topic message =>
    d.IsHeard table ∧ topic = .deposits ∧ message.detectorName = some d.detector.name
  | .make .. | .draw _ => d.IsHeard table
  | _ => False

/-- The same of the questions in an event that come from one module. -/
def PermitsFrom (module : ModuleId) : PassageQuestion HitCounts ω → Prop
  | .enter .. => True
  | .inside view q => view.module = module → d.Permits table q

theorem onlyAsksGiven_run :
    (d.run : EventProgram HitCounts ω Unit).run.OnlyAsksGiven (EventQuestion.Agrees table)
      (d.Permits table) := by
  refine d.onlyAsksGiven_of_deposits ⟨rfl, rfl⟩ fun answered => ?_
  have heard : d.IsHeard table := answered.symm
  have draws : (d.drawCharges d.pixels []).run.OnlyAsks (d.Permits table) :=
    d.onlyAsks_drawCharges (fun _ => heard) d.pixels []
  refine EventProgram.onlyAsksGiven_bind draws.given fun charges => ?_
  -- the message is addressed to the detector that it was made for
  refine EventProgram.onlyAsksGiven_ask heard fun (message : Message .deposits) made => ?_
  have addressed : message.detectorName = some d.detector.name :=
    congrArg (Option.map Detector.name) made
  exact EventProgram.onlyAsksGiven_ask ⟨heard, rfl, addressed⟩ fun _ _ => trivial

end ChargeDepositor

section Runs

variable {plan : RunPlan HitCounts ω} {i : ReadyModule HitCounts ω} {d : ChargeDepositor}
  {workers : Nat} {schedule : List Nat}

theorem ChargeDepositor.permits_own (numbers : (plan.modules.map (·.id)).Nodup)
    (member : i ∈ plan.modules) (body : i.body = d.toModule) :
    ∀ x ∈ ((Machine.start plan workers).exchanges plan schedule).filterMap (Passage.own? i.id),
      d.Permits plan.table x.question ∧ x.question.Agrees plan.table x.answer := by
  have asks (index : UInt64) : (Passage.through index plan.modules).OnlyAsksGiven
      (PassageQuestion.Agrees plan.table) (d.PermitsFrom plan.table i.id) := by
    refine Passage.onlyAsksGiven_through (fun _ _ => trivial) fun j listed => ?_
    by_cases same : j.id = i.id
    · cases List.inj_on_of_nodup_map numbers listed member same
      rw [body]
      exact (d.onlyAsksGiven_run plan.table).mono fun _ permitted _ => permitted
    · exact ((Interaction.onlyAsks_true _).mono fun _ _ own => absurd own same).given
  intro x own
  obtain ⟨view, mine, made⟩ := Passage.mem_own_iff.mp own
  obtain ⟨permitted, agrees⟩ := Machine.exchanges_agree asks _ made
  exact ⟨permitted mine, agrees⟩

/-- Each dispatch of a depositor is a deposit for its detector, which is received. -/
theorem ChargeDepositor.received_of_mem_sent (numbers : (plan.modules.map (·.id)).Nodup)
    (member : i ∈ plan.modules) (body : i.body = d.toModule) {x : ModuleId × DispatchRecord}
    (sent : x ∈ (Machine.start plan workers).sent plan schedule) (own : x.1 = i.id) :
    x.2.topic = .deposits ∧ x.2.detector = some d.detector.name ∧ 1 ≤ x.2.deliveries := by
  obtain ⟨exchange, made, same⟩ := List.mem_filterMap.mp sent
  obtain ⟨view, topic, message, count, rfl, rfl⟩ := Passage.dispatch_of_sent same
  obtain ⟨⟨heard, rfl, addressed⟩, agrees⟩ := ChargeDepositor.permits_own numbers member body
    ⟨.dispatch topic message, count⟩ (Passage.mem_own_iff.mpr ⟨view, own, made⟩)
  refine ⟨rfl, addressed, agrees.mp ?_⟩
  rw [addressed]
  exact heard

theorem ChargeDepositor.own_of_unheard (numbers : (plan.modules.map (·.id)).Nodup)
    (member : i ∈ plan.modules) (body : i.body = d.toModule)
    (unheard : plan.table.hasSubscribersFor .deposits (some d.detector.name) = false) :
    ∀ x ∈ ((Machine.start plan workers).exchanges plan schedule).filterMap (Passage.own? i.id),
      x = ⟨.hasSubscribers .deposits (some d.detector.name), false⟩ := by
  intro x own
  obtain ⟨permitted, agrees⟩ := ChargeDepositor.permits_own numbers member body x own
  have silent : ¬d.IsHeard plan.table := ne_true_of_eq_false unheard
  obtain ⟨question, answer⟩ := x
  cases question with
  | hasSubscribers topic addressee =>
    obtain ⟨rfl, rfl⟩ := permitted
    exact congrArg (Exchange.mk _) (agrees.trans unheard)
  | dispatch topic message => exact absurd permitted.1 silent
  | make topic payload detector => exact absurd permitted silent
  | draw draw => exact absurd permitted silent
  | _ => exact permitted.elim

end Runs

namespace Simulation

theorem depositor_of_prepared {τ : Type} {answers : Interaction.Answers fileInterface τ} {files : τ}
    {types : List (ModuleType HitCounts ω)}
    (registered : ChargeDepositor.moduleType ∈ (Registry.empty.addAll types).1.types)
    {config : RunConfig} {given : Option Geometry} {processors : Nat} {geometry : Geometry}
    {s : Simulation HitCounts ω}
    (prepared : ((prepare (Registry.empty.addAll types).1 config given processors).resultFrom
      (.start geometry) answers files).1 = .ok s)
    {i : ReadyModule HitCounts ω} (member : i ∈ s.modules)
    (name : i.identifier.name = "ChargeDepositor") :
    ∃ d : ChargeDepositor, i.body = d.toModule ∧ i.detectors.head? = some d.detector := by
  have distinct : ((Registry.empty.addAll types).1.types.map (·.name)).Nodup :=
    Registry.nodup_addAll types .nil
  obtain ⟨_, _, _, setUp⟩ := (prepare_asks _ config given processors (.start geometry)).ok prepared
  obtain ⟨_, asked, _⟩ := exists_inquiry setUp.modules (numbers_of_prepared prepared) member
  exact ChargeDepositor.ofSetUp asked distinct registered name

/-- The check for subscribers predicts a dispatch. Whatever table, buffer and message there are,
subscribers are known for the addressee just if dispatching the message is delivered; in a run, what
one module was told holds for the dispatches of all, in any event and of any worker. So each
dispatch of a depositor is delivered, and no warning is given under the name of one; a depositor
whose deposit nothing would receive asks for nothing but that, so it neither dispatches nor draws. -/
theorem subscriber_check_predicts_dispatch [Inhabited σ] :
    (∀ (table : SubscriptionTable ω) (b : EventBuffer) (origin : String) (topic : Topic)
      (m : Message topic), table.hasSubscribersFor topic m.detectorName = true ↔
        1 ≤ (b.dispatch table origin m).count) ∧
    (∀ (s : Simulation σ ω) workers schedule,
      let exchanges := (Machine.start s.plan workers).exchanges s.plan schedule
      ∀ (asking speaking : EventView) (topic : Topic) (m : Message topic) (received : Bool)
        (count : Nat),
        ⟨.inside asking (.hasSubscribers topic m.detectorName), received⟩ ∈ exchanges →
        ⟨.inside speaking (.dispatch topic m), count⟩ ∈ exchanges →
        (received = true ↔ 1 ≤ count)) ∧
    ∀ {τ : Type} (types : List (ModuleType HitCounts ω)),
      ChargeDepositor.moduleType ∈ (Registry.empty.addAll types).1.types →
      ∀ (config : RunConfig) (given : Option Geometry) (processors : Nat) (geometry : Geometry)
        (answers : Interaction.Answers fileInterface τ) (files : τ) (s : Simulation HitCounts ω),
      ((prepare (Registry.empty.addAll types).1 config given processors).resultFrom
        (.start geometry) answers files).1 = .ok s →
      (∃ schedule, s.run = s.conclude ((Machine.start s.plan s.workers).follow s.plan schedule)) ∧
      ∀ workers schedule,
        let m := (Machine.start s.plan workers).follow s.plan schedule
        (∀ i ∈ s.modules, i.identifier.name = "ChargeDepositor" →
          ∃ d : ChargeDepositor, i.body = d.toModule ∧ i.detectors.head? = some d.detector ∧
            (∀ x ∈ (Machine.start s.plan workers).sent s.plan schedule, x.1 = i.id →
              x.2.topic = .deposits ∧ x.2.detector = some d.detector.name ∧ 1 ≤ x.2.deliveries) ∧
            (s.table.hasSubscribersFor .deposits (some d.detector.name) = false →
              ∀ x ∈ ((Machine.start s.plan workers).exchanges s.plan schedule).filterMap
                (Passage.own? i.id),
                x = ⟨.hasSubscribers .deposits (some d.detector.name), false⟩)) ∧
        ∀ {υ : Type} (answers : Interaction.Answers fileInterface υ) (files : υ),
          ∀ r ∈ m.commons.reports ++ ((s.conclude m).run answers files).1.reports,
            ∀ typeName origin, r.warning? = some (typeName, origin) →
              (∃ i ∈ s.modules, i.identifier.display = origin ∧
                i.identifier.name ≠ "ChargeDepositor") ∧
              ((∀ s ∈ config.modules, ∃ origin text read,
                  Document.read origin text = .ok read ∧ s ∈ read) →
                ∀ i ∈ s.modules, i.identifier.name = "ChargeDepositor" →
                  i.identifier.display ≠ origin) := by
  refine ⟨fun table b origin topic m => b.hasSubscribersFor_iff origin m table, ?_, ?_⟩
  · intro s workers schedule exchanges asking speaking topic m received count asked dispatched
    have agree : ∀ x ∈ exchanges, True ∧ x.question.Agrees s.plan.table x.answer :=
      Machine.exchanges_agree fun _ => (Interaction.onlyAsks_true _).given
    have told : received = s.table.hasSubscribersFor topic m.detectorName := (agree _ asked).2
    rw [told]
    exact (agree _ dispatched).2
  intro τ types registered config given processors geometry answers files s prepared
  have distinct : ((Registry.empty.addAll types).1.types.map (·.name)).Nodup :=
    Registry.nodup_addAll types .nil
  have numbers : (s.plan.modules.map (·.id)).Nodup := numbers_of_prepared prepared
  constructor
  · obtain ⟨schedule, same, _⟩ := Machine.exists_complete s.plan s.workers
    exact ⟨schedule, congrArg s.conclude same⟩
  intro workers schedule m
  constructor
  · intro i member name
    obtain ⟨d, body, own⟩ := depositor_of_prepared registered prepared member name
    exact ⟨d, body, own,
      fun x sent => ChargeDepositor.received_of_mem_sent numbers member body sent,
      ChargeDepositor.own_of_unheard numbers member body⟩
  · intro υ answers files r present typeName origin about
    obtain ⟨x, sent, _, name, none⟩ := s.exists_lost present about
    obtain ⟨i, member, number, display⟩ := Machine.origin_of_mem_sent sent
    have other : i.identifier.name ≠ "ChargeDepositor" := by
      intro same
      obtain ⟨d, body, _⟩ := depositor_of_prepared registered prepared member same
      have received := (ChargeDepositor.received_of_mem_sent numbers member body sent number).2.2
      omega
    refine ⟨⟨i, member, display.symm.trans name, other⟩, fun written j listed same shown => ?_⟩
    have names := names_of_prepared distinct written prepared
    have alike : j.identifier.display = i.identifier.display :=
      shown.trans (name.symm.trans display)
    cases List.inj_on_of_nodup_map names listed member alike
    exact other same

private def slab (name : String) (slot : Nat) : Placement :=
  ⟨⟨name, slot, 0, ⟨"slab", 8, 8, .replicate 2 0.03, 0.05, .monolithic⟩, .replicate 3 0,
    .replicate 3 0⟩, .empty⟩

private def slabs : Geometry where
  models := [(slab "front" 0).detector.model]
  placements := [slab "front" 0, slab "back" 1]
  index := (Dictionary.empty.insert "front" 0).insert "back" 1
  isSealed := false

/-- Depositors for two detectors, and a digitizer for one of them. -/
private def halfHeard : RunConfig where
  globals := ((Section.new globalName none).set "random_seed" "7").set "number_of_events" "2"
  modules := [(Section.new "ChargeDepositor" none).set "pixels_per_event" "0",
    .new "ThresholdDigitizer" (some "front")]

private def hearing : Except SetupError (Simulation HitCounts Unit) :=
  ((prepare (Registry.empty.addAll chainModules).1 halfHeard (some slabs) 2).resultFrom
    (.start .empty) FileTree.answers ⟨[]⟩).1

private def heard : Simulation HitCounts Unit :=
  match hearing with
  | .ok s => s
  | .error _ => ⟨[], .empty, .empty, .new "" none, ⟨0, 0, 0, false⟩, 0⟩

/-- The digitizer receives the deposits of one depositor, and nothing its hits: of these there is a
warning. The other depositor asks in both events if it would be heard, and does nothing. -/
theorem unheard_depositor_only_asks :
    hearing = .ok heard ∧ ∃ front ∈ heard.modules, ∃ back ∈ heard.modules,
      front.identifier.display = "ChargeDepositor:front" ∧
      back.identifier.display = "ChargeDepositor:back" ∧
      let schedule := (List.replicate 26 [0, 1]).flatten
      let m := (Machine.start heard.plan 2).follow heard.plan schedule
      let sent := (Machine.start heard.plan 2).sent heard.plan schedule
      let own := ((Machine.start heard.plan 2).exchanges heard.plan schedule).filterMap
        (Passage.own? back.id)
      m.isOver = true ∧ sent.countP (·.1 == front.id) = 2 ∧
        (∀ x ∈ sent, x.1 = front.id → 1 ≤ x.2.deliveries) ∧ own.length = 2 ∧
        (∀ x ∈ own, x = ⟨.hasSubscribers .deposits (some "back"), false⟩) ∧
        m.commons.reports = [.undelivered .hits "ThresholdDigitizer:front" (some "front")] ∧
        front.identifier.display ≠ "ThresholdDigitizer:front" := by
  have made : hearing = .ok heard := rfl
  have modules : heard.modules.map (fun i => (i.id, i.identifier.name, i.identifier.display,
      i.detectors.map (·.name))) =
        [(0, "ChargeDepositor", "ChargeDepositor:front", ["front"]),
          (1, "ChargeDepositor", "ChargeDepositor:back", ["back"]),
          (2, "ThresholdDigitizer", "ThresholdDigitizer:front", ["front"])] := rfl
  obtain ⟨front, rest, split, first, others⟩ := List.map_eq_cons_iff.mp modules
  obtain ⟨back, rest, rfl, second, _⟩ := List.map_eq_cons_iff.mp others
  simp only [Prod.mk.injEq] at first second
  obtain ⟨zero, deposits, shown, _⟩ := first
  obtain ⟨one, depositsToo, shownToo, bound⟩ := second
  have here : front ∈ heard.modules := by simp [split]
  have there : back ∈ heard.modules := by simp [split]
  have unheard : heard.plan.table.hasSubscribersFor .deposits (some "back") = false := by
    decide +kernel
  have reports : ((Machine.start heard.plan 2).follow heard.plan
      (List.replicate 26 [0, 1]).flatten).commons.reports =
        [.undelivered .hits "ThresholdDigitizer:front" (some "front")] := by decide +kernel
  have written : ∀ s ∈ halfHeard.modules, ∃ origin text read,
      Document.read origin text = .ok read ∧ s ∈ read :=
    fun s present => ⟨none, "[ChargeDepositor]\npixels_per_event = 0\n[ThresholdDigitizer:front]\n",
      halfHeard.modules, rfl, present⟩
  obtain ⟨_, runs⟩ := (subscriber_check_predicts_dispatch (σ := Unit)).2.2 chainModules
    (List.mem_cons_self ..) halfHeard (some slabs) 2 .empty FileTree.answers ⟨[]⟩ heard made
  obtain ⟨depositors, warnings⟩ := runs 2 (List.replicate 26 [0, 1]).flatten
  obtain ⟨_, _, _, received, _⟩ := depositors front here deposits
  obtain ⟨d, _, own, _, silent⟩ := depositors back there depositsToo
  have name : d.detector.name = "back" := by
    have heads := congrArg List.head? bound
    rw [List.head?_map, own] at heads
    exact Option.some.inj heads
  rw [name] at silent
  refine ⟨made, front, here, back, there, shown, shownToo, by decide +kernel, ?_,
    fun x sent mine => (received x sent mine).2.2, ?_, silent unheard, reports, ?_⟩
  · rw [zero]
    decide +kernel
  · rw [one]
    decide +kernel
  · have given : Report.undelivered .hits "ThresholdDigitizer:front" (some "front") ∈
        ((Machine.start heard.plan 2).follow heard.plan
          (List.replicate 26 [0, 1]).flatten).commons.reports := by
      rw [reports]
      exact List.mem_singleton_self _
    exact (warnings FileTree.answers ⟨[]⟩ _ (List.mem_append_left _ given) _ _ rfl).2 written
      front here deposits

end Simulation

end DetectorSim
