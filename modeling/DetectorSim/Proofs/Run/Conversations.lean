import DetectorSim.Proofs.Run.Turns

/-! Events taken alone. Between the questions of such an event nothing else happens, so that its
whole conversation is known in advance; if no module looks at its memory, then what the modules of
any event do is what they do in that conversation. -/

namespace DetectorSim

open Interaction (Exchange)

namespace Interaction

variable {I : Interface} {α σ τ : Type}

/-- The exchanges of a program whose questions are answered from a state. -/
def asked (answers : Answers I σ) : Interaction I α → σ → List (Exchange I)
  | done _, _ => []
  | ask q next, s => ⟨q, (answers q s).1⟩ :: (next (answers q s).1).asked answers (answers q s).2

theorem reaches_asked (answers : Answers I σ) (p : Interaction I α) (s : σ) :
    p.Reaches (p.asked answers s) (.done (p.run answers s).1) := by
  induction p generalizing s with
  | done a => exact .refl _
  | ask q next ih => exact .ask _ (ih _ _)

/-- What a program asks does not depend on a part of the state that only shows in answers that it
ignores. -/
theorem questions_of_ignores {hidden : I.Question → Prop} {answers : Answers I (σ × τ)}
    {p : Interaction I α} (blind : p.Ignores hidden)
    (shown : ∀ q s t t', ¬hidden q → (answers q (s, t)).1 = (answers q (s, t')).1)
    (visible : ∀ q s t t', (answers q (s, t)).2.1 = (answers q (s, t')).2.1) (s : σ) (t t' : τ) :
    (p.asked answers (s, t)).map (·.question) = (p.asked answers (s, t')).map (·.question) := by
  induction p generalizing s t t' with
  | done a => rfl
  | ask q next ih =>
    have onwards : next (answers q (s, t)).1 = next (answers q (s, t')).1 := by
      by_cases unseen : hidden q
      · exact blind.1 unseen _ _
      · exact congrArg next (shown q s t t' unseen)
    have same : (answers q (s, t)).2 = ((answers q (s, t')).2.1, (answers q (s, t)).2.2) :=
      Prod.ext (visible q s t t') rfl
    rw [asked, asked, List.map_cons, List.map_cons, onwards, same]
    exact congrArg _ (ih _ (blind.2 _) _ _ _)

end Interaction

variable {σ ω : Type}

/-- What workers share before any event. -/
def RunPlan.commons (plan : RunPlan σ ω) : Commons σ :=
  ⟨plan.modules.map (·.body.memory), [], [], []⟩

/-- The indices of all events of a run. -/
def RunPlan.indices (plan : RunPlan σ ω) : List UInt64 :=
  (List.range plan.events.toNat).map UInt64.ofNat

variable [Inhabited σ]

/-- The exchanges of an event that is taken alone, in a fresh buffer and before any other. -/
def RunPlan.conversation (plan : RunPlan σ ω) (index : UInt64) :
    List (Exchange (passageInterface σ ω)) :=
  (Passage.through index plan.modules).asked (Passage.answers plan.table plan.geometry)
    (.start (.new plan.table.size) plan.seed index, plan.commons)

theorem EventState.passes_asked (table : SubscriptionTable ω) (geometry : Geometry) {α : Type}
    (p : Passage σ ω α) (e : EventState ω) (c : Commons σ) :
    Passes table geometry e (p.asked (Passage.answers table geometry) (e, c))
      (p.run (Passage.answers table geometry) (e, c)).2.1 := by
  induction p generalizing e c with
  | done a => exact .refl e
  | ask q next ih => exact .ask c (ih _ _ _)

/-- A question of a module is answered from the state of the event and some memory. -/
theorem EventState.Passes.inside {table : SubscriptionTable ω} {geometry : Geometry}
    {e later : EventState ω} {view : EventView} {q : EventQuestion σ ω} {answer : q.Answer}
    {rest : List (Exchange (passageInterface σ ω))}
    (passes : Passes table geometry e (⟨.inside view q, answer⟩ :: rest) later) :
    ∃ memory : σ, answer = (e.reply table geometry memory view q).1 ∧
      Passes table geometry (e.reply table geometry memory view q).2 rest later := by
  obtain _ | ⟨c, onwards⟩ := passes
  exact ⟨_, rfl, onwards⟩

/-- Whether a module is let in does not change the messages of an event. -/
theorem EventState.Passes.entering {table : SubscriptionTable ω} {geometry : Geometry}
    {e later : EventState ω} {event : UInt64} {module : ModuleId} {entered : Bool}
    {rest : List (Exchange (passageInterface σ ω))}
    (passes : Passes table geometry e (⟨.enter event module, entered⟩ :: rest) later) :
    ∃ k : EventState ω, k.buffer = e.buffer ∧ Passes table geometry k rest later := by
  obtain _ | ⟨c, onwards⟩ := passes
  exact ⟨_, buffer_answers (.enter event module) e c, onwards⟩

/-- In an event, a module either did nothing, or ran in a state that holds the messages of those
before it. If its run ended early then so did the event. -/
inductive RunPlan.Part (plan : RunPlan σ ω) (index : UInt64) (i : ReadyModule σ ω)
    (exchanges : List (Exchange (passageInterface σ ω))) (outcome : EventOutcome) :
    List (Exchange (eventInterface σ ω)) → Prop where
  | idle (absent : i.id ∉ exchanges.filterMap Passage.entered?) :
      Part plan index i exchanges outcome []
  | ran {k later : EventState ω} {own : List (Exchange (eventInterface σ ω))}
      {ending : Except Halt Unit} (entered : i.id ∈ exchanges.filterMap Passage.entered?)
      (buffer : k.buffer = EventBuffer.dispatchAll plan.table
        (exchanges.filterMap (Passage.dispatchBelow? i.id)))
      (passes : EventState.Passes plan.table plan.geometry k
        (own.map (Passage.within (i.eventView index))) later)
      (runs : (i.body.run (i.eventView index)).run.Reaches own (.done ending))
      (halts : ∀ halt, ending = .error halt → outcome.endedBy? = some i.id) :
      Part plan index i exchanges outcome own

theorem RunPlan.Part.asks {plan : RunPlan σ ω} {index : UInt64} {i : ReadyModule σ ω}
    {exchanges : List (Exchange (passageInterface σ ω))} {outcome : EventOutcome}
    {own : List (Exchange (eventInterface σ ω))} (part : plan.Part index i exchanges outcome own)
    {allowed : EventQuestion σ ω → Prop}
    (asks : (i.body.run (i.eventView index)).run.OnlyAsks allowed) :
    ∀ x ∈ own, allowed x.question := by
  cases part with
  | idle absent => exact List.forall_mem_nil _
  | ran _ _ _ runs _ => exact (asks.reaches runs).1

theorem RunPlan.Tells.part {plan : RunPlan σ ω} {index : UInt64} {e : EventState ω}
    {exchanges : List (Exchange (passageInterface σ ω))} {outcome : EventOutcome}
    {before after : List (ReadyModule σ ω)} {i : ReadyModule σ ω}
    (tells : plan.Tells index exchanges (.done outcome) e)
    (split : plan.modules = before ++ i :: after)
    (lower : ∀ j ∈ before, j.id < i.id) (higher : ∀ j ∈ after, i.id < j.id) :
    plan.Part index i exchanges outcome (exchanges.filterMap (Passage.own? i.id)) := by
  have turn := Passage.turn_of_reaches (split ▸ tells.reaches) lower higher
  have passes := tells.passes
  cases turn with
  | missed ended lower below =>
    rw [Passage.filterMap_own_of_isAbout below (Nat.lt_irrefl _)]
    exact .idle fun listed => Nat.lt_irrefl _ (Passage.among_of_entered below listed)
  | @refused first later outcome below above unended =>
    have none : (first ++ ⟨.enter index i.id, false⟩ :: later).filterMap
        (Passage.own? i.id) = [] := by
      rw [List.filterMap_append, Passage.filterMap_own_of_isAbout below (Nat.lt_irrefl _)]
      change later.filterMap (Passage.own? i.id) = []
      exact Passage.filterMap_own_of_isAbout above (Nat.lt_irrefl _)
    rw [none]
    exact .idle (Passage.not_entered_of_refused below above)
  | @ran first later outcome own ending below above unended runs halts =>
    have mine : (first ++ ⟨.enter index i.id, true⟩ ::
        (own.map (Passage.within (i.eventView index)) ++ later)).filterMap
          (Passage.own? i.id) = own := by
      rw [List.filterMap_append, Passage.filterMap_own_of_isAbout below (Nat.lt_irrefl _)]
      change (own.map (Passage.within (i.eventView index)) ++ later).filterMap _ = own
      rw [List.filterMap_append, Passage.filterMap_own_within,
        Passage.filterMap_own_of_isAbout above (Nat.lt_irrefl _), List.append_nil]
    obtain ⟨k, passed, turned⟩ := EventState.passes_append_iff.mp passes
    obtain ⟨k', same, onwards⟩ := turned.entering
    obtain ⟨_, asked, _⟩ := EventState.passes_append_iff.mp onwards
    rw [mine]
    refine .ran (Passage.entered_of_ran ..) ?_ asked runs fun halt same => ?_
    · rw [same, passed.buffer_dispatchAll,
        Passage.filterMap_dispatchBelow below (Passage.isAbout_turn own above)]
    · rw [halts halt same, EventOutcome.endedBy?_ofHalt]
      rfl

theorem RunPlan.tells_conversation (plan : RunPlan σ ω) (index : UInt64) :
    let ended := plan.processEvent index plan.commons
    plan.Tells index (plan.conversation index) (.done ended.1) ended.2 where
  reaches := Interaction.reaches_asked ..
  passes := EventState.passes_asked ..

end DetectorSim
