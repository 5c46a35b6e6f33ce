import DetectorSim.Proofs.Chain.Assembly
import DetectorSim.Proofs.Chain.Runs
import DetectorSim.Proofs.Run.Gates

/-! The messages of a chain in an event. A counter receives the hits that the modules before it
dispatched; if only digitizers dispatch hits, those for a detector are the ones that its digitizer
found in the latest deposit it received. -/

namespace DetectorSim

open Interaction (Exchange)
open SubscriptionTable (ofList)
open EventBuffer (dispatchAll owned)

variable {σ ω : Type}

namespace RunPlan

variable [Inhabited σ] (plan : RunPlan σ ω)

/-- Whether a module runs in an event that is taken alone. -/
def runsIn (module : ModuleId) (index : UInt64) : Bool :=
  module ∈ (plan.conversation index).filterMap Passage.entered?

/-- The events that reach a module. -/
def reaching (module : ModuleId) : List UInt64 :=
  plan.indices.filter (plan.runsIn module)

/-- The messages of a topic that the modules before a place dispatch in an event. -/
def messagesBelow (t : Topic) (place : ModuleId) (index : UInt64) : List (Message t) :=
  ((plan.conversation index).filterMap (Passage.dispatchBelow? place)).filterMap
    (·.message.as? t)

/-- The latest deposit for a detector that the modules before a place dispatch in an event. -/
def depositFor (name : String) (place : ModuleId) (index : UInt64) : Option (Message .deposits) :=
  ((plan.messagesBelow .deposits place index).filter (·.detectorName == some name)).getLast?

end RunPlan

/-- The deposit that a module fetches. -/
def fetched? : Exchange (eventInterface σ ω) → Option (Message .deposits)
  | ⟨.fetch .deposits, answer⟩ =>
    let answer : Except MessageError (Message .deposits) := answer
    answer.toOption
  | _ => none

/-- The deposit that a module fetches in an event that is taken alone. -/
def RunPlan.depositOf [Inhabited σ] (plan : RunPlan σ ω) (module : ModuleId) (index : UInt64) :
    Option (Message .deposits) :=
  ((plan.conversation index).filterMap (Passage.own? module)).findSome? fetched?

/-- The message of hits that a module dispatches. -/
def hit? (x : Exchange (eventInterface σ ω)) : Option (Message .hits) :=
  match x.question with
  | .dispatch topic message => (AnyMessage.mk topic message).as? .hits
  | _ => none

theorem filterMap_hit_eq_nil {own : List (Exchange (eventInterface σ ω))}
    (none : ∀ x ∈ own, ¬EventQuestion.dispatches .hits x.question) : own.filterMap hit? = [] := by
  refine List.filterMap_eq_nil_iff.mpr fun x member => ?_
  have silent := none x member
  obtain ⟨question, answer⟩ := x
  cases question with
  | dispatch topic message => exact dif_neg silent
  | _ => rfl

namespace Passage

/-- The hits that an exchange of a passage dispatches, with the module that dispatches them. -/
def hitBy? (x : Exchange (passageInterface σ ω)) : Option (ModuleId × Message .hits) :=
  match x.question with
  | .inside view (.dispatch topic message) =>
    ((AnyMessage.mk topic message).as? .hits).map (view.module, ·)
  | _ => none

theorem bind_own_hit (module : ModuleId) (x : Exchange (passageInterface σ ω)) :
    (own? module x).bind hit? = (hitBy? x).bind fun (owner, hits) =>
      if owner = module then some hits else none := by
  obtain ⟨question, answer⟩ := x
  cases question with
  | enter event asked => rfl
  | inside view q =>
    by_cases mine : view.module = module
    · cases q with
      | dispatch topic message =>
        cases read : (AnyMessage.mk topic message).as? .hits <;>
          simp [own?, hitBy?, hit?, mine, read]
      | _ => simp [own?, hitBy?, hit?, mine]
    · cases q with
      | dispatch topic message =>
        cases read : (AnyMessage.mk topic message).as? .hits <;> simp [own?, hitBy?, mine, read]
      | _ => simp [own?, hitBy?, mine]

theorem bind_dispatchBelow_hit (place : ModuleId) (x : Exchange (passageInterface σ ω)) :
    (dispatchBelow? place x).bind (·.message.as? .hits) = (hitBy? x).bind fun (owner, hits) =>
      if owner < place then some hits else none := by
  obtain ⟨question, answer⟩ := x
  cases question with
  | enter event asked => rfl
  | inside view q =>
    cases q with
    | dispatch topic message =>
      by_cases below : view.module < place <;>
        cases read : (AnyMessage.mk topic message).as? .hits <;>
          simp [dispatchBelow?, hitBy?, below, read]
    | _ => rfl

theorem among_of_hitBy {among : ModuleId → Prop} {x : Exchange (passageInterface σ ω)}
    (about : IsAbout among x.question) {owner : ModuleId} {hits : Message .hits}
    (dispatched : hitBy? x = some (owner, hits)) : among owner := by
  obtain ⟨question, answer⟩ := x
  cases question with
  | enter event asked => cases dispatched
  | inside view q =>
    cases q with
    | dispatch topic message =>
      obtain ⟨_, _, same⟩ := Option.map_eq_some_iff.mp dispatched
      cases same
      exact about
    | _ => cases dispatched

end Passage

section Requests

variable {subscriptions : List (Subscription ω)} {module : ModuleId} {only : Subscription ω}

theorem owned_eq (requested : subscriptions.filter (·.owner == module) = [only]) :
    owned subscriptions only.topic module = [only] := by
  have split : owned subscriptions only.topic module =
      (subscriptions.filter (·.owner == module)).filter (·.topic = only.topic) := by
    rw [owned, List.filter_filter]
    exact List.filter_congr fun _ _ => Bool.and_comm ..
  rw [split, requested]
  simp

/-- One message is all that a module waits for, if it subscribes only once. -/
theorem satisfied_of_takes (requested : subscriptions.filter (·.owner == module) = [only])
    {dispatches : List Dispatch} {d : Dispatch} (present : d ∈ dispatches)
    (taken : only.takes d.message.message = true) : Satisfied subscriptions dispatches module := by
  intro s listed own _
  have mine : s ∈ subscriptions.filter (·.owner == module) :=
    List.mem_filter.mpr ⟨listed, beq_iff_eq.mpr own⟩
  rw [requested] at mine
  cases List.mem_singleton.mp mine
  exact ⟨d, present, taken⟩

end Requests

namespace ReadyModule.Digitizes

variable {i : ReadyModule HitCounts ω} {d : ThresholdDigitizer}
  {subscriptions : List (Subscription ω)} {plan : RunPlan HitCounts ω} {index : UInt64}
  {exchanges : List (Exchange (passageInterface HitCounts ω))} {outcome : EventOutcome}
  {own : List (Exchange (eventInterface HitCounts ω))}

/-- A digitizer did not run, ended its event, or dispatched one message, for its detector, with the
hits of the deposit that it fetched. -/
theorem hits_of_part (digitizes : i.Digitizes d subscriptions)
    (part : plan.Part index i exchanges outcome own) :
    (i.id ∉ exchanges.filterMap Passage.entered? ∧ own = []) ∨
    (outcome.endedBy? = some i.id ∧ own.filterMap hit? = []) ∨
    ∃ (deposits : Message .deposits) (hits : Message .hits),
      own.findSome? fetched? = some deposits ∧ own.filterMap hit? = [hits] ∧
      hits.payload = d.hitsOf deposits.payload ∧ hits.detector = some d.detector ∧
      (dispatchAll plan.table (exchanges.filterMap (Passage.dispatchBelow? i.id))).fetch plan.table
        .deposits i.id = .ok deposits := by
  cases part with
  | idle absent => exact .inl ⟨absent, rfl⟩
  | @ran k later _ ending entered buffer passes runs halts =>
    refine .inr ?_
    rw [digitizes.body] at runs
    rcases ThresholdDigitizer.reaches_run runs with
      ⟨answer, halt, rfl, failed⟩ | ⟨deposits, hits, count, rfl⟩
    · exact .inl ⟨halts halt failed, rfl⟩
    · obtain ⟨_, fetched, onwards⟩ := passes.inside
      obtain ⟨_, made, _⟩ := onwards.inside
      refine .inr ⟨deposits, hits, rfl, rfl, ?_, ?_, ?_⟩
      · exact congrArg Message.payload made
      · exact congrArg Message.detector made
      · rw [← buffer]
        exact fetched.symm

theorem satisfied_of_deposit (digitizes : i.Digitizes d subscriptions)
    {dispatches : List Dispatch} {m : Message .deposits}
    (dispatched : m ∈ dispatches.filterMap (·.message.as? .deposits))
    (addressed : m.detectorName = some d.detector.name) :
    Satisfied subscriptions dispatches i.id := by
  obtain ⟨⟨origin, topic, message⟩, present, same⟩ := List.mem_filterMap.mp dispatched
  by_cases deposits : topic = .deposits
  · subst deposits
    cases (AnyMessage.as?_self message).symm.trans same
    refine satisfied_of_takes digitizes.requested present ?_
    exact Bool.and_eq_true_iff.mpr ⟨decide_eq_true rfl, beq_iff_eq.mpr addressed⟩
  · cases (dif_neg deposits).symm.trans same

theorem fetch_eq (digitizes : i.Digitizes d subscriptions) (dispatches : List Dispatch) :
    (dispatchAll (ofList subscriptions) dispatches).fetch (ofList subscriptions) .deposits i.id =
      ((dispatches.filterMap (·.message.as? .deposits)).filter
        (·.detectorName == some d.detector.name)).getLast?.elim
          (.error (.missing .deposits)) .ok := by
  have only := owned_eq digitizes.requested
  exact EventBuffer.fetch_of_fetchAll (EventBuffer.fetchAll_of_owned _ dispatches only)

end ReadyModule.Digitizes

namespace Simulation.HasChain

variable {s : Simulation HitCounts ω} {subscriptions : List (Subscription ω)}

theorem exists_around (chain : s.HasChain subscriptions) {i : ReadyModule HitCounts ω}
    (member : i ∈ s.modules) : ∃ before after, s.plan.modules = before ++ i :: after ∧
      (∀ j ∈ before, j.id < i.id) ∧ ∀ j ∈ after, i.id < j.id := by
  refine ReadyModule.exists_around ?_ member
  exact List.pairwise_map.mp (chain.ids ▸ List.pairwise_lt_range)

theorem part (chain : s.HasChain subscriptions) {i : ReadyModule HitCounts ω}
    (member : i ∈ s.modules) (index : UInt64) :
    s.plan.Part index i (s.plan.conversation index)
      (s.plan.processEvent index s.plan.commons).1
      ((s.plan.conversation index).filterMap (Passage.own? i.id)) := by
  obtain ⟨_, _, split, lower, higher⟩ := chain.exists_around member
  exact (s.plan.tells_conversation index).part split lower higher

/-- An event that reaches a module was not ended by a module before it. -/
theorem le_endedBy (chain : s.HasChain subscriptions) {i : ReadyModule HitCounts ω}
    (member : i ∈ s.modules) {index : UInt64} (reached : s.plan.runsIn i.id index = true)
    {module : ModuleId}
    (ended : (s.plan.processEvent index s.plan.commons).1.endedBy? = some module) :
    i.id ≤ module := by
  obtain ⟨_, _, split, lower, higher⟩ := chain.exists_around member
  have reaches := (s.plan.tells_conversation index).reaches
  rw [split] at reaches
  exact (Passage.turn_of_reaches reaches lower higher).le_endedBy (of_decide_eq_true reached) ended

/-- A counter changes its memory by the hits dispatched before it, if the event reaches it. -/
theorem changes_counter (chain : s.HasChain subscriptions) {counter : ReadyModule HitCounts ω}
    (member : counter ∈ s.modules) (name : counter.identifier.name = "HitCounter")
    (index : UInt64) : s.plan.changes counter.id index =
      if s.plan.runsIn counter.id index then
        HitCounts.changes (s.plan.messagesBelow .hits counter.id index)
      else [] := by
  have part := chain.part member index
  obtain ⟨⟨_, body⟩, requested⟩ := chain.counters counter member name
  rw [RunPlan.changes, Passage.changes_eq_own]
  generalize (s.plan.conversation index).filterMap (Passage.own? counter.id) = own at part
  cases part with
  | idle absent =>
    have unreached : ¬s.plan.runsIn counter.id index = true := fun runs =>
      absent (of_decide_eq_true runs)
    exact (if_neg unreached).symm
  | @ran k later _ ending entered buffer passes runs halts =>
    have reached : s.plan.runsIn counter.id index = true := decide_eq_true entered
    rw [body] at runs
    obtain ⟨answer, rest, rfl, changes⟩ := HitCounter.reaches_run runs
    obtain ⟨memory, answered, _⟩ := passes.inside
    refine (changes _ (answered.trans ?_)).trans (if_pos reached).symm
    change k.buffer.fetchAll s.table .hits counter.id = _
    rw [buffer, show s.plan.table = ofList subscriptions from chain.table, chain.table,
      EventBuffer.fetchAll_of_owned subscriptions _ (owned_eq requested)]
    exact congrArg Except.ok (List.filter_eq_self.mpr fun m _ => rfl)

section Hits

variable (silent : ∀ j ∈ s.modules, ¬j.OfChain → ∀ view,
  (j.body.run view).run.OnlyAsks fun q => ¬EventQuestion.dispatches .hits q)

include silent

theorem onlyAsks_of_name (chain : s.HasChain subscriptions) {j : ReadyModule HitCounts ω}
    (member : j ∈ s.modules) (apart : j.identifier.name ≠ "ThresholdDigitizer")
    (view : EventView) :
    (j.body.run view).run.OnlyAsks fun q => ¬EventQuestion.dispatches .hits q := by
  rcases chain.kinds member with ⟨d, body⟩ | ⟨d, digitizes⟩ | ⟨_, body⟩ | other
  · rw [body]
    exact d.onlyAsks_run.mono fun q plain => plain.2
  · exact absurd (congrArg Identifier.name digitizes.identifier) apart
  · rw [body]
    exact HitCounter.onlyAsks_run
  · exact silent j member other view

/-- Hits are dispatched by digitizers, under the names of their detectors. -/
theorem identifier_of_hit (chain : s.HasChain subscriptions) {j : ReadyModule HitCounts ω}
    (member : j ∈ s.modules) (index : UInt64) {m : Message .hits}
    (dispatched : m ∈ ((s.plan.conversation index).filterMap (Passage.own? j.id)).filterMap hit?) :
    j.identifier = ⟨"ThresholdDigitizer", .detector (HitCounts.keyOf m)⟩ := by
  have part := chain.part member index
  generalize (s.plan.conversation index).filterMap (Passage.own? j.id) = own at part dispatched
  by_cases named : j.identifier.name = "ThresholdDigitizer"
  · obtain ⟨d, digitizes⟩ := chain.digitizers j member named
    rcases digitizes.hits_of_part part with
      ⟨_, rfl⟩ | ⟨_, none⟩ | ⟨deposits, hits, _, only, _, addressed, _⟩
    · cases dispatched
    · rw [none] at dispatched
      cases dispatched
    · rw [only] at dispatched
      cases List.mem_singleton.mp dispatched
      rw [digitizes.identifier, HitCounts.keyOf, Message.detectorName, addressed]
      rfl
  · have none := filterMap_hit_eq_nil (part.asks (onlyAsks_of_name silent chain member named _))
    rw [none] at dispatched
    cases dispatched

theorem exists_digitizer_of_hit (chain : s.HasChain subscriptions) {index : UInt64}
    {x : Exchange (passageInterface HitCounts ω)} (present : x ∈ s.plan.conversation index)
    {owner : ModuleId} {m : Message .hits} (dispatched : Passage.hitBy? x = some (owner, m)) :
    ∃ j ∈ s.modules, j.id = owner ∧
      j.identifier = ⟨"ThresholdDigitizer", .detector (HitCounts.keyOf m)⟩ := by
  have about : ∀ x ∈ s.plan.conversation index,
      Passage.IsAbout (fun module => ∃ j ∈ s.modules, j.id = module) x.question :=
    Passage.through_isAbout (fun j known => ⟨j, known, rfl⟩)
      (s.plan.tells_conversation index).reaches
  obtain ⟨j, listed, rfl⟩ := Passage.among_of_hitBy (about x present) dispatched
  refine ⟨j, listed, rfl, identifier_of_hit silent chain listed index ?_⟩
  rw [List.filterMap_filterMap]
  refine List.mem_filterMap.mpr ⟨x, present, ?_⟩
  rw [Passage.bind_own_hit, dispatched]
  exact if_pos rfl

/-- The hits for a detector are those that its digitizer dispatched. -/
theorem under_messagesBelow (chain : s.HasChain subscriptions) {i : ReadyModule HitCounts ω}
    (member : i ∈ s.modules) {d : ThresholdDigitizer} (digitizes : i.Digitizes d subscriptions)
    {place : ModuleId} (before : i.id < place) (index : UInt64) :
    HitCounts.under d.detector.name (s.plan.messagesBelow .hits place index) =
      ((s.plan.conversation index).filterMap (Passage.own? i.id)).filterMap hit? := by
  have numbers : (s.modules.map (·.id)).Nodup := chain.ids ▸ List.nodup_range
  rw [HitCounts.under, RunPlan.messagesBelow, List.filterMap_filterMap, List.filter_filterMap,
    List.filterMap_filterMap]
  refine List.filterMap_congr fun x present => ?_
  rw [Passage.bind_dispatchBelow_hit, Passage.bind_own_hit]
  cases dispatched : Passage.hitBy? x with
  | none => rfl
  | some found =>
    obtain ⟨owner, m⟩ := found
    obtain ⟨j, listed, rfl, named⟩ := exists_digitizer_of_hit silent chain present dispatched
    by_cases mine : j.id = i.id
    · have key : HitCounts.keyOf m = d.detector.name := by
        rw [List.inj_on_of_nodup_map numbers listed member mine, digitizes.identifier] at named
        exact (Binding.detector.inj (Identifier.mk.inj named).2).symm
      simp [mine, before, key]
    · have key : HitCounts.keyOf m ≠ d.detector.name := by
        intro key
        rw [key, ← digitizes.identifier] at named
        have own := List.inj_on_of_nodup_map chain.identities listed member named
        exact mine (own ▸ rfl)
      by_cases below : j.id < place <;> simp [mine, below, key]

end Hits

section Deposits

variable {i later : ReadyModule HitCounts ω} {d : ThresholdDigitizer} {index : UInt64}

/-- In an event that reaches a later module, a digitizer fetches the latest deposit for its
detector, if there is any. -/
theorem depositOf_eq (chain : s.HasChain subscriptions) (member : i ∈ s.modules)
    (digitizes : i.Digitizes d subscriptions) (listed : later ∈ s.modules)
    (before : i.id < later.id) (reached : s.plan.runsIn later.id index = true) :
    s.plan.depositOf i.id index = s.plan.depositFor d.detector.name i.id index := by
  have tells := s.plan.tells_conversation index
  have unended {module : ModuleId}
      (ended : (s.plan.processEvent index s.plan.commons).1.endedBy? = some module) :
      i.id < module := Nat.lt_of_lt_of_le before (chain.le_endedBy listed reached ended)
  rcases digitizes.hits_of_part (chain.part member index) with
    ⟨absent, own⟩ | ⟨ended, _⟩ | ⟨deposits, hits, found, _, _, _, fetched⟩
  · obtain ⟨_, _, split, lower, higher⟩ := chain.exists_around member
    have idle : ¬Satisfied subscriptions
        ((s.plan.conversation index).filterMap (Passage.dispatchBelow? i.id)) i.id := by
      intro satisfied
      have entered := (tells.entered_iff chain.table split lower higher).mpr
        ⟨fun other below halted => ?_, satisfied⟩
      · rw [tells.passes.entered] at entered
        exact absent entered
      · exact Nat.lt_asymm below (unended ((Passage.haltedBy_iff tells.reaches).mp halted))
    rw [RunPlan.depositOf, own]
    refine (List.getLast?_eq_none_iff.mpr (List.filter_eq_nil_iff.mpr ?_)).symm
    intro m dispatched addressed
    exact idle (digitizes.satisfied_of_deposit dispatched (beq_iff_eq.mp addressed))
  · exact absurd (unended ended) (Nat.lt_irrefl _)
  · rw [show s.plan.table = ofList subscriptions from chain.table, digitizes.fetch_eq] at fetched
    change (s.plan.depositFor d.detector.name i.id index).elim _ _ = _ at fetched
    rw [RunPlan.depositOf, found]
    generalize s.plan.depositFor d.detector.name i.id index = latest at fetched ⊢
    cases latest with
    | none => cases fetched
    | some m =>
      cases fetched
      rfl

/-- In such an event, the hits for a detector are the charges in this deposit that reach the
threshold of its digitizer. -/
theorem total_of_runsIn (chain : s.HasChain subscriptions)
    (silent : ∀ j ∈ s.modules, ¬j.OfChain → ∀ view,
      (j.body.run view).run.OnlyAsks fun q => ¬EventQuestion.dispatches .hits q)
    (member : i ∈ s.modules) (digitizes : i.Digitizes d subscriptions)
    (listed : later ∈ s.modules) (before : i.id < later.id)
    (reached : s.plan.runsIn later.id index = true) :
    HitCounts.total (HitCounts.under d.detector.name
        (s.plan.messagesBelow .hits later.id index)) =
      (s.plan.depositOf i.id index).elim 0 fun m =>
        (Deposits.charges m.payload).countP (d.threshold ≤ ·.charge) := by
  rw [under_messagesBelow silent chain member digitizes before, RunPlan.depositOf]
  rcases digitizes.hits_of_part (chain.part member index) with
    ⟨_, own⟩ | ⟨ended, _⟩ | ⟨deposits, hits, found, only, payload, _, _⟩
  · rw [own]
    rfl
  · have after := chain.le_endedBy listed reached ended
    exact absurd (Nat.lt_of_lt_of_le before after) (Nat.lt_irrefl _)
  · rw [found, only]
    change Hits.size hits.payload + 0 = _
    rw [payload]
    exact List.countP_eq_length_filter.symm

end Deposits

end Simulation.HasChain

end DetectorSim
