import DetectorSim.Proofs.Run.Histories
import DetectorSim.Proofs.Run.Turns

/-! Who runs in an event. Modules are asked for in order until one of them ends the event, and one
is let in just if each of its required subscriptions took a message that modules before it
dispatched. -/

namespace DetectorSim

open Interaction (Exchange)
open SubscriptionTable (ofList)

variable {σ ω : Type}
section Requirements

variable (subscriptions : List (Subscription ω)) (dispatches : List Dispatch)

/-- What a module requires is there if each of its required subscriptions took a message. -/
def Satisfied (module : ModuleId) : Prop :=
  ∀ s ∈ subscriptions, s.owner = module → s.flags.required = true →
    ∃ d ∈ dispatches, s.takes d.message.message = true

namespace EventBuffer

theorem inbox_isEmpty_iff {place : Nat} {s : Subscription ω}
    (found : subscriptions[place]? = some s) :
    ((dispatchAll (ofList subscriptions) dispatches).inbox place).isEmpty = true ↔
      ∀ d ∈ dispatches, ¬s.takes d.message.message = true := by
  rw [inbox_dispatchAll subscriptions dispatches found, List.isEmpty_iff, List.filter_eq_nil_iff]
  have messages := map_message_numbered dispatches
  constructor
  · intro none d member
    have present : d.message ∈ (numbered dispatches).map (·.message) :=
      messages ▸ List.mem_map.mpr ⟨d, member, rfl⟩
    obtain ⟨delivery, listed, same⟩ := List.mem_map.mp present
    exact same ▸ none delivery listed
  · intro none delivery listed
    have present : delivery.message ∈ dispatches.map (·.message) :=
      messages ▸ List.mem_map.mpr ⟨delivery, listed, rfl⟩
    obtain ⟨d, member, same⟩ := List.mem_map.mp present
    exact same ▸ none d member

/-- Nothing required is missing just if each required subscription of the module took a message. -/
theorem missingRequired_eq_none_iff (module : ModuleId) :
    (dispatchAll (ofList subscriptions) dispatches).missingRequired (ofList subscriptions) module =
      none ↔ Satisfied subscriptions dispatches module := by
  rw [missingRequired, Option.map_eq_none_iff, List.find?_eq_none,
    SubscriptionTable.subscriptions_ofList]
  constructor
  · intro full s member own required
    obtain ⟨place, found⟩ := List.mem_iff_getElem?.mp member
    have held := full (s, place) (List.mem_zipIdx_iff_getElem?.mpr found)
    have missed := mt (inbox_isEmpty_iff subscriptions dispatches found).mpr fun empty => held (by
      simp [own, required, Flags.contains, empty])
    obtain ⟨d, taken⟩ := Classical.not_forall.mp missed
    obtain ⟨present, taken⟩ := Classical.not_imp.mp taken
    exact ⟨d, present, Classical.not_not.mp taken⟩
  · rintro satisfied ⟨s, place⟩ listed empty
    have found : subscriptions[place]? = some s := List.mem_zipIdx_iff_getElem?.mp listed
    simp only [Flags.contains, Flags.onlyRequired, Bool.and_eq_true, beq_iff_eq, Bool.not_true,
      Bool.or_false] at empty
    obtain ⟨⟨own, required⟩, empty⟩ := empty
    obtain ⟨d, present, taken⟩ := satisfied s (List.mem_of_getElem? found) own required
    exact (inbox_isEmpty_iff subscriptions dispatches found).mp empty d present taken

theorem fetches_of_takes {s : Subscription ω} (member : s ∈ subscriptions) {d : Dispatch}
    (present : d ∈ dispatches) (taken : s.takes d.message.message = true) :
    let b := dispatchAll (ofList subscriptions) dispatches
    (∃ message, b.fetch (ofList subscriptions) s.topic s.owner = .ok message) ∧
      ∃ messages, b.fetchAll (ofList subscriptions) s.topic s.owner = .ok messages ∧
        messages ≠ [] := by
  intro b
  obtain ⟨origin, topic, message⟩ := d
  have toTopic : s.topic = topic := of_decide_eq_true (Bool.and_eq_true_iff.mp taken).1
  subst toTopic
  have owning : s ∈ owned subscriptions s.topic s.owner := by simp [owned, member]
  have all := fetchAll_dispatchAll subscriptions dispatches s.topic s.owner
  rw [if_neg (List.ne_nil_of_mem owning)] at all
  have received : message ∈ (dispatches.filterMap (·.message.as? s.topic)).flatMap fun m =>
      List.replicate ((owned subscriptions s.topic s.owner).countP (·.takes m)) m := by
    refine List.mem_flatMap.mpr ⟨message, ?_, ?_⟩
    · exact List.mem_filterMap.mpr ⟨_, present, AnyMessage.as?_self message⟩
    · refine List.mem_replicate.mpr ⟨?_, rfl⟩
      exact Nat.pos_iff_ne_zero.mp (List.countP_pos_iff.mpr ⟨s, owning, taken⟩)
  have nonempty := List.ne_nil_of_mem received
  refine ⟨?_, _, all, nonempty⟩
  rw [fetch_of_fetchAll all, List.getLast?_eq_some_getLast nonempty]
  exact ⟨_, rfl⟩

end EventBuffer

end Requirements

/-- Asking first whether a module requires anything makes no difference. -/
theorem EventState.admits_eq (e : EventState ω) (table : SubscriptionTable ω) (module : ModuleId) :
    e.admits table module = (e.buffer.missingRequired table module).isNone := by
  rw [admits]
  cases required : table.hasRequired module with
  | true => rfl
  | false =>
    have none : e.buffer.missingRequired table module = none := by
      rw [EventBuffer.missingRequired, Option.map_eq_none_iff, List.find?_eq_none]
      rintro ⟨s, place⟩ listed missing
      have member : s ∈ table.subscriptions :=
        List.mem_of_getElem? (List.mem_zipIdx_iff_getElem?.mp listed)
      have unneeded := List.any_eq_false.mp required s member
      simp only [Bool.and_eq_true] at missing unneeded
      exact unneeded missing.1
    rw [none]
    rfl

section Gate

variable [Inhabited σ] {plan : RunPlan σ ω} {subscriptions : List (Subscription ω)}
  {seed index : UInt64} {exchanges : List (Exchange (passageInterface σ ω))} {e : EventState ω}

/-- A module is let in just if what it requires was dispatched so far. -/
theorem EventState.Passes.admits_iff {table : SubscriptionTable ω} {geometry : Geometry}
    (passes : Passes table geometry (.start (.new table.size) seed index) exchanges e)
    (listed : table = ofList subscriptions) (module : ModuleId) : e.admits table module = true ↔
      Satisfied subscriptions (exchanges.filterMap Passage.dispatch?) module := by
  rw [e.admits_eq, passes.buffer_dispatchAll, listed, Option.isNone_iff_eq_none,
    EventBuffer.missingRequired_eq_none_iff]

theorem EventState.Passes.answered {table : SubscriptionTable ω} {geometry : Geometry}
    {later : EventState ω} {module : ModuleId} {entered : Bool}
    (passes : Passes table geometry e (⟨.enter index module, entered⟩ :: exchanges) later) :
    entered = e.admits table module := by
  obtain _ | ⟨c, _⟩ := passes
  rw [Passage.answers]
  split
  · exact Eq.symm ‹_›
  · exact (Bool.eq_false_iff.mpr ‹_›).symm

variable {outcome : EventOutcome}

/-- A module has run in an event just if none before it returned an error or panicked, and what it
requires was dispatched by those before it. -/
theorem RunPlan.Tells.entered_iff {before after : List (ReadyModule σ ω)} {i : ReadyModule σ ω}
    (tells : plan.Tells index exchanges (.done outcome) e)
    (table : plan.table = ofList subscriptions) (split : plan.modules = before ++ i :: after)
    (lower : ∀ j ∈ before, j.id < i.id) (higher : ∀ j ∈ after, i.id < j.id) :
    i.id ∈ e.entered ↔
      (∀ other < i.id, ¬Passage.HaltedBy index plan.modules exchanges other) ∧
      Satisfied subscriptions (exchanges.filterMap (Passage.dispatchBelow? i.id)) i.id := by
  have entered : e.entered = exchanges.filterMap Passage.entered? := tells.passes.entered
  have unhalted : (∀ other < i.id, ¬Passage.HaltedBy index plan.modules exchanges other) ↔
      ∀ module, outcome.endedBy? = some module → i.id ≤ module := by
    simp only [Passage.haltedBy_iff tells.reaches]
    exact forall_congr' fun module => imp_not_comm.trans (imp_congr_right fun _ => Nat.not_lt)
  have turn := Passage.turn_of_reaches (split ▸ tells.reaches) lower higher
  have passes := tells.passes
  rw [entered, unhalted]
  cases turn with
  | @missed _ _ module ended lower below =>
    refine iff_of_false (fun listed => ?_) fun claimed => ?_
    · exact Nat.lt_irrefl _ (Passage.among_of_entered below listed)
    · exact Nat.not_le.mpr lower (claimed.1 module ended)
  | @refused first later outcome below above unended =>
    obtain ⟨k, passed, onwards⟩ := EventState.passes_append_iff.mp passes
    have gate := passed.admits_iff table i.id
    rw [← onwards.answered] at gate
    have behind : ∀ x ∈ ⟨.enter index i.id, false⟩ :: later,
        Passage.IsAbout (i.id ≤ ·) x.question := Passage.isAbout_turn [] above
    rw [Passage.filterMap_dispatchBelow below behind, ← gate]
    exact iff_of_false (Passage.not_entered_of_refused below above) (Bool.false_ne_true ·.2)
  | @ran first later outcome own ending below above unended runs halts =>
    obtain ⟨k, passed, onwards⟩ := EventState.passes_append_iff.mp passes
    have gate := passed.admits_iff table i.id
    rw [← onwards.answered] at gate
    rw [Passage.filterMap_dispatchBelow below (Passage.isAbout_turn own above), ← gate]
    exact iff_of_true (Passage.entered_of_ran ..) ⟨unended, rfl⟩

/-- A module that is inside of an event was let in, and what it required then is still there. -/
theorem RunPlan.Tells.inside {view : EventView} {q : EventQuestion σ ω}
    {next : q.Answer → Passage σ ω EventOutcome}
    (tells : plan.Tells index exchanges (.ask (.inside view q) next) e)
    (table : plan.table = ofList subscriptions) :
    view.module ∈ e.entered ∧
      Satisfied subscriptions (exchanges.filterMap Passage.dispatch?) view.module := by
  obtain ⟨first, rest, rfl⟩ := List.append_of_mem (Passage.entered_of_inside tells.reaches)
  constructor
  · rw [tells.passes.entered, List.filterMap_append]
    exact List.mem_append_right _ (List.mem_append_right _ (List.mem_cons_self ..))
  · obtain ⟨k, passed, later⟩ := EventState.passes_append_iff.mp tells.passes
    intro s member own required
    have admitted := (passed.admits_iff table view.module).mp later.answered.symm
    obtain ⟨d, present, taken⟩ := admitted s member own required
    rw [List.filterMap_append]
    exact ⟨d, List.mem_append_left _ present, taken⟩

namespace Machine

/-- Required messages gate modules. In every event of every run, a module has run just if no module
before it returned an error or panicked and each of its required subscriptions took a message that
the modules before it dispatched; at any time it would be let in just if they took one that was
dispatched so far. While it is inside, fetching what it requires finds a message. Asking first
whether a module requires anything never makes a difference. -/
theorem required_messages_gate_modules (modules : List (ReadyModule σ ω))
    (ordered : modules.map (·.id) = List.range modules.length)
    (subscriptions : List (Subscription ω)) (geometry : Geometry) (events seed : UInt64)
    (workers : Nat) (schedule : List Nat) :
    let plan : RunPlan σ ω := ⟨modules, ofList subscriptions, geometry, events, seed⟩
    let m := (start plan workers).follow plan schedule
    (∀ p ∈ m.processed, ∃ exchanges, plan.Tells p.index exchanges (.done p.outcome) p.state ∧
      ∀ position < modules.length, position ∈ p.state.entered ↔
        (∀ other < position, ¬Passage.HaltedBy p.index modules exchanges other) ∧
        Satisfied subscriptions (exchanges.filterMap (Passage.dispatchBelow? position)) position) ∧
    (∀ worker ∈ m.workers, ∀ index rest state, worker.phase = .working index rest state →
      ∃ exchanges, plan.Tells index exchanges rest state ∧
        (∀ module, state.admits plan.table module = true ↔
          Satisfied subscriptions (exchanges.filterMap Passage.dispatch?) module) ∧
        ∀ view q next, rest = .ask (.inside view q) next → view.module ∈ state.entered ∧
          ∀ s ∈ subscriptions, s.owner = view.module → s.flags.required = true →
            (∃ message, state.buffer.fetch plan.table s.topic view.module = .ok message) ∧
            ∃ messages, state.buffer.fetchAll plan.table s.topic view.module = .ok messages ∧
              messages ≠ []) ∧
    ∀ (e : EventState ω) table module,
      e.admits table module = (e.buffer.missingRequired table module).isNone := by
  intro plan m
  have valid := historyInvariant_follow plan workers schedule
  have increasing : modules.Pairwise (·.id < ·.id) :=
    List.pairwise_map.mp (ordered ▸ List.pairwise_lt_range)
  refine ⟨fun p present => ?_, fun worker member index rest state working => ?_,
    fun e table module => ?_⟩
  · obtain ⟨exchanges, tells⟩ := valid.processed p present
    refine ⟨exchanges, tells, fun position within => ?_⟩
    have listed : position ∈ modules.map (·.id) := ordered ▸ List.mem_range.mpr within
    obtain ⟨i, member, rfl⟩ := List.mem_map.mp listed
    obtain ⟨before, after, split, lower, higher⟩ := ReadyModule.exists_around increasing member
    exact tells.entered_iff rfl split lower higher
  · have told := valid.inside worker member
    rw [working] at told
    obtain ⟨exchanges, tells⟩ := told
    refine ⟨exchanges, tells, fun module => tells.passes.admits_iff rfl module, ?_⟩
    rintro view q next rfl
    obtain ⟨entered, satisfied⟩ := tells.inside rfl
    refine ⟨entered, fun s member own required => ?_⟩
    obtain ⟨d, dispatched, taken⟩ := satisfied s member own required
    rw [← own, tells.passes.buffer_dispatchAll]
    exact EventBuffer.fetches_of_takes subscriptions _ member dispatched taken
  · exact e.admits_eq table module

private def stage (id : ModuleId) (name : String) (run : EventView → EventProgram Unit Unit Unit) :
    ReadyModule Unit Unit :=
  ⟨id, ⟨name, .global⟩, .new name none, [], true, ⟨(), run, fun _ => pure ()⟩⟩

/-- A source that is silent in the second event, a sink, a module that skips all events, and one
behind it. -/
private def relay : List (ReadyModule Unit Unit) :=
  [stage 0 "source" fun view => do
      if view.index = 0 then
        let message ← EventProgram.make (.custom "pulse") (5 : Int) none
        let _ ← EventProgram.dispatch message,
    stage 1 "sink" fun _ => do
      let _ ← EventProgram.fetch (.custom "pulse"),
    stage 2 "veto" fun _ => EventProgram.fail (.skip "vetoed"),
    stage 3 "last" fun _ => pure ()]

/-- The sink requires a message, and would take others. -/
private def relayed : List (Subscription Unit) :=
  [⟨1, .custom "pulse", .detector "dut", .none, none⟩,
    ⟨1, .custom "pulse", .any, .onlyRequired, none⟩]

/-- The sink has run in the first event only, in want of a message in the second, and the last
module has not, behind one that returned an error. -/
theorem sink_waits_for_its_message :
    let plan : RunPlan Unit Unit := ⟨relay, ofList relayed, .empty, 2, 0⟩
    let m := (start plan 1).follow plan (List.replicate 24 0)
    relay.map (·.id) = List.range relay.length ∧
      m.processed.map (fun p => (p.index, p.state.entered)) = [(1, [0, 2]), (0, [0, 1, 2])] ∧
      ∃ p ∈ m.processed, p.index = 1 ∧
        ∃ exchanges, plan.Tells p.index exchanges (.done p.outcome) p.state ∧
          ¬Satisfied relayed (exchanges.filterMap (Passage.dispatchBelow? 1)) 1 ∧
          Passage.HaltedBy p.index relay exchanges 2 := by
  intro plan m
  have ordered : relay.map (·.id) = List.range relay.length := rfl
  have entered : m.processed.map (fun p => (p.index, p.state.entered)) =
      [(1, [0, 2]), (0, [0, 1, 2])] := by decide +kernel
  have gates := required_messages_gate_modules relay ordered relayed .empty 2 0 1
    (List.replicate 24 0)
  obtain ⟨p, rest, same, second, _⟩ := List.map_eq_cons_iff.mp entered
  have present : p ∈ m.processed := same ▸ List.mem_cons_self ..
  obtain ⟨index, ran⟩ := Prod.mk.inj second
  obtain ⟨exchanges, tells, gate⟩ := gates.1 p present
  rw [ran] at gate
  have unhindered := ((gate 2 (by decide)).mp (by decide)).1
  refine ⟨ordered, entered, p, present, index, exchanges, tells, fun satisfied => ?_, ?_⟩
  · refine absurd ((gate 1 (by decide)).mpr ⟨fun other lower => ?_, satisfied⟩) (by decide)
    exact unhindered other (Nat.lt_succ_of_lt lower)
  · have needless : Satisfied relayed (exchanges.filterMap (Passage.dispatchBelow? 3)) 3 := by
      intro s member own
      rcases List.mem_pair.mp member with rfl | rfl <;> cases own
    by_contra unhalted
    refine absurd ((gate 3 (by decide)).mpr ⟨fun other lower => ?_, needless⟩) (by decide)
    rcases Nat.lt_succ_iff_lt_or_eq.mp lower with before | rfl
    · exact unhindered other before
    · exact unhalted

end Machine

end Gate

end DetectorSim
