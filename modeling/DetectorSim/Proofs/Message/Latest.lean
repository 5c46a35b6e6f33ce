import DetectorSim.Proofs.Message.Fetching

/-! Fetching the latest message against fetching all of them. The latest is searched among the
joined inboxes of a module, all are sorted first; both depend on what was dispatched in the event,
and on nothing that the buffer held before. -/

namespace DetectorSim.EventBuffer

open SubscriptionTable

variable {ω : Type} {t : Topic}

/-- The buffer after the dispatches of several events, cleared between any two of them. -/
def afterEvents (table : SubscriptionTable ω) (events : List (List Dispatch)) : EventBuffer :=
  events.foldl (fun b dispatches => dispatches.foldl
    (fun b d => (b.dispatch table d.origin d.message.message).buffer) b.clear) (new table.size)

section Reuse

variable (table : SubscriptionTable ω)

theorem length_inboxes_foldl (dispatches : List Dispatch) (b : EventBuffer) :
    (dispatches.foldl (fun b d => (b.dispatch table d.origin d.message.message).buffer)
      b).inboxes.length = b.inboxes.length := by
  induction dispatches generalizing b with
  | nil => rfl
  | cons d rest ih => rw [List.foldl_cons, ih, dispatch_inboxes]

theorem length_inboxes_afterEvents (events : List (List Dispatch)) :
    (afterEvents table events).inboxes.length = table.size := by
  induction events using List.reverseRecOn with
  | nil => exact List.length_replicate
  | append_singleton earlier dispatches ih =>
    rw [afterEvents, List.foldl_append]
    exact (length_inboxes_foldl table dispatches _).trans (List.length_map _ |>.trans ih)

/-- A buffer that served other events holds as much of an event as a new one. -/
theorem afterEvents_concat (earlier : List (List Dispatch)) (dispatches : List Dispatch) :
    afterEvents table (earlier ++ [dispatches]) = dispatchAll table dispatches := by
  have cleared : (afterEvents table earlier).clear = new table.size := by
    rw [clear_eq_new, length_inboxes_afterEvents]
  rw [dispatchAll, ← cleared, afterEvents, List.foldl_append]
  rfl

end Reuse

section Agreement

variable {subscriptions : List (Subscription ω)} {module : ModuleId}

theorem owned_eq_nil_iff : owned subscriptions t module = [] ↔
    ¬∃ s ∈ subscriptions, s.owner = module ∧ s.topic = t := by
  rw [owned, List.filter_eq_nil_iff]
  simp

theorem topic_of_received {dispatches : List Dispatch} {ds : List Delivery}
    (received : (dispatchAll (ofList subscriptions) dispatches).received (ofList subscriptions) t
      module = .ok ds) : ∀ d ∈ ds, d.message.topic = t := by
  rw [received_dispatchAll] at received
  split at received
  · cases received
  · cases received
    intro d member
    obtain ⟨s, owning, taken⟩ := List.mem_flatMap.mp member
    have toTopic := (Bool.and_eq_true_iff.mp (List.mem_filter.mp owning).2).2
    have takes := (Bool.and_eq_true_iff.mp (List.mem_filter.mp taken).2).1
    exact (of_decide_eq_true takes).symm.trans (of_decide_eq_true toTopic)

theorem typed_of_topic {d : Delivery} (same : d.message.topic = t) :
    ∃ m : Message t, d.message = ⟨t, m⟩ ∧ typed t d = .ok m := by
  obtain ⟨sequence, topic, m⟩ := d
  subst same
  exact ⟨m, rfl, by simp [typed]⟩

variable {b : EventBuffer} {table : SubscriptionTable ω}

theorem fetch_of_unexpected
    (none : b.received table t module = .error (.unexpected t)) :
    b.fetch table t module = .error (.unexpected t) ∧
      b.fetchAll table t module = .error (.unexpected t) := by
  rw [fetch, fetchAll, none]
  exact ⟨rfl, rfl⟩

/-- Where all messages are fetched, the latest is fetched unless there are none. -/
theorem fetch_of_messages {messages : List (Message t)}
    (all : b.fetchAll table t module = .ok messages) :
    (∀ nonempty : messages ≠ [], b.fetch table t module = .ok (messages.getLast nonempty)) ∧
      (messages = [] → b.fetch table t module = .error (.missing t)) := by
  have latest := fetch_of_fetchAll all
  constructor
  · intro nonempty
    rw [latest, List.getLast?_eq_some_getLast nonempty]
    rfl
  · rintro rfl
    exact latest

end Agreement

/-- The two ways of fetching agree. In an event, whatever the buffer served before, both refuse a
module just if it has no subscription to the topic, whatever was dispatched. For any other module
all messages are fetched; the latest is the last of them, and is missing just if there are none. No
message that a module receives is of another topic than the one it asks for. -/
theorem fetch_agrees_with_fetchAll (subscriptions : List (Subscription ω))
    (earlier : List (List Dispatch)) (dispatches : List Dispatch) (t : Topic)
    (module : ModuleId) :
    let table := ofList subscriptions
    let b := afterEvents table (earlier ++ [dispatches])
    let subscribes := ∃ s ∈ subscriptions, s.owner = module ∧ s.topic = t
    (b.fetch table t module = .error (.unexpected t) ↔ ¬subscribes) ∧
    (b.fetchAll table t module = .error (.unexpected t) ↔ ¬subscribes) ∧
    (subscribes → ∃ messages, b.fetchAll table t module = .ok messages ∧
      (∀ nonempty : messages ≠ [],
        b.fetch table t module = .ok (messages.getLast nonempty)) ∧
      (b.fetch table t module = .error (.missing t) ↔ messages = [])) ∧
    ∀ ds, b.received table t module = .ok ds →
      ∀ d ∈ ds, ∃ m : Message t, d.message = ⟨t, m⟩ ∧ typed t d = .ok m := by
  intro table b subscribes
  have same : b = dispatchAll table dispatches := afterEvents_concat table earlier dispatches
  have received := received_dispatchAll subscriptions dispatches t module
  have all := fetchAll_dispatchAll subscriptions dispatches t module
  rw [← same] at received all
  have readable : ∀ ds, b.received table t module = .ok ds →
      ∀ d ∈ ds, ∃ m : Message t, d.message = ⟨t, m⟩ ∧ typed t d = .ok m := by
    rw [same]
    exact fun ds found d member => typed_of_topic (topic_of_received found d member)
  by_cases subscribed : subscribes
  · have owning : owned subscriptions t module ≠ [] :=
      fun none => owned_eq_nil_iff.mp none subscribed
    obtain ⟨messages, all⟩ : ∃ messages, b.fetchAll table t module = .ok messages :=
      ⟨_, all.trans (if_neg owning)⟩
    obtain ⟨latest, missing⟩ := fetch_of_messages all
    have unrefused : b.fetch table t module ≠ .error (.unexpected t) := by
      intro refused
      by_cases empty : messages = []
      · cases refused.symm.trans (missing empty)
      · cases refused.symm.trans (latest empty)
    have served : b.fetchAll table t module ≠ .error (.unexpected t) := by
      intro refused
      cases refused.symm.trans all
    refine ⟨iff_of_false unrefused (not_not_intro subscribed),
      iff_of_false served (not_not_intro subscribed), fun _ => ⟨messages, all, latest, ?_⟩,
      readable⟩
    refine ⟨fun absent => ?_, missing⟩
    by_contra nonempty
    cases absent.symm.trans (latest nonempty)
  · rw [if_pos (owned_eq_nil_iff.mpr subscribed)] at received
    obtain ⟨latest, refused⟩ := fetch_of_unexpected received
    exact ⟨iff_of_true latest subscribed, iff_of_true refused subscribed,
      fun subscribes => absurd subscribes subscribed, readable⟩

private def pulse : Topic :=
  .custom "pulse"

private def arm : Detector :=
  ⟨"arm", 0, 0, ⟨"plane", 8, 8, .replicate 2 0.03, 0.05, .monolithic⟩, .replicate 3 0,
    .replicate 3 0⟩

/-- A module takes all pulses and once more those of one detector; another module takes none. -/
private def doubled : List (Subscription Unit) :=
  [⟨1, pulse, .any, .none, none⟩, ⟨1, pulse, .detector "arm", .none, none⟩]

/-- The latest message need not be the last one in the joined inboxes, and nothing is left in them
of an earlier event. -/
theorem latest_precedes_a_repeated_message :
    let table := ofList doubled
    let first : Message pulse := ⟨0, (5 : Int), some arm⟩
    let second : Message pulse := ⟨1, (7 : Int), none⟩
    let b := afterEvents table ([[⟨"source", pulse, first⟩]] ++
      [[⟨"source", pulse, first⟩, ⟨"source", pulse, second⟩]])
    (∃ s ∈ doubled, s.owner = 1 ∧ s.topic = pulse) ∧
      (b.received table pulse 1).map (·.map (·.sequence)) = .ok [0, 1, 0] ∧
      b.fetchAll table pulse 1 = .ok [first, first, second] ∧
      b.fetch table pulse 1 = .ok second ∧
      b.fetch table pulse 0 = .error (.unexpected pulse) := by
  intro table first second b
  have agrees := fetch_agrees_with_fetchAll doubled [[⟨"source", pulse, first⟩]]
    [⟨"source", pulse, first⟩, ⟨"source", pulse, second⟩] pulse
  have subscribed : ∃ s ∈ doubled, s.owner = 1 ∧ s.topic = pulse :=
    ⟨_, List.mem_cons_self .., rfl, rfl⟩
  have all : b.fetchAll table pulse 1 = .ok [first, first, second] := rfl
  obtain ⟨messages, found, latest, _⟩ := (agrees 1).2.2.1 subscribed
  cases all.symm.trans found
  refine ⟨subscribed, rfl, all, latest (List.cons_ne_nil _ _), (agrees 0).1.mpr ?_⟩
  rintro ⟨s, member, own, _⟩
  rcases List.mem_pair.mp member with rfl | rfl <;> cases own

end DetectorSim.EventBuffer
