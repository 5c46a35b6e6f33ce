import DetectorSim.Proofs.Grouping
import DetectorSim.Proofs.Message.Delivery
import Mathlib.Data.List.Nodup

/-! What a module fetches after the dispatches of an event. An inbox holds what its subscription
took of them; the inboxes of a module are joined, and sorting by the order of dispatch brings the
copies of each message together again. -/

namespace DetectorSim

/-- A message with the module that dispatches it. -/
structure Dispatch where
  origin : String
  message : AnyMessage

/-- The record of a dispatch, by the subscriptions that take it. -/
def Dispatch.record {ω : Type} (subscriptions : List (Subscription ω)) (d : Dispatch) :
    DispatchRecord :=
  ⟨d.message.topic, d.message.message.detectorName, d.origin,
    subscriptions.countP (·.takes d.message.message)⟩

namespace EventBuffer

open SubscriptionTable

variable {ω : Type} {t : Topic}

section Order

theorem place_perm (d : Delivery) (sorted : List Delivery) :
    (place d sorted).Perm (d :: sorted) := by
  induction sorted with
  | nil => exact .refl _
  | cons first rest ih =>
    unfold place
    split
    · exact .refl _
    · exact (ih.cons first).trans (.swap d first rest)

theorem place_sorted (d : Delivery) {sorted : List Delivery}
    (order : sorted.Pairwise fun a b => a.sequence ≤ b.sequence) :
    (place d sorted).Pairwise fun a b => a.sequence ≤ b.sequence := by
  induction sorted with
  | nil => exact List.pairwise_singleton ..
  | cons first rest ih =>
    obtain ⟨least, order⟩ := List.pairwise_cons.mp order
    unfold place
    split
    · rename_i before
      refine List.pairwise_cons.mpr ⟨fun other member => ?_, List.pairwise_cons.mpr ⟨least, order⟩⟩
      rcases List.mem_cons.mp member with rfl | later
      · exact Nat.le_of_lt before
      · exact Nat.le_trans (Nat.le_of_lt before) (least other later)
    · rename_i notBefore
      refine List.pairwise_cons.mpr ⟨fun other member => ?_, ih order⟩
      rcases List.mem_cons.mp ((place_perm d rest).mem_iff.mp member) with rfl | later
      · exact Nat.not_lt.mp notBefore
      · exact least other later

theorem inDispatchOrder_concat (ds : List Delivery) (d : Delivery) :
    inDispatchOrder (ds ++ [d]) = place d (inDispatchOrder ds) := by
  simp [inDispatchOrder]

theorem inDispatchOrder_perm (ds : List Delivery) : (inDispatchOrder ds).Perm ds := by
  induction ds using List.reverseRecOn with
  | nil => exact .refl _
  | append_singleton rest d ih =>
    rw [inDispatchOrder_concat]
    exact ((place_perm d _).trans (ih.cons d)).trans (List.perm_append_singleton d rest).symm

theorem inDispatchOrder_sorted (ds : List Delivery) :
    (inDispatchOrder ds).Pairwise fun a b => a.sequence ≤ b.sequence := by
  induction ds using List.reverseRecOn with
  | nil => exact .nil
  | append_singleton rest d ih =>
    rw [inDispatchOrder_concat]
    exact place_sorted d ih

theorem getLast?_place (d : Delivery) {sorted : List Delivery}
    (order : sorted.Pairwise fun a b => a.sequence ≤ b.sequence) :
    (place d sorted).getLast? = later sorted.getLast? d := by
  induction sorted with
  | nil => rfl
  | cons first rest ih =>
    obtain ⟨least, order⟩ := List.pairwise_cons.mp order
    obtain ⟨last, found⟩ := Option.isSome_iff_exists.mp
      (List.getLast?_isSome.mpr (List.cons_ne_nil first rest))
    unfold place
    split
    · rename_i before
      have reaches : first.sequence ≤ last.sequence := by
        rcases List.mem_cons.mp (List.mem_of_getLast? found) with rfl | member
        · exact Nat.le_refl _
        · exact least last member
      rw [List.getLast?_cons_cons, found, later, if_pos (Nat.lt_of_lt_of_le before reaches)]
    · rename_i notBefore
      cases rest with
      | nil => simp [place, later, notBefore]
      | cons second others =>
        have nonempty : place d (second :: others) ≠ [] := by
          intro none
          have perm := place_perm d (second :: others)
          rw [none] at perm
          cases perm.nil_eq
        obtain ⟨head, tail, split⟩ := List.exists_cons_of_ne_nil nonempty
        rw [split, List.getLast?_cons_cons, ← split, ih order, List.getLast?_cons_cons]

theorem foldl_later (ds : List Delivery) :
    ds.foldl later none = (inDispatchOrder ds).getLast? := by
  induction ds using List.reverseRecOn with
  | nil => rfl
  | append_singleton rest d ih =>
    rw [List.foldl_append, ih, inDispatchOrder_concat,
      getLast?_place d (inDispatchOrder_sorted rest)]
    rfl

theorem map_typed_of_mapM {ds : List Delivery} {messages : List (Message t)}
    (read : ds.mapM (typed t) = .ok messages) : ds.map (typed t) = messages.map .ok := by
  induction ds generalizing messages with
  | nil =>
    cases read
    rfl
  | cons d rest ih =>
    rw [List.mapM_cons] at read
    cases first : typed t d with
    | error e =>
      rw [first] at read
      cases read
    | ok m =>
      cases others : rest.mapM (typed t) with
      | error e =>
        rw [first, others] at read
        cases read
      | ok ms =>
        rw [first, others] at read
        cases read
        rw [List.map_cons, List.map_cons, first, ih others]

theorem fetch_of_fetchAll {b : EventBuffer} {table : SubscriptionTable ω} {module : ModuleId}
    {messages : List (Message t)} (all : b.fetchAll table t module = .ok messages) :
    b.fetch table t module = messages.getLast?.elim (.error (.missing t)) .ok := by
  rw [fetchAll] at all
  rw [fetch]
  cases deliveries : b.received table t module with
  | error e =>
    rw [deliveries] at all
    cases all
  | ok ds =>
    rw [deliveries] at all
    have last := congrArg List.getLast? (map_typed_of_mapM all)
    rw [List.getLast?_map, List.getLast?_map] at last
    simp only [Except.bind, foldl_later]
    cases latest : (inDispatchOrder ds).getLast? with
    | none =>
      rw [latest] at last
      rw [Option.map_eq_none_iff.mp last.symm]
      rfl
    | some d =>
      rw [latest] at last
      cases same : messages.getLast? with
      | none =>
        rw [same] at last
        cases last
      | some m =>
        rw [same] at last
        exact Option.some.inj last

end Order

/-- The buffer after a sequence of dispatches. -/
def dispatchAll (table : SubscriptionTable ω) (dispatches : List Dispatch) : EventBuffer :=
  dispatches.foldl (fun b d => (b.dispatch table d.origin d.message.message).buffer)
    (new table.size)

/-- The messages of a sequence of dispatches as they are delivered. -/
def numbered (dispatches : List Dispatch) : List Delivery :=
  dispatches.zipIdx.map fun (d, sequence) => ⟨sequence, d.message⟩

section History

variable (subscriptions : List (Subscription ω)) (dispatches : List Dispatch)

theorem dispatchAll_concat (table : SubscriptionTable ω) (d : Dispatch) :
    dispatchAll table (dispatches ++ [d]) =
      ((dispatchAll table dispatches).dispatch table d.origin d.message.message).buffer := by
  simp [dispatchAll]

theorem numbered_concat (d : Dispatch) :
    numbered (dispatches ++ [d]) = numbered dispatches ++ [⟨dispatches.length, d.message⟩] := by
  simp [numbered, List.zipIdx_append]

theorem map_sequence_numbered :
    (numbered dispatches).map (·.sequence) = List.range dispatches.length := by
  induction dispatches using List.reverseRecOn with
  | nil => rfl
  | append_singleton rest d ih => simp [numbered_concat, ih, List.range_succ]

theorem map_message_numbered :
    (numbered dispatches).map (·.message) = dispatches.map (·.message) := by
  induction dispatches using List.reverseRecOn with
  | nil => rfl
  | append_singleton rest d ih => simp [numbered_concat, ih]

theorem records_dispatchAll :
    (dispatchAll (ofList subscriptions) dispatches).records =
      dispatches.map (·.record subscriptions) := by
  induction dispatches using List.reverseRecOn with
  | nil => rfl
  | append_singleton rest d ih =>
    rw [dispatchAll_concat, dispatch_records, ih, List.map_append]
    rfl

theorem inboxes_dispatchAll :
    (dispatchAll (ofList subscriptions) dispatches).inboxes.length = subscriptions.length := by
  induction dispatches using List.reverseRecOn with
  | nil => simp [dispatchAll, new]
  | append_singleton rest d ih => rw [dispatchAll_concat, dispatch_inboxes, ih]

/-- An inbox holds the messages that its subscription takes, in the order of dispatch. -/
theorem inbox_dispatchAll {place : Nat} {s : Subscription ω}
    (found : subscriptions[place]? = some s) :
    (dispatchAll (ofList subscriptions) dispatches).inbox place =
      (numbered dispatches).filter (s.takes ·.message.message) := by
  induction dispatches using List.reverseRecOn with
  | nil =>
    have within := (List.getElem?_eq_some_iff.mp found).1
    simp [dispatchAll, new, inbox, numbered, within]
  | append_singleton rest d ih =>
    rw [dispatchAll_concat, dispatch_inbox _ _ _ _ (inboxes_dispatchAll subscriptions rest), ih,
      records_dispatchAll, List.length_map, numbered_concat, List.filter_append, found,
      Option.any_some]
    by_cases taken : s.takes d.message.message = true
    · simp [taken]
    · simp [taken]

end History

section Fetching

variable (subscriptions : List (Subscription ω)) (dispatches : List Dispatch)

/-- The subscriptions of a module to a topic, in the order they were made. -/
def owned (t : Topic) (module : ModuleId) : List (Subscription ω) :=
  subscriptions.filter fun s => s.owner == module && s.topic = t

theorem lists_placesOf (t : Topic) (module : ModuleId) :
    (ofList subscriptions).Lists ((ofList subscriptions).placesOf t module)
      (owned subscriptions t module) := by
  have listed := lists_places subscriptions t
  rw [owned, ← List.filter_filter]
  refine List.rel_filter (fun place s found => ?_) listed
  simp only [found, Option.any_some]

/-- A module receives, subscription by subscription, what each took. -/
theorem received_dispatchAll (t : Topic) (module : ModuleId) :
    (dispatchAll (ofList subscriptions) dispatches).received (ofList subscriptions) t module =
      if owned subscriptions t module = [] then .error (.unexpected t)
      else .ok ((owned subscriptions t module).flatMap fun s =>
        (numbered dispatches).filter (s.takes ·.message.message)) := by
  have listed := lists_placesOf subscriptions t module
  unfold received
  split
  · rename_i none
    rw [none] at listed
    rw [if_pos (List.forall₂_nil_left_iff.mp listed)]
  · rename_i some
    have present : owned subscriptions t module ≠ [] := by
      intro none
      rw [none] at listed
      exact some (List.forall₂_nil_right_iff.mp listed)
    rw [if_neg present]
    congr 1
    refine List.forall₂_eq_eq_eq ▸ List.rel_flatMap listed fun place s found => ?_
    rw [inbox_dispatchAll subscriptions dispatches (by simpa using found)]
    exact List.forall₂_eq_eq_eq ▸ rfl

theorem numbered_injective {a b : Delivery} (left : a ∈ numbered dispatches)
    (right : b ∈ numbered dispatches) (same : a.sequence = b.sequence) : a = b := by
  have distinct : ((numbered dispatches).map (·.sequence)).Nodup := by
    rw [map_sequence_numbered]
    exact List.nodup_range
  exact List.inj_on_of_nodup_map distinct left right same

/-- Sorting what several subscriptions took gives each message, in the order of dispatch, once for
each of them that takes it. -/
theorem inDispatchOrder_joined (takers : List (Subscription ω)) :
    inDispatchOrder (takers.flatMap fun s =>
        (numbered dispatches).filter (s.takes ·.message.message)) =
      (numbered dispatches).flatMap fun d =>
        List.replicate (takers.countP (·.takes d.message.message)) d := by
  have joined := (inDispatchOrder_perm _).trans
    (flatMap_filter_perm (fun s d => s.takes d.message.message) takers (numbered dispatches))
  have original : ∀ d, d ∈ (numbered dispatches).flatMap (fun d =>
      List.replicate (takers.countP (·.takes d.message.message)) d) → d ∈ numbered dispatches := by
    intro d member
    obtain ⟨source, present, copy⟩ := List.mem_flatMap.mp member
    rwa [(List.mem_replicate.mp copy).2]
  have increasing : (numbered dispatches).Pairwise fun a b => a.sequence ≤ b.sequence := by
    rw [← List.pairwise_map, map_sequence_numbered]
    exact List.pairwise_le_range
  refine joined.eq_of_pairwise (fun a b left right before after => ?_)
    (inDispatchOrder_sorted _) ?_
  · exact numbered_injective dispatches (original a (joined.mem_iff.mp left)) (original b right)
      (Nat.le_antisymm before after)
  · refine List.pairwise_flatMap.mpr ⟨fun d _ => ?_, increasing.imp fun order a copy b other => ?_⟩
    · exact List.pairwise_replicate.mpr (.inr (Nat.le_refl _))
    · rwa [(List.mem_replicate.mp copy).2, (List.mem_replicate.mp other).2]

theorem mapM_typed {ds : List Delivery} (same : ∀ d ∈ ds, d.message.topic = t) :
    ds.mapM (typed t) = .ok (ds.filterMap (·.message.as? t)) := by
  induction ds with
  | nil => rfl
  | cons d rest ih =>
    have found := same d (List.mem_cons_self ..)
    obtain ⟨sequence, topic, m⟩ := d
    subst found
    rw [List.mapM_cons, ih fun d member => same d (List.mem_cons_of_mem _ member)]
    simp [typed]
    rfl

private theorem filterMap_copies (takers : List (Subscription ω)) (d : Delivery) :
    (List.replicate (takers.countP (·.takes d.message.message)) d).filterMap (·.message.as? t) =
      (d.message.as? t).toList.flatMap fun m => List.replicate (takers.countP (·.takes m)) m := by
  obtain ⟨sequence, topic, m⟩ := d
  by_cases wanted : topic = t
  · subst wanted
    simp
  · simp [AnyMessage.as?, wanted]

/-- A module that subscribes to a topic fetches each message of it, in the order of dispatch, once
for each of its subscriptions that takes the message. Any other module gets an error. -/
theorem fetchAll_dispatchAll (t : Topic) (module : ModuleId) :
    (dispatchAll (ofList subscriptions) dispatches).fetchAll (ofList subscriptions) t module =
      if owned subscriptions t module = [] then .error (.unexpected t)
      else .ok ((dispatches.filterMap (·.message.as? t)).flatMap fun m =>
        List.replicate ((owned subscriptions t module).countP (·.takes m)) m) := by
  rw [fetchAll, received_dispatchAll]
  split
  · rfl
  · have ownTopic : ∀ s ∈ owned subscriptions t module, s.topic = t := by
      intro s member
      obtain ⟨_, toTopic⟩ := Bool.and_eq_true_iff.mp (List.mem_filter.mp member).2
      exact of_decide_eq_true toTopic
    have copiesTyped : ∀ d ∈ (numbered dispatches).flatMap (fun d => List.replicate
        ((owned subscriptions t module).countP (·.takes d.message.message)) d),
        d.message.topic = t := by
      intro d member
      obtain ⟨source, _, copy⟩ := List.mem_flatMap.mp member
      obtain ⟨positive, rfl⟩ := List.mem_replicate.mp copy
      obtain ⟨s, owning, taken⟩ := List.countP_pos_iff.mp (Nat.pos_of_ne_zero positive)
      have toTopic := of_decide_eq_true (Bool.and_eq_true_iff.mp taken).1
      exact toTopic.symm.trans (ownTopic s owning)
    have original : dispatches.filterMap (·.message.as? t) =
        (numbered dispatches).filterMap (·.message.as? t) := by
      have messages := congrArg (List.filterMap (AnyMessage.as? · t))
        (map_message_numbered dispatches)
      rwa [List.filterMap_map, List.filterMap_map, eq_comm] at messages
    simp only [Except.bind, inDispatchOrder_joined, mapM_typed copiesTyped]
    rw [original, List.filterMap_flatMap, List.filterMap_eq_flatMap_toList, List.flatMap_assoc]
    simp only [filterMap_copies]

/-- A module with one subscription to a topic fetches the messages that it takes. -/
theorem fetchAll_of_owned {s : Subscription ω} {module : ModuleId}
    (only : owned subscriptions t module = [s]) :
    (dispatchAll (ofList subscriptions) dispatches).fetchAll (ofList subscriptions) t module =
      .ok ((dispatches.filterMap (·.message.as? t)).filter (s.takes ·)) := by
  rw [fetchAll_dispatchAll, only, if_neg (List.cons_ne_nil s [])]
  congr 1
  induction dispatches.filterMap (·.message.as? t) with
  | nil => rfl
  | cons m rest ih =>
    rw [List.flatMap_cons, ih, List.countP_singleton, List.filter_cons]
    split <;> rfl

end Fetching

/-- Delivery follows the subscriptions. Whatever was dispatched before, the next message goes once
to each subscription to its topic whose filter accepts its detector, in the order of subscribing;
its record holds their number, and nothing else changes. What a module fetches of a topic are the
messages of it in the order of dispatch, each once for each accepting subscription of the module. -/
theorem delivery_follows_subscriptions (subscriptions : List (Subscription ω))
    (dispatches : List Dispatch) (origin : String) (m : Message t) :
    let table := ofList subscriptions
    let before := dispatchAll table dispatches
    let made := before.dispatch table origin m
    let taking := subscriptions.filter (·.takes m)
    (∀ s : Subscription ω, s.takes m = true ↔ s.topic = t ∧
      (s.filter = .any ∨ ∃ d, m.detector = some d ∧ s.filter = .detector d.name)) ∧
    (made.count = taking.length ∧
      made.buffer.records = before.records ++ [⟨t, m.detectorName, origin, taking.length⟩]) ∧
    (made.notes = taking.filterMap (·.note? m) ∧
      ∀ s ∈ taking, (s.note? m).isSome = s.handler.isSome) ∧
    (made.buffer.inboxes.length = before.inboxes.length ∧
      ∀ place, made.buffer.inbox place = before.inbox place ++
        if (subscriptions[place]?).any (·.takes m) then [⟨dispatches.length, ⟨t, m⟩⟩] else []) ∧
    ∀ wanted module, before.fetchAll table wanted module =
      if owned subscriptions wanted module = [] then .error (.unexpected wanted)
      else .ok ((dispatches.filterMap (·.message.as? wanted)).flatMap fun received =>
        List.replicate ((owned subscriptions wanted module).countP (·.takes received))
          received) := by
  intro table before made taking
  have counted : subscriptions.countP (·.takes m) = taking.length := List.countP_eq_length_filter
  have next : before.records.length = dispatches.length := by
    simp only [before, table, records_dispatchAll, List.length_map]
  refine ⟨fun s => s.takes_iff m, ⟨?_, ?_⟩, ⟨?_, ?_⟩, ⟨?_, ?_⟩, ?_⟩
  · exact (dispatch_count ..).trans counted
  · exact counted ▸ dispatch_records subscriptions before origin m
  · exact dispatch_notes ..
  · intro s member
    exact s.isSome_note? (List.mem_filter.mp member).2
  · exact dispatch_inboxes ..
  · intro place
    exact next ▸ dispatch_inbox subscriptions before origin m
      (inboxes_dispatchAll subscriptions dispatches) place
  · exact fetchAll_dispatchAll subscriptions dispatches

end EventBuffer

end DetectorSim
