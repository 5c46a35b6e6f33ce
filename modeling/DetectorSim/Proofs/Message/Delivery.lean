import DetectorSim.Message.Buffer
import DetectorSim.Proofs.Message.Places

/-! What a dispatch does, in terms of the subscriptions alone. The index of the table, the places
and the inboxes are how the subscriptions that take a message are found and served. -/

namespace DetectorSim

namespace Subscription

variable {ω : Type} {t : Topic}

/-- Whether a subscription takes a message: it is to its topic, and its filter accepts it. -/
def takes (s : Subscription ω) (m : Message t) : Bool :=
  s.topic = t && s.filter.accepts m.detectorName

/-- An unfiltered subscription takes all messages of its topic, and one for a detector those that
are addressed to it; a global message is addressed to none. -/
theorem takes_iff (s : Subscription ω) (m : Message t) :
    s.takes m = true ↔ s.topic = t ∧
      (s.filter = .any ∨ ∃ d, m.detector = some d ∧ s.filter = .detector d.name) := by
  rw [takes, Bool.and_eq_true_iff, decide_eq_true_iff]
  refine and_congr_right fun _ => ?_
  cases s.filter with
  | any => simp [Filter.accepts]
  | detector name =>
    cases addressee : m.detector with
    | none => simp [Filter.accepts, Message.detectorName, addressee]
    | some d => simp [Filter.accepts, Message.detectorName, addressee, eq_comm (a := name)]

/-- What the handler of a subscription, if it has one, notes of a message of its topic. -/
def note? (s : Subscription ω) (m : Message t) : Option (ModuleId × ω) :=
  ((AnyMessage.mk t m).as? s.topic).bind fun received =>
    s.handler.map fun handler => (s.owner, handler received)

theorem isSome_note? (s : Subscription ω) {m : Message t} (taken : s.takes m = true) :
    (s.note? m).isSome = s.handler.isSome := by
  obtain ⟨same, _⟩ := Bool.and_eq_true_iff.mp taken
  have same : s.topic = t := of_decide_eq_true same
  subst same
  simp [note?]

end Subscription

namespace EventBuffer

open SubscriptionTable

variable {ω : Type} {t : Topic}

theorem inbox_deliver {b : EventBuffer} {place : Nat} (within : place < b.inboxes.length)
    (d : Delivery) (other : Nat) :
    (b.deliver place d).inbox other = b.inbox other ++ if other = place then [d] else [] := by
  by_cases same : other = place
  · subst same
    simp [inbox, deliver, List.getElem?_eq_getElem within]
  · simp [inbox, deliver, Ne.symm same, same]

section Places

variable {table : SubscriptionTable ω} {m : Message t} {sequence : Nat}

theorem deliverAt_found {place : Nat} {s : Subscription ω}
    (found : table.subscriptions[place]? = some s) (made : Deliveries ω) :
    deliverAt table m sequence made place =
      if s.filter.accepts m.detectorName then
        ⟨made.buffer.deliver place ⟨sequence, ⟨t, m⟩⟩, made.count + 1,
          made.notes ++ (s.note? m).toList⟩
      else made := by
  simp only [deliverAt, found, Subscription.note?]
  split
  · cases s.handler <;> cases (AnyMessage.mk t m).as? s.topic <;> rfl
  · rfl

/-- A subscription at a place changes at most the inbox there. -/
theorem deliverAt_buffer (made : Deliveries ω) (place : Nat) :
    (deliverAt table m sequence made place).buffer =
      if table.acceptsAt m.detectorName place then
        made.buffer.deliver place ⟨sequence, ⟨t, m⟩⟩
      else made.buffer := by
  cases found : table.subscriptions[place]? with
  | none => simp [deliverAt, acceptsAt, found]
  | some s =>
    rw [deliverAt_found found]
    simp only [acceptsAt, found, Option.any_some]
    split <;> rfl

theorem deliverAt_count (made : Deliveries ω) (place : Nat) :
    (deliverAt table m sequence made place).count =
      made.count + if table.acceptsAt m.detectorName place then 1 else 0 := by
  cases found : table.subscriptions[place]? with
  | none => simp [deliverAt, acceptsAt, found]
  | some s =>
    rw [deliverAt_found found]
    simp only [acceptsAt, found, Option.any_some]
    split <;> rfl

/-- Counting goes over the subscriptions in the order of their places, and so do the handlers. -/
theorem foldl_deliverAt {places : List Nat} {subscriptions : List (Subscription ω)}
    (listed : table.Lists places subscriptions) (made : Deliveries ω) :
    (places.foldl (deliverAt table m sequence) made).count =
        made.count + subscriptions.countP (·.filter.accepts m.detectorName) ∧
      (places.foldl (deliverAt table m sequence) made).notes =
        made.notes ++
          (subscriptions.filter (·.filter.accepts m.detectorName)).filterMap (·.note? m) := by
  induction listed generalizing made with
  | nil => simp
  | @cons place s places subscriptions found _ ih =>
    rw [List.foldl_cons, deliverAt_found found]
    by_cases accepted : s.filter.accepts m.detectorName = true
    · obtain ⟨count, notes⟩ := ih ⟨made.buffer.deliver place ⟨sequence, ⟨t, m⟩⟩, made.count + 1,
        made.notes ++ (s.note? m).toList⟩
      rw [if_pos accepted]
      constructor
      · rw [count, List.countP_cons, if_pos accepted]
        exact Nat.add_right_comm ..
      · rw [notes, List.filter_cons, if_pos accepted]
        cases noted : s.note? m <;> simp [noted]
    · obtain ⟨count, notes⟩ := ih made
      rw [if_neg accepted]
      constructor
      · rw [count, List.countP_cons, if_neg accepted, Nat.add_zero]
      · rw [notes, List.filter_cons, if_neg accepted]

theorem foldl_deliverAt_records (places : List Nat) (made : Deliveries ω) :
    (places.foldl (deliverAt table m sequence) made).buffer.records = made.buffer.records := by
  induction places generalizing made with
  | nil => rfl
  | cons place rest ih =>
    rw [List.foldl_cons, ih, deliverAt_buffer]
    split <;> rfl

theorem foldl_deliverAt_inboxes (places : List Nat) (made : Deliveries ω) :
    (places.foldl (deliverAt table m sequence) made).buffer.inboxes.length =
      made.buffer.inboxes.length := by
  induction places generalizing made with
  | nil => rfl
  | cons place rest ih =>
    rw [List.foldl_cons, ih, deliverAt_buffer]
    split
    · exact List.length_modify ..
    · rfl

/-- The inboxes at the listed places receive the message if the subscriptions there accept it. -/
theorem foldl_deliverAt_inbox {places : List Nat} (distinct : places.Nodup) {made : Deliveries ω}
    (within : ∀ place ∈ places, place < made.buffer.inboxes.length) (other : Nat) :
    (places.foldl (deliverAt table m sequence) made).buffer.inbox other =
      made.buffer.inbox other ++
        if other ∈ places ∧ table.acceptsAt m.detectorName other = true then
          [⟨sequence, ⟨t, m⟩⟩]
        else [] := by
  induction places generalizing made with
  | nil => simp
  | cons place rest ih =>
    obtain ⟨fresh, distinct⟩ := List.nodup_cons.mp distinct
    have length : (deliverAt table m sequence made place).buffer.inboxes.length =
        made.buffer.inboxes.length := foldl_deliverAt_inboxes [place] made
    have here : place < made.buffer.inboxes.length := within place (List.mem_cons_self ..)
    rw [List.foldl_cons, ih distinct fun other listed => length ▸
      within other (List.mem_cons_of_mem _ listed), deliverAt_buffer]
    by_cases same : other = place
    · subst same
      split <;> rename_i accepted <;> simp [fresh, accepted, inbox_deliver here]
    · have untouched : (if table.acceptsAt m.detectorName place = true then
          made.buffer.deliver place ⟨sequence, ⟨t, m⟩⟩ else made.buffer).inbox other =
            made.buffer.inbox other := by
        split
        · simp [inbox_deliver here, same]
        · rfl
      simp [untouched, same]

end Places

theorem places_within {subscriptions : List (Subscription ω)} {b : EventBuffer}
    (room : b.inboxes.length = subscriptions.length) :
    ∀ place ∈ (ofList subscriptions).places t, place < b.inboxes.length := by
  intro place listed
  obtain ⟨_, found, _⟩ := mem_places.mp listed
  rw [room]
  exact (List.getElem?_eq_some_iff.mp found).1

section Dispatch

variable (subscriptions : List (Subscription ω)) (b : EventBuffer) (origin : String) (m : Message t)

theorem dispatch_inboxes (table : SubscriptionTable ω) :
    (b.dispatch table origin m).buffer.inboxes.length = b.inboxes.length := by
  simp only [dispatch, foldl_deliverAt_inboxes]

/-- Whatever the table is, a dispatch is recorded behind the others, under its origin and with its
deliveries. -/
theorem dispatch_recorded (table : SubscriptionTable ω) :
    (b.dispatch table origin m).buffer.records = b.records ++
      [⟨t, m.detectorName, origin, (b.dispatch table origin m).count⟩] := by
  simp only [dispatch]
  rw [foldl_deliverAt_records, List.set_append_right _ _ (Nat.le_refl _), Nat.sub_self]
  rfl

theorem dispatch_accepted (table : SubscriptionTable ω) :
    (b.dispatch table origin m).count =
      (table.places t).countP (table.acceptsAt m.detectorName) := by
  have counts (made : Deliveries ω) (places : List Nat) :
      (places.foldl (deliverAt table m b.records.length) made).count =
        made.count + places.countP (table.acceptsAt m.detectorName) := by
    induction places generalizing made with
    | nil => rfl
    | cons place rest ih =>
      rw [List.foldl_cons, ih, deliverAt_count, List.countP_cons]
      omega
  exact (counts ..).trans (Nat.zero_add _)

/-- Whether a message has subscribers is known before it is dispatched. -/
theorem hasSubscribersFor_iff (table : SubscriptionTable ω) :
    table.hasSubscribersFor t m.detectorName = true ↔
      1 ≤ (b.dispatch table origin m).count := by
  rw [dispatch_accepted, hasSubscribersFor, List.any_eq_true]
  exact List.countP_pos_iff.symm

theorem dispatch_count :
    (b.dispatch (ofList subscriptions) origin m).count = subscriptions.countP (·.takes m) := by
  simp only [dispatch, (foldl_deliverAt (lists_places subscriptions t) _).1, List.countP_filter,
    Nat.zero_add, Subscription.takes, Bool.and_comm]

/-- The handlers of the subscriptions that take a message are called in the order of subscribing. -/
theorem dispatch_notes :
    (b.dispatch (ofList subscriptions) origin m).notes =
      (subscriptions.filter (·.takes m)).filterMap (·.note? m) := by
  simp only [dispatch, (foldl_deliverAt (lists_places subscriptions t) _).2, List.filter_filter,
    List.nil_append, Subscription.takes, Bool.and_comm]

theorem dispatch_records :
    (b.dispatch (ofList subscriptions) origin m).buffer.records =
      b.records ++ [⟨t, m.detectorName, origin, subscriptions.countP (·.takes m)⟩] := by
  rw [dispatch_recorded, dispatch_count]

/-- The inboxes of the subscriptions that take a message receive it once, and no other does. -/
theorem dispatch_inbox (room : b.inboxes.length = subscriptions.length) (place : Nat) :
    (b.dispatch (ofList subscriptions) origin m).buffer.inbox place =
      b.inbox place ++
        if (subscriptions[place]?).any (·.takes m) then [⟨b.records.length, ⟨t, m⟩⟩] else [] := by
  have distinct : ((ofList subscriptions).places t).Nodup :=
    (places_increasing subscriptions t).imp Nat.ne_of_lt
  have taken : (place ∈ (ofList subscriptions).places t ∧
      (ofList subscriptions).acceptsAt m.detectorName place = true) ↔
        (subscriptions[place]?).any (·.takes m) = true := by
    cases found : subscriptions[place]? with
    | none => simp [mem_places, found]
    | some s => simp [mem_places, acceptsAt, found, Subscription.takes]
  refine (foldl_deliverAt_inbox distinct (places_within room) place).trans ?_
  simp only [taken]
  rfl

end Dispatch

end EventBuffer

end DetectorSim
