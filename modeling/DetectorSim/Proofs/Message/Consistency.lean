import DetectorSim.Proofs.Message.Fetching
import Mathlib.Algebra.GroupWithZero.Nat

/-! The parts that messages pass through fit together: the subscriptions, the index over them, the
records of an event and the inboxes. What fits stays so through dispatches and clearing, and no
place that is looked up on the way is missing. -/

namespace DetectorSim.EventBuffer

open SubscriptionTable

variable {ω : Type} {t : Topic}

/-- What a buffer is used for while events are processed. -/
inductive Use where
  | dispatch (d : Dispatch)
  | clear

/-- The buffer after one use. -/
def use (table : SubscriptionTable ω) (b : EventBuffer) : Use → EventBuffer
  | .dispatch d => (b.dispatch table d.origin d.message.message).buffer
  | .clear => b.clear

/-- The buffer made for a table, after some uses. -/
def afterUses (table : SubscriptionTable ω) (uses : List Use) : EventBuffer :=
  uses.foldl (use table) (new table.size)

theorem afterUses_concat (table : SubscriptionTable ω) (earlier : List Use) (u : Use) :
    afterUses table (earlier ++ [u]) = (afterUses table earlier).use table u := by
  rw [afterUses, List.foldl_append]
  rfl

/-- The number of deliveries in all inboxes. -/
def held (b : EventBuffer) : Nat :=
  (b.inboxes.map List.length).sum

/-- An inbox that serves a subscription: it holds messages that the subscription takes, each under
the place of its record and behind those that were dispatched before. -/
structure Serves (records : Nat) (s : Subscription ω) (inbox : List Delivery) : Prop where
  increasing : inbox.Pairwise (·.sequence < ·.sequence)
  recorded : ∀ d ∈ inbox, d.sequence < records
  ofTopic : ∀ d ∈ inbox, d.message.topic = s.topic
  accepted : ∀ d ∈ inbox, s.filter.accepts d.message.message.detectorName = true

/-- A buffer that fits the subscriptions it was made for. -/
structure Fits (subscriptions : List (Subscription ω)) (b : EventBuffer) : Prop where
  room : b.inboxes.length = subscriptions.length
  serves : ∀ place s, subscriptions[place]? = some s → Serves b.records.length s (b.inbox place)
  counted : (b.records.map (·.deliveries)).sum = b.held

section Holding

theorem held_deliver {b : EventBuffer} {place : Nat} (within : place < b.inboxes.length)
    (d : Delivery) : (b.deliver place d).held = b.held + 1 := by
  have parts : b.inboxes = b.inboxes.take place ++ b.inboxes[place] :: b.inboxes.drop (place + 1) := by
    rw [List.getElem_cons_drop, List.take_append_drop]
  have whole := congrArg (fun inboxes => (inboxes.map List.length).sum) parts
  simp only [List.map_append, List.map_cons, List.sum_append, List.sum_cons] at whole
  simp only [held, deliver, List.modify_eq_take_cons_drop within, List.map_append, List.map_cons,
    List.sum_append, List.sum_cons, List.length_append, List.length_singleton, whole]
  omega

/-- What is counted while a message is delivered is what the inboxes come to hold of it. -/
theorem held_foldl_deliverAt {table : SubscriptionTable ω} {m : Message t} {sequence : Nat}
    {places : List Nat} {made : Deliveries ω}
    (within : ∀ place ∈ places, place < made.buffer.inboxes.length) :
    (places.foldl (deliverAt table m sequence) made).buffer.held + made.count =
      made.buffer.held + (places.foldl (deliverAt table m sequence) made).count := by
  induction places generalizing made with
  | nil => rfl
  | cons place rest ih =>
    have length : (deliverAt table m sequence made place).buffer.inboxes.length =
        made.buffer.inboxes.length := foldl_deliverAt_inboxes [place] made
    have others := @ih (deliverAt table m sequence made place) fun other listed =>
      length ▸ within other (List.mem_cons_of_mem _ listed)
    have here : (deliverAt table m sequence made place).buffer.held + made.count =
        made.buffer.held + (deliverAt table m sequence made place).count := by
      rw [deliverAt_buffer, deliverAt_count]
      split
      · rw [held_deliver (within place (List.mem_cons_self ..))]
        omega
      · rfl
    rw [List.foldl_cons]
    omega

end Holding

section Steps

variable {subscriptions : List (Subscription ω)} {b : EventBuffer}

theorem fits_new (subscriptions : List (Subscription ω)) :
    (new subscriptions.length).Fits subscriptions where
  room := List.length_replicate
  serves place s found := by
    have empty : (new subscriptions.length).inbox place = [] := by
      simp [inbox, new, (List.getElem?_eq_some_iff.mp found).1]
    rw [empty]
    exact ⟨.nil, by simp, by simp, by simp⟩
  counted := by simp [held, new]

/-- The message of a dispatch comes last, under a number that no inbox holds yet. -/
theorem Serves.dispatch {records : Nat} {s : Subscription ω} {inbox : List Delivery}
    (served : Serves records s inbox) (m : Message t) :
    Serves (records + 1) s (inbox ++ if s.takes m then [⟨records, ⟨t, m⟩⟩] else []) := by
  by_cases taken : s.takes m = true
  · obtain ⟨same, accepts⟩ := Bool.and_eq_true_iff.mp taken
    rw [if_pos taken]
    refine ⟨List.pairwise_append.mpr ⟨served.increasing, List.pairwise_singleton .., ?_⟩,
      List.forall_mem_append.mpr ⟨?_, ?_⟩, List.forall_mem_append.mpr ⟨served.ofTopic, ?_⟩,
      List.forall_mem_append.mpr ⟨served.accepted, ?_⟩⟩
    · intro earlier member last new
      rw [List.mem_singleton.mp new]
      exact served.recorded earlier member
    · exact fun d member => Nat.lt_succ_of_lt (served.recorded d member)
    · exact List.forall_mem_singleton.mpr (Nat.lt_succ_self records)
    · exact List.forall_mem_singleton.mpr (of_decide_eq_true same).symm
    · exact List.forall_mem_singleton.mpr accepts
  · rw [if_neg taken, List.append_nil]
    exact ⟨served.increasing, fun d member => Nat.lt_succ_of_lt (served.recorded d member),
      served.ofTopic, served.accepted⟩

theorem Fits.dispatch (fits : b.Fits subscriptions) (origin : String) (m : Message t) :
    (b.dispatch (ofList subscriptions) origin m).buffer.Fits subscriptions where
  room := (dispatch_inboxes b origin m _).trans fits.room
  serves place s found := by
    rw [dispatch_recorded, List.length_append, List.length_singleton,
      dispatch_inbox subscriptions b origin m fits.room, found, Option.any_some]
    exact (fits.serves place s found).dispatch m
  counted := by
    have kept : (b.dispatch (ofList subscriptions) origin m).buffer.held =
        b.held + (b.dispatch (ofList subscriptions) origin m).count :=
      @held_foldl_deliverAt _ _ _ m _ _ ⟨{ b with records := _ }, 0, []⟩ (places_within fits.room)
    rw [kept, dispatch_recorded, List.map_append, List.sum_append, fits.counted]
    rfl

theorem Fits.use (fits : b.Fits subscriptions) (u : Use) :
    (b.use (ofList subscriptions) u).Fits subscriptions := by
  cases u with
  | dispatch d => exact fits.dispatch d.origin d.message.message
  | clear =>
    rw [EventBuffer.use, clear_eq_new, fits.room]
    exact fits_new subscriptions

theorem fits_afterUses (subscriptions : List (Subscription ω)) (uses : List Use) :
    (afterUses (ofList subscriptions) uses).Fits subscriptions := by
  induction uses using List.reverseRecOn with
  | nil =>
    rw [afterUses, List.foldl_nil, size_ofList]
    exact fits_new subscriptions
  | append_singleton earlier u ih =>
    rw [afterUses_concat]
    exact ih.use u

end Steps

section Checked

/-- Delivers as `deliverAt`, and looks up the subscription and the inbox that it changes: `none` if
either is missing. -/
def deliverAt? (table : SubscriptionTable ω) (m : Message t) (sequence : Nat)
    (made : Deliveries ω) (place : Nat) : Option (Deliveries ω) :=
  (table.subscriptions[place]?).bind fun s =>
    if s.filter.accepts m.detectorName then
      (made.buffer.inboxes[place]?).map fun inbox =>
        ⟨{ made.buffer with
            inboxes := made.buffer.inboxes.set place (inbox ++ [⟨sequence, ⟨t, m⟩⟩]) },
          made.count + 1, made.notes ++ (s.note? m).toList⟩
    else some made

/-- Dispatches as `dispatch`; `none` if a place on the way or the record is missing. -/
def dispatch? (b : EventBuffer) (table : SubscriptionTable ω) (origin : String) (m : Message t) :
    Option (Deliveries ω) :=
  let sequence := b.records.length
  let start : EventBuffer := { b with records := b.records ++ [⟨t, m.detectorName, origin, 0⟩] }
  ((table.places t).foldlM (deliverAt? table m sequence) ⟨start, 0, []⟩).bind fun made =>
    (made.buffer.records[sequence]?).map fun record =>
      { made with
        buffer := { made.buffer with
          records := made.buffer.records.set sequence { record with deliveries := made.count } } }

/-- One use with its lookups checked. -/
def use? (table : SubscriptionTable ω) (b : EventBuffer) : Use → Option EventBuffer
  | .dispatch d => (b.dispatch? table d.origin d.message.message).map (·.buffer)
  | .clear => some b.clear

/-- Reads as `received`, and looks up all subscriptions to the topic before the inboxes of the
module; `none` if one of them is missing. -/
def received? (b : EventBuffer) (table : SubscriptionTable ω) (t : Topic) (module : ModuleId) :
    Option (Except MessageError (List Delivery)) :=
  ((table.places t).mapM (table.subscriptions[·]?)).bind fun _ =>
    match table.placesOf t module with
    | [] => some (.error (.unexpected t))
    | places => (places.mapM (b.inboxes[·]?)).map fun inboxes => .ok inboxes.flatten

/-- Reads as `missingRequired`; `none` if the inbox of a required subscription is missing. -/
def missingRequired? (b : EventBuffer) (table : SubscriptionTable ω) (module : ModuleId) :
    Option (Option Topic) :=
  let required := table.subscriptions.zipIdx.filter fun entry =>
    entry.1.owner == module && entry.1.flags.contains .onlyRequired
  (required.findM? fun entry => (b.inboxes[entry.2]?).map List.isEmpty).map (Option.map (·.1.topic))

variable {table : SubscriptionTable ω} {m : Message t} {sequence : Nat}

theorem inboxes_getElem? {b : EventBuffer} {place : Nat} (within : place < b.inboxes.length) :
    b.inboxes[place]? = some (b.inbox place) := by
  rw [inbox, List.getElem?_eq_getElem within]
  rfl

theorem deliverAt?_eq {made : Deliveries ω} {place : Nat} {s : Subscription ω}
    (found : table.subscriptions[place]? = some s) (within : place < made.buffer.inboxes.length) :
    deliverAt? table m sequence made place = some (deliverAt table m sequence made place) := by
  rw [deliverAt?, found, Option.bind_some, deliverAt_found found]
  split
  · rw [inboxes_getElem? within, Option.map_some, deliver, List.modify_eq_set_getElem?,
      inboxes_getElem? within]
    rfl
  · rfl

theorem foldlM_deliverAt? {places : List Nat} {made : Deliveries ω}
    (listed : ∀ place ∈ places, ∃ s, table.subscriptions[place]? = some s)
    (within : ∀ place ∈ places, place < made.buffer.inboxes.length) :
    places.foldlM (deliverAt? table m sequence) made =
      some (places.foldl (deliverAt table m sequence) made) := by
  induction places generalizing made with
  | nil => rfl
  | cons place rest ih =>
    obtain ⟨s, found⟩ := listed place (List.mem_cons_self ..)
    have length : (deliverAt table m sequence made place).buffer.inboxes.length =
        made.buffer.inboxes.length := foldl_deliverAt_inboxes [place] made
    rw [List.foldlM_cons, deliverAt?_eq found (within place (List.mem_cons_self ..))]
    exact ih (fun other member => listed other (List.mem_cons_of_mem _ member))
      fun other member => length ▸ within other (List.mem_cons_of_mem _ member)

variable {subscriptions : List (Subscription ω)} {b : EventBuffer}

/-- Where the inboxes are those of the table, a dispatch finds all places that it looks up. -/
theorem dispatch?_eq (room : b.inboxes.length = subscriptions.length) (origin : String)
    (m : Message t) :
    b.dispatch? (ofList subscriptions) origin m =
      some (b.dispatch (ofList subscriptions) origin m) := by
  have listed : ∀ place ∈ (ofList subscriptions).places t,
      ∃ s, (ofList subscriptions).subscriptions[place]? = some s := by
    intro place member
    obtain ⟨s, found, _⟩ := mem_places.mp member
    exact ⟨s, by rwa [subscriptions_ofList]⟩
  rw [dispatch?, foldlM_deliverAt? listed (places_within room), Option.bind_some,
    foldl_deliverAt_records, List.getElem?_concat_length]
  simp only [dispatch, foldl_deliverAt_records]
  rfl

theorem use?_eq (room : b.inboxes.length = subscriptions.length) (u : Use) :
    b.use? (ofList subscriptions) u = some (b.use (ofList subscriptions) u) := by
  cases u with
  | dispatch d => rw [use?, dispatch?_eq room, Option.map_some, use]
  | clear => rfl

theorem foldlM_use? (subscriptions : List (Subscription ω)) (uses : List Use) :
    uses.foldlM (use? (ofList subscriptions)) (new (ofList subscriptions).size) =
      some (afterUses (ofList subscriptions) uses) := by
  induction uses using List.reverseRecOn with
  | nil => rfl
  | append_singleton earlier u ih =>
    rw [List.foldlM_append, ih, afterUses_concat]
    exact (bind_pure _).trans (use?_eq (fits_afterUses subscriptions earlier).room u)

private theorem mapM_eq_some {α β : Type} {asked : α → Option β} {xs : List α} {answers : List β}
    (known : List.Forall₂ (fun x answer => asked x = some answer) xs answers) :
    xs.mapM asked = some answers := by
  induction known with
  | nil => rfl
  | cons here _ ih =>
    rw [List.mapM_cons, here, ih]
    rfl

private theorem findM?_some {α : Type} {xs : List α} {asked : α → Option Bool} {holds : α → Bool}
    (known : ∀ x ∈ xs, asked x = some (holds x)) : xs.findM? asked = some (xs.find? holds) := by
  induction xs with
  | nil => rfl
  | cons x rest ih =>
    rw [List.findM?, known x (List.mem_cons_self ..),
      ih fun other member => known other (List.mem_cons_of_mem _ member), List.find?_cons]
    cases holds x <;> rfl

theorem received?_eq (room : b.inboxes.length = subscriptions.length) (t : Topic)
    (module : ModuleId) :
    b.received? (ofList subscriptions) t module =
      some (b.received (ofList subscriptions) t module) := by
  have served : List.Forall₂ (fun place inbox => b.inboxes[place]? = some inbox)
      ((ofList subscriptions).placesOf t module)
      (((ofList subscriptions).placesOf t module).map b.inbox) :=
    List.forall₂_map_right_iff.mpr (List.forall₂_same.mpr fun place member =>
      inboxes_getElem? (places_within room place (List.mem_filter.mp member).1))
  rw [received?, mapM_eq_some (lists_places subscriptions t), Option.bind_some, received]
  cases owned : (ofList subscriptions).placesOf t module with
  | nil => rfl
  | cons first rest =>
    rw [owned] at served
    simp only [mapM_eq_some served, Option.map_some, List.flatMap_def]

theorem missingRequired?_eq (room : b.inboxes.length = subscriptions.length) (module : ModuleId) :
    b.missingRequired? (ofList subscriptions) module =
      some (b.missingRequired (ofList subscriptions) module) := by
  have served : ∀ entry ∈ (ofList subscriptions).subscriptions.zipIdx,
      (b.inboxes[entry.2]?).map List.isEmpty = some (b.inbox entry.2).isEmpty := by
    intro entry member
    have within := (List.getElem?_eq_some_iff.mp (List.mem_zipIdx_iff_getElem?.mp member)).1
    rw [subscriptions_ofList, ← room] at within
    rw [inboxes_getElem? within]
    rfl
  rw [missingRequired?, findM?_some fun entry member => served entry (List.mem_filter.mp member).1,
    Option.map_some, List.find?_filter, missingRequired]
  simp only [Bool.decide_and, Bool.decide_eq_true]

end Checked

/-- Table and buffer fit together. Whatever subscriptions are made, the index entry of a topic lists
the places of the subscriptions to it in increasing order, and no others. Whatever messages are
dispatched through a buffer made for the table, and whenever it is cleared, all places that
dispatching, fetching and the check of the required subscriptions look up are there, and the buffer
fits the subscriptions: it has an inbox for each of them, with messages of their topic that their
filter accepts, under increasing numbers of records; and the records count the deliveries that are
held. -/
theorem buffer_fits_table (subscriptions : List (Subscription ω)) :
    let table := ofList subscriptions
    (∀ t, (table.places t).Pairwise (· < ·) ∧
      ∀ place, place ∈ table.places t ↔
        ∃ s, table.subscriptions[place]? = some s ∧ s.topic = t) ∧
    ∀ uses : List Use, let b := afterUses table uses
      uses.foldlM (use? table) (new table.size) = some b ∧
      (∀ t module, b.received? table t module = some (b.received table t module)) ∧
      (∀ module, b.missingRequired? table module = some (b.missingRequired table module)) ∧
      b.Fits subscriptions := by
  intro table
  constructor
  · intro t
    refine ⟨places_increasing subscriptions t, fun place => ?_⟩
    rw [subscriptions_ofList]
    exact mem_places
  · intro uses b
    have fits : b.Fits subscriptions := fits_afterUses subscriptions uses
    exact ⟨foldlM_use? subscriptions uses, received?_eq fits.room, missingRequired?_eq fits.room,
      fits⟩

end DetectorSim.EventBuffer
