import DetectorSim.Message.Subscription

/-!
The messages of one event: a record of each dispatch in order, and an inbox for
each subscription. Dispatching records a message first and then delivers it to the
accepting subscriptions in the order they were made.
-/

namespace DetectorSim

/-- A received message with the place of its dispatch in the event. -/
structure Delivery where
  sequence : Nat
  message : AnyMessage

/-- The trace of a dispatch. -/
structure DispatchRecord where
  topic : Topic
  detector : Option String
  origin : String
  deliveries : Nat
  deriving DecidableEq, Repr

/-- The messages of an event. -/
structure EventBuffer where
  records : List DispatchRecord
  inboxes : List (List Delivery)

namespace EventBuffer

/-- The empty buffer for a number of subscriptions. -/
def new (subscriptions : Nat) : EventBuffer :=
  ⟨[], List.replicate subscriptions []⟩

/-- Drops all messages and keeps the inboxes. -/
def clear (b : EventBuffer) : EventBuffer :=
  ⟨[], b.inboxes.map fun _ => []⟩

theorem clear_eq_new (b : EventBuffer) : b.clear = new b.inboxes.length := by
  simp [clear, new, List.map_const']

/-- The inbox of a subscription. -/
def inbox (b : EventBuffer) (place : Nat) : List Delivery :=
  (b.inboxes[place]?).getD []

/-- Appends a delivery to the inbox of a subscription. -/
def deliver (b : EventBuffer) (place : Nat) (d : Delivery) : EventBuffer :=
  { b with inboxes := b.inboxes.modify place (· ++ [d]) }

/-- The buffer as a debugging text, which shows no records. -/
def debug (b : EventBuffer) : String :=
  let shown := b.records.map fun r =>
    Text.record "MessageRecord"
      [("type_name", Text.quoted r.topic.name), ("detector", Text.quotedOption r.detector),
        ("origin", Text.quoted r.origin), ("deliveries", toString r.deliveries)] false
  Text.record "EventBuffer" [("records", Text.bracketed shown)] true

/-- A dispatch under way: the buffer, the deliveries made, and what handlers noted. -/
structure Deliveries (ω : Type) where
  buffer : EventBuffer
  count : Nat
  notes : List (ModuleId × ω)

/-- Delivers a message to one subscription if it accepts it. The handler is called first. -/
def deliverAt {ω : Type} (table : SubscriptionTable ω) {t : Topic} (m : Message t) (sequence : Nat)
    (made : Deliveries ω) (place : Nat) : Deliveries ω :=
  match table.subscriptions[place]? with
  | none => made
  | some s =>
    if s.filter.accepts m.detectorName then
      let note := match s.handler, (AnyMessage.mk t m).as? s.topic with
        | some handler, some received => [(s.owner, handler received)]
        | _, _ => []
      ⟨made.buffer.deliver place ⟨sequence, ⟨t, m⟩⟩, made.count + 1, made.notes ++ note⟩
    else made

/-- Dispatches a message. -/
def dispatch {ω : Type} (b : EventBuffer) (table : SubscriptionTable ω) (origin : String)
    {t : Topic} (m : Message t) : Deliveries ω :=
  let sequence := b.records.length
  let recorded (count : Nat) : DispatchRecord := ⟨t, m.detectorName, origin, count⟩
  let start : EventBuffer := { b with records := b.records ++ [recorded 0] }
  let made := (table.places t).foldl (deliverAt table m sequence) ⟨start, 0, []⟩
  { made with
    buffer := { made.buffer with records := made.buffer.records.set sequence (recorded made.count) } }

/-- Puts a delivery behind those that were dispatched no later. -/
def place (d : Delivery) : List Delivery → List Delivery
  | [] => [d]
  | first :: rest =>
    if d.sequence < first.sequence then d :: first :: rest else first :: place d rest

/-- Deliveries in the order of dispatch; those of one dispatch keep their order. -/
def inDispatchOrder (ds : List Delivery) : List Delivery :=
  ds.foldl (fun sorted d => place d sorted) []

/-- The later of two deliveries; of the same dispatch, the second. -/
def later (best : Option Delivery) (d : Delivery) : Option Delivery :=
  match best with
  | none => some d
  | some b => if d.sequence < b.sequence then some b else some d

variable {ω : Type}

/-- The deliveries of a topic to a module, subscription by subscription. -/
def received (b : EventBuffer) (table : SubscriptionTable ω) (t : Topic) (module : ModuleId) :
    Except MessageError (List Delivery) :=
  match table.placesOf t module with
  | [] => .error (.unexpected t)
  | places => .ok (places.flatMap b.inbox)

/-- A delivered message as one of the wanted topic. -/
def typed (t : Topic) (d : Delivery) : Except MessageError (Message t) :=
  match d.message.as? t with
  | some m => .ok m
  | none => .error (.unexpected t)

/-- The latest message of a topic that a module received. -/
def fetch (b : EventBuffer) (table : SubscriptionTable ω) (t : Topic) (module : ModuleId) :
    Except MessageError (Message t) :=
  (b.received table t module).bind fun ds =>
    match ds.foldl later none with
    | some d => typed t d
    | none => .error (.missing t)

/-- All messages of a topic that a module received, in the order of dispatch. -/
def fetchAll (b : EventBuffer) (table : SubscriptionTable ω) (t : Topic) (module : ModuleId) :
    Except MessageError (List (Message t)) :=
  (b.received table t module).bind fun ds => (inDispatchOrder ds).mapM (typed t)

/-- The topic of the first required subscription of a module that received nothing. -/
def missingRequired (b : EventBuffer) (table : SubscriptionTable ω) (module : ModuleId) :
    Option Topic :=
  (table.subscriptions.zipIdx.find? fun (s, place) =>
    s.owner == module && s.flags.contains .onlyRequired && (b.inbox place).isEmpty).map (·.1.topic)

end EventBuffer

end DetectorSim
