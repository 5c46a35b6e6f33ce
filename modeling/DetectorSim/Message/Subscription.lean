import DetectorSim.Message.Topic

/-!
Subscriptions and their table. A subscription accepts messages of one topic that
pass its filter; the table keeps an index of the subscriptions of each topic.
-/

namespace DetectorSim

/-- Which messages of a topic a subscription accepts. -/
inductive Filter where
  | any
  | detector (name : String)
  deriving DecidableEq, Repr

/-- Whether messages addressed to a detector pass. Global messages have no detector, and only
`any` accepts them. -/
def Filter.accepts : Filter → Option String → Bool
  | .any, _ => true
  | .detector name, addressee => addressee == some name

/-- The filter as a debugging text. -/
def Filter.debug : Filter → String
  | .any => "Any"
  | .detector name => "Detector(" ++ Text.quoted name ++ ")"

/-- What a subscription asks for: a module with a required subscription only runs in events
where the subscription received something. -/
structure Flags where
  required : Bool
  deriving DecidableEq, Repr

/-- No flag. -/
def Flags.none : Flags := ⟨false⟩

/-- The flag of required subscriptions. -/
def Flags.onlyRequired : Flags := ⟨true⟩

/-- The flags set in one of the two. -/
def Flags.union (a b : Flags) : Flags :=
  ⟨a.required || b.required⟩

/-- Whether all flags of the other are set. -/
def Flags.contains (a b : Flags) : Bool :=
  a.required || !b.required

/-- The place of a module in the order of execution. -/
abbrev ModuleId := Nat

/-- A subscription. The handler turns each delivered message into a note. -/
structure Subscription (ω : Type) where
  owner : ModuleId
  topic : Topic
  filter : Filter
  flags : Flags
  handler : Option (Message topic → ω)

/-- The subscriptions in the order they were made. `byTopic` lists the places of the
subscriptions of each topic. -/
structure SubscriptionTable (ω : Type) where
  subscriptions : List (Subscription ω)
  byTopic : List (Topic × List Nat)

namespace SubscriptionTable

variable {ω : Type}

/-- The table without subscriptions. -/
def empty : SubscriptionTable ω :=
  ⟨[], []⟩

instance : Inhabited (SubscriptionTable ω) := ⟨empty⟩

/-- Appends a place to the index entry of a topic. -/
def addPlace (topic : Topic) (place : Nat) : List (Topic × List Nat) → List (Topic × List Nat)
  | [] => [(topic, [place])]
  | (t, places) :: rest =>
    if t = topic then (t, places ++ [place]) :: rest else (t, places) :: addPlace topic place rest

/-- Adds a subscription. -/
def add (table : SubscriptionTable ω) (s : Subscription ω) : SubscriptionTable ω where
  subscriptions := table.subscriptions ++ [s]
  byTopic := addPlace s.topic table.subscriptions.length table.byTopic

/-- The number of subscriptions. -/
def size (table : SubscriptionTable ω) : Nat :=
  table.subscriptions.length

/-- The places of the subscriptions of a topic. -/
def places (table : SubscriptionTable ω) (topic : Topic) : List Nat :=
  (table.byTopic.lookup topic).getD []

/-- Whether any subscription is to the topic. -/
def hasSubscribers (table : SubscriptionTable ω) (topic : Topic) : Bool :=
  (table.byTopic.lookup topic).isSome

/-- Whether the subscription at a place accepts messages addressed to a detector. -/
def acceptsAt (table : SubscriptionTable ω) (addressee : Option String) (place : Nat) : Bool :=
  (table.subscriptions[place]?).any (·.filter.accepts addressee)

/-- Whether a message of a topic addressed to a detector would reach a subscription. -/
def hasSubscribersFor (table : SubscriptionTable ω) (topic : Topic) (addressee : Option String) :
    Bool :=
  (table.places topic).any (table.acceptsAt addressee)

/-- Whether a module has a required subscription. -/
def hasRequired (table : SubscriptionTable ω) (module : ModuleId) : Bool :=
  table.subscriptions.any fun s => s.owner == module && s.flags.contains .onlyRequired

/-- The places of the subscriptions of a module to a topic. -/
def placesOf (table : SubscriptionTable ω) (topic : Topic) (module : ModuleId) : List Nat :=
  (table.places topic).filter fun place =>
    (table.subscriptions[place]?).any (·.owner == module)

end SubscriptionTable

end DetectorSim
