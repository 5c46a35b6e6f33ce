import DetectorSim.Geometry.Detector

/-!
What messages carry. A topic names a payload type: charges deposited in pixels,
digitized hits, or integers under a topic name of an application.
-/

namespace DetectorSim

/-- The charge of one pixel, in electrons. -/
structure PixelCharge where
  column : UInt32
  row : UInt32
  charge : Float

/-- The charge as a debugging text. -/
def PixelCharge.debug (c : PixelCharge) : String :=
  Text.record "PixelCharge"
    [("pixel", Text.bracketed [toString c.column.toNat, toString c.row.toNat]),
      ("charge", Decimal.marked64 c.charge)] false

/-- The charges deposited in one detector during an event. -/
structure Deposits where
  charges : List PixelCharge

/-- The total charge, added from left to right. -/
def Deposits.total (d : Deposits) : Float :=
  d.charges.foldl (fun sum c => sum + c.charge) (-0.0)

/-- The deposits as a debugging text. -/
def Deposits.debug (d : Deposits) : String :=
  Text.record "DepositedCharges"
    [("charges", Text.bracketed (d.charges.map PixelCharge.debug))] false

/-- The pixels of one detector that passed the threshold. -/
structure Hits where
  pixels : List PixelCharge

/-- The number of hit pixels. -/
def Hits.size (h : Hits) : Nat :=
  h.pixels.length

/-- The hits as a debugging text. -/
def Hits.debug (h : Hits) : String :=
  Text.record "PixelHits" [("hits", Text.bracketed (h.pixels.map PixelCharge.debug))] false

/-- Payload types. -/
inductive Topic where
  | deposits
  | hits
  | custom (name : String)
  deriving DecidableEq, Repr, Inhabited

/-- The payloads of a topic. -/
def Topic.Payload : Topic → Type
  | .deposits => Deposits
  | .hits => Hits
  | .custom _ => Int

/-- The written name of a payload type. -/
def Topic.name : Topic → String
  | .deposits => "pixsim_util::messages::DepositedCharges"
  | .hits => "pixsim_util::messages::PixelHits"
  | .custom name => name

/-- A message. It is global or addressed to a detector; two messages of an event are the same
one iff their serial numbers agree. -/
structure Message (t : Topic) where
  serial : Nat
  payload : t.Payload
  detector : Option Detector

/-- The name of the detector that a message is addressed to. -/
def Message.detectorName {t : Topic} (m : Message t) : Option String :=
  m.detector.map Detector.name

/-- The message as a debugging text, given the text of its payload. -/
def Message.debug {t : Topic} (m : Message t) (payload : String) : String :=
  Text.record "Message"
    [("payload", payload), ("detector", Text.quotedOption m.detectorName)] false

/-- A message together with its topic. -/
structure AnyMessage where
  topic : Topic
  message : Message topic

/-- The message as one of the wanted topic. -/
def AnyMessage.as? (m : AnyMessage) (t : Topic) : Option (Message t) :=
  if same : m.topic = t then some (same ▸ m.message) else none

@[simp] theorem AnyMessage.as?_self {t : Topic} (m : Message t) :
    (AnyMessage.mk t m).as? t = some m := by
  simp [AnyMessage.as?]

/-- The errors of sending and receiving messages. -/
inductive MessageError where
  | unexpected (topic : Topic)
  | noSubscriber (topic : Topic) (origin : String)
  | missing (topic : Topic)
  deriving DecidableEq, Repr

/-- The wording of an error. -/
def MessageError.message : MessageError → String
  | .unexpected topic => s!"module fetched message type {topic.name} without subscribing to it"
  | .noSubscriber topic origin =>
    s!"message of type {topic.name} dispatched by {origin} has no subscriber"
  | .missing topic => s!"no message of type {topic.name} was received in this event"

end DetectorSim
