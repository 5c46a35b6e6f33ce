import DetectorSim.Interaction
import DetectorSim.Message.Buffer
import DetectorSim.Pipeline.Error
import DetectorSim.Random.Engine

/-!
What a module can do while it runs on an event: make, dispatch and fetch messages,
look at the records of the event, draw random numbers, use the objects attached to
detectors, update its own memory, and leave notes. A run is a program over this
interface, so nothing else can influence it or be influenced by it.
-/

namespace DetectorSim

/-- The questions of a running module. `σ` is the memory of modules and `ω` the type of notes. -/
inductive EventQuestion (σ ω : Type) where
  | make (topic : Topic) (payload : topic.Payload) (detector : Option Detector)
  | dispatch (topic : Topic) (message : Message topic)
  | fetch (topic : Topic)
  | fetchAll (topic : Topic)
  | hasSubscribers (topic : Topic) (addressee : Option String)
  | records
  | draw (d : Random.Draw)
  | object (q : ObjectQuestion)
  | update (change : σ → σ)
  | note (n : ω)

/-- The answer to each question. A change of memory answers with the memory before it. -/
def EventQuestion.Answer {σ ω : Type} : EventQuestion σ ω → Type
  | .make topic .. => Message topic
  | .dispatch .. => Nat
  | .fetch topic => Except MessageError (Message topic)
  | .fetchAll topic => Except MessageError (List (Message topic))
  | .hasSubscribers .. => Bool
  | .records => List DispatchRecord
  | .draw d => d.Result
  | .object q => q.Answer
  | .update _ => σ
  | .note _ => Unit

/-- The event as an interface. -/
def eventInterface (σ ω : Type) : Interface :=
  ⟨EventQuestion σ ω, EventQuestion.Answer⟩

/-- How a run ends early. -/
inductive Halt where
  | error (error : ModuleError)
  | panic
  deriving DecidableEq, Repr

/-- The run of a module on an event. -/
abbrev EventProgram (σ ω : Type) : Type → Type :=
  ExceptT Halt (Interaction (eventInterface σ ω))

/-- What a running module knows without asking. -/
structure EventView where
  index : UInt64
  module : ModuleId
  origin : String
  detectors : List Detector

/-- The view as a debugging text, with the number of messages dispatched so far. -/
def EventView.debug (view : EventView) (messages : Nat) : String :=
  Text.record "Event"
    [("index", toString view.index.toNat), ("module", Text.quoted view.origin),
      ("messages", toString messages)] true

namespace EventProgram

variable {σ ω : Type}

/-- Asks a question of the event. -/
def query (q : EventQuestion σ ω) : EventProgram σ ω q.Answer :=
  ExceptT.lift (Interaction.query (I := eventInterface σ ω) q)

/-- Ends the run with an error. -/
def fail {α : Type} (e : ModuleError) : EventProgram σ ω α :=
  throw (.error e)

/-- Ends the run and its worker. -/
def panic {α : Type} : EventProgram σ ω α :=
  throw .panic

/-- Makes a message. -/
def make (t : Topic) (payload : t.Payload) (detector : Option Detector) :
    EventProgram σ ω (Message t) :=
  query (.make t payload detector)

/-- Dispatches a message and returns the number of deliveries. -/
def dispatch {t : Topic} (m : Message t) : EventProgram σ ω Nat :=
  query (.dispatch t m)

/-- The latest message of a topic, or an error of the module. -/
def fetch (t : Topic) : EventProgram σ ω (Message t) := do
  match ← query (.fetch t) with
  | .ok m => return m
  | .error e => fail (.message e)

/-- All messages of a topic, or an error of the module. -/
def fetchAll (t : Topic) : EventProgram σ ω (List (Message t)) := do
  match ← query (.fetchAll t) with
  | .ok ms => return ms
  | .error e => fail (.message e)

/-- Whether a message of a topic addressed to a detector would reach a subscription. -/
def hasSubscribers (t : Topic) (addressee : Option String) : EventProgram σ ω Bool :=
  query (.hasSubscribers t addressee)

/-- Draws from the engine of the event. -/
def draw (d : Random.Draw) : EventProgram σ ω d.Result :=
  query (.draw d)

/-- Draws an integer below a bound; there is none below zero. -/
def below (bound : UInt32) : EventProgram σ ω UInt32 := do
  match ← query (.draw (.between 0 bound)) with
  | some n => return n
  | none => panic

/-- Changes the memory of the module. -/
def update (change : σ → σ) : EventProgram σ ω Unit := do
  let _ ← query (.update change)

end EventProgram

end DetectorSim
