import DetectorSim.Pipeline.Instances

/-!
The passage of one event through the modules. It is one program: each module in
turn asks whether it may enter, and if so its questions follow. What belongs to the
event is kept apart from what the workers share.
-/

namespace DetectorSim

/-- An initialized module with its identity and detectors. -/
abbrev ReadyModule (σ ω : Type) : Type :=
  Instance (Module σ ω)

/-- What a module knows while it runs on an event. -/
def Instance.eventView {β : Type} (i : Instance β) (index : UInt64) : EventView :=
  ⟨index, i.id, i.identifier.display, i.detectors⟩

/-- Something observable that happened in an event, each with the module it happened to. -/
inductive TraceEntry (ω : Type) where
  | ran (module : ModuleId)
  | fetched (module : ModuleId) (topic : Topic) (result : Except MessageError (List (Message topic)))
  | noted (module : ModuleId) (note : ω)
  | handled (module : ModuleId) (note : ω)

/-- The note that an entry of a trace carries. -/
def TraceEntry.note? {ω : Type} : TraceEntry ω → Option ω
  | .noted _ note | .handled _ note => some note
  | _ => none

/-- What belongs to one event: its messages, its engine, the serial number of the next message and
what happened so far. -/
structure EventState (ω : Type) where
  buffer : EventBuffer
  engine : Random.Engine
  serial : Nat
  trace : List (TraceEntry ω)

/-- What workers share: the memory of each module, the type names and origins of messages already
reported as undelivered, and the reports and calls made so far, the latest first. -/
structure Commons (σ : Type) where
  memories : List σ
  unmatched : List (String × String)
  reports : List Report
  calls : List ModuleCall

/-- The error of a module that ends a run. -/
structure Failure where
  event : UInt64
  module : ModuleId
  name : String
  error : ModuleError
  deriving DecidableEq, Repr

/-- How the passage of an event ends. -/
inductive EventOutcome where
  | completed
  | skipped (module : ModuleId) (error : ModuleError)
  | failed (failure : Failure)
  | panicked (module : ModuleId)
  deriving DecidableEq, Repr

/-- The outcome when a module ends an event early. -/
def EventOutcome.ofHalt (view : EventView) : Halt → EventOutcome
  | .error e =>
    if e.isSkip then .skipped view.module e else .failed ⟨view.index, view.module, view.origin, e⟩
  | .panic => .panicked view.module

/-- The questions of a passage: whether a module may enter, and those of a module inside. -/
inductive PassageQuestion (σ ω : Type) where
  | enter (event : UInt64) (module : ModuleId)
  | inside (view : EventView) (q : EventQuestion σ ω)

/-- The answer to each question. -/
def PassageQuestion.Answer {σ ω : Type} : PassageQuestion σ ω → Type
  | .enter .. => Bool
  | .inside _ q => q.Answer

/-- The passage of an event as an interface. -/
def passageInterface (σ ω : Type) : Interface :=
  ⟨PassageQuestion σ ω, PassageQuestion.Answer⟩

/-- The passage of an event. -/
abbrev Passage (σ ω : Type) : Type → Type :=
  Interaction (passageInterface σ ω)

namespace Passage

variable {σ ω : Type}

/-- Asks a question of the passage. -/
def query (q : PassageQuestion σ ω) : Passage σ ω q.Answer :=
  Interaction.query (I := passageInterface σ ω) q

/-- Whether a module may enter. -/
def enter (index : UInt64) (module : ModuleId) : Passage σ ω Bool :=
  query (.enter index module)

/-- The run of a module as part of a passage. -/
def ofModule {α : Type} (view : EventView) (p : Interaction (eventInterface σ ω) α) :
    Passage σ ω α :=
  p.interpret fun q => query (.inside view q)

/-- The passage through modules in order. A module that may not enter is passed over, and one that
ends early ends the passage. -/
def through (index : UInt64) : List (ReadyModule σ ω) → Passage σ ω EventOutcome
  | [] => return .completed
  | i :: rest => do
    if ← enter index i.id then
      match ← ofModule (i.eventView index) (i.body.run (i.eventView index)).run with
      | .ok _ => through index rest
      | .error halt => return .ofHalt (i.eventView index) halt
    else through index rest

end Passage

namespace EventState

variable {σ ω : Type}

/-- The start of an event in an empty buffer. -/
def start (buffer : EventBuffer) (seed index : UInt64) : EventState ω :=
  ⟨buffer, .ofSeed (Random.eventSeed seed index), 0, []⟩

/-- Appends entries to the trace. -/
def log (e : EventState ω) (entries : List (TraceEntry ω)) : EventState ω :=
  { e with trace := e.trace ++ entries }

/-- Whether a module has received all it requires. -/
def admits (e : EventState ω) (table : SubscriptionTable ω) (module : ModuleId) : Bool :=
  !table.hasRequired module || (e.buffer.missingRequired table module).isNone

/-- Answers a module inside. `memory` is what the module remembers. The setup is frozen in a run, so
that no use of a detector leaves it changed. -/
def reply (e : EventState ω) (table : SubscriptionTable ω) (geometry : Geometry) (memory : σ)
    (view : EventView) : (q : EventQuestion σ ω) → q.Answer × EventState ω
  | .make _ payload detector => (⟨e.serial, payload, detector⟩, { e with serial := e.serial + 1 })
  | .dispatch _ message =>
    let made := e.buffer.dispatch table view.origin message
    (made.count, ({ e with buffer := made.buffer } : EventState ω).log
      (made.notes.map fun (owner, note) => .handled owner note))
  | .fetch topic =>
    let found := e.buffer.fetch table topic view.module
    (found, e.log [.fetched view.module topic (found.map ([·]))])
  | .fetchAll topic =>
    let found := e.buffer.fetchAll table topic view.module
    (found, e.log [.fetched view.module topic found])
  | .hasSubscribers topic addressee => (table.hasSubscribersFor topic addressee, e)
  | .records => (e.buffer.records, e)
  | .draw d =>
    let (drawn, engine) := d.from e.engine
    (drawn, { e with engine })
  | .object q => ((geometry.use q).1, e)
  | .update _ => (memory, e)
  | .note n => ((), e.log [.noted view.module n])

end EventState

namespace Commons

variable {σ ω : Type}

/-- Reports an undelivered message, once for each origin and name of a payload type. -/
def undelivered (c : Commons σ) (topic : Topic) (origin : String) (detector : Option String) :
    Commons σ :=
  if (topic.name, origin) ∈ c.unmatched then c
  else { c with
    unmatched := (topic.name, origin) :: c.unmatched
    reports := .undelivered topic origin detector :: c.reports }

/-- What is shared after a question of a module inside and its answer. -/
def after (c : Commons σ) (view : EventView) : (q : EventQuestion σ ω) → q.Answer → Commons σ
  | .dispatch topic message, count =>
    let count : Nat := count
    if count = 0 then c.undelivered topic view.origin message.detectorName else c
  | .update change, _ => { c with memories := c.memories.modify view.module change }
  | _, _ => c

end Commons

/-- Answers the questions of a passage. -/
def Passage.answers {σ ω : Type} [Inhabited σ] (table : SubscriptionTable ω) (geometry : Geometry) :
    Interaction.Answers (passageInterface σ ω) (EventState ω × Commons σ)
  | .enter event module, (e, c) =>
    if e.admits table module then
      (true, e.log [.ran module], { c with calls := .run event module :: c.calls })
    else (false, e, c)
  | .inside view q, (e, c) =>
    let (answer, e) := e.reply table geometry (c.memories.getD view.module default) view q
    (answer, e, c.after view q answer)

end DetectorSim
