import DetectorSim.Pipeline.Module

/-!
The counts that a chain accumulates: hits under the name of each detector, and events
with at least one hit.
-/

namespace DetectorSim

/-- Accumulated counts. -/
structure HitCounts where
  hits : Dictionary UInt64
  eventsWithHits : UInt64
  deriving Inhabited

namespace HitCounts

/-- No counts. -/
def empty : HitCounts :=
  ⟨.empty, 0⟩

/-- The key under which hits are counted. -/
def keyOf (m : Message .hits) : String :=
  m.detectorName.getD "global"

/-- Adds the hits of a message. -/
def addMessage (c : HitCounts) (m : Message .hits) : HitCounts :=
  let hits : Hits := m.payload
  { c with hits := c.hits.update (keyOf m) 0 (· + UInt64.ofNat hits.size) }

/-- Adds the hits of messages. -/
def addMessages (messages : List (Message .hits)) (c : HitCounts) : HitCounts :=
  messages.foldl addMessage c

/-- Counts an event with hits. -/
def countEvent (c : HitCounts) : HitCounts :=
  { c with eventsWithHits := c.eventsWithHits + 1 }

/-- The counts as a report, one detector a line. -/
def report (c : HitCounts) : String :=
  "# detector hits\n" ++
    String.join (c.hits.entries.map fun (detector, hits) => s!"{detector} {hits.toNat}\n") ++
    s!"# events with hits: {c.eventsWithHits.toNat}\n"

end HitCounts

end DetectorSim
