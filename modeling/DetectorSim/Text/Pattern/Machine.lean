import DetectorSim.Text.Pattern.Basic

/-!
Matching by a machine that is in several states at once, the preferred ones first. Between
two characters it explores what it can reach without reading, each state once. A match that
is complete ends the pursuit of all that is less preferred.
-/

namespace DetectorSim.Text

namespace Pattern

/-- A state of a machine, with the numbers of the states after it: read a character of a set, pass a
place, go on in either of two states and rather in the first, or stop with a match. -/
inductive State where
  | read (set : CharSet) (next : Nat)
  | pass (place : Place) (next : Nat)
  | split (first second : Nat)
  | stop
  deriving DecidableEq, Repr

/-- The states that a state leads to without reading, the preferred one first. -/
def State.onward (met : Place → Bool) : State → List Nat
  | .split first second => [first, second]
  | .pass p next => if met p then [next] else []
  | .read .. | .stop => []

/-- A machine: its states by number, and the one that it begins in. -/
structure Machine where
  states : Array State
  start : Nat
  deriving DecidableEq, Repr

namespace Machine

/-- Appends a state. -/
def add (states : Array State) (s : State) : Nat × Array State :=
  (states.size, states.push s)

/-- A split that goes on rather with more, or rather without. -/
def splitBy (greedy : Bool) (more without : Nat) : State :=
  if greedy then .split more without else .split without more

/-- Appends the states that match a text and go on with a state. -/
def addLiteral (states : Array State) (text : List Char) (next : Nat) : Nat × Array State :=
  match text with
  | [] => (next, states)
  | c :: rest =>
    let (after, states) := addLiteral states rest next
    add states (.read (.single c) after)

/-- Appends the states that match a pattern and go on with a state. A loop begins with its own
decision; only if its body can match the empty text does it decide separately before the first
repetition and after each one. -/
def addPattern (states : Array State) (next : Nat) : Pattern → Nat × Array State
  | nothing => (next, states)
  | literal text => addLiteral states text next
  | one set => add states (.read set next)
  | place p => add states (.pass p next)
  | capture _ p => addPattern states next p
  | sequence p q =>
    let (middle, states) := addPattern states next q
    addPattern states middle p
  | choice p q =>
    let (first, states) := addPattern states next p
    let (second, states) := addPattern states next q
    add states (.split first second)
  | repeated .optional greedy p =>
    let (more, states) := addPattern states next p
    add states (splitBy greedy more next)
  | repeated count greedy p =>
    let (again, states) := add states .stop
    let (more, states) := addPattern states again p
    let states := states.setIfInBounds again (splitBy greedy more next)
    match count with
    | .some => (more, states)
    | _ => if p.consumes then (again, states) else add states (splitBy greedy more next)

/-- The machine that finds a pattern anywhere in a text, rather earlier than later. -/
def ofPattern (p : Pattern) : Machine :=
  let (stop, states) := add #[] .stop
  let (inside, states) := addPattern states stop p
  let (start, states) := add states .stop
  let (later, states) := add states (.read .all start)
  ⟨states.setIfInBounds start (.split inside later), start⟩

/-- The states that have been explored: which ones, and in which order, the last one first. -/
structure Explored where
  seen : Array Bool
  order : List Nat
  deriving DecidableEq, Repr

/-- Nothing has been explored. -/
def unexplored (m : Machine) : Explored :=
  ⟨.replicate m.states.size false, []⟩

/-- Explores what can be reached from some states without reading. The preferred branch of a split is
explored before the other one. -/
def explore (m : Machine) (met : Place → Bool) : Nat → List Nat → Explored → Explored
  | 0, _, e => e
  | _, [], e => e
  | fuel + 1, n :: rest, e =>
    match m.states[n]?, e.seen.getD n true with
    | some s, false =>
      m.explore met fuel (s.onward met ++ rest) ⟨e.seen.setIfInBounds n true, n :: e.order⟩
    | _, _ => m.explore met fuel rest e

/-- What can be reached from some states at a place between two characters, in order. A state is
explored once and leads to two others at most, which bounds the number of steps. -/
def reach (m : Machine) (before after : Option Char) (first : List Nat) : List Nat :=
  let steps := first.length + 2 * m.states.size
  (m.explore (·.holds before after) steps first m.unexplored).order.reverse

/-- The states behind a character, in order. States that are less preferred than a match are given
up. -/
def read (m : Machine) (c : Char) : List Nat → List Nat
  | [] => []
  | n :: rest =>
    match m.states[n]? with
    | some .stop => []
    | some (.read set next) => if set.contains c then next :: m.read c rest else m.read c rest
    | _ => m.read c rest

/-- Reads a text from some states on, behind a character. The states at its end, in order. -/
def run (m : Machine) (before : Option Char) (first : List Nat) : List Char → List Nat
  | [] => m.reach before none first
  | c :: rest => m.run (some c) (m.read c (m.reach before (some c) first)) rest

/-- Whether the machine stops with a match at the end of a text. -/
def stopsAtEnd (m : Machine) (text : List Char) : Bool :=
  (m.run none [m.start] text).any fun n => m.states[n]? == some .stop

end Machine

/-- Whether the preferred match in a text reaches the end of it. -/
def reachesEnd (p : Pattern) (text : String) : Bool :=
  (Machine.ofPattern p).stopsAtEnd text.toList

end Pattern

end DetectorSim.Text
