import DetectorSim.CommandLine.Directive

/-!
Log filters. A filter is a list of directives separated by commas. Of the plain directives
about a report the most specific one decides whether it is shown. A report inside of a span
is shown also if a directive about the span admits it.
-/

namespace DetectorSim.CommandLine

/-- A log filter: its directives about reports by themselves, those about spans, and the rank of the
most verbose level that any directive has named. -/
structure LogFilter where
  forReports : List Directive
  forSpans : List Directive
  mostVerbose : Nat
  deriving DecidableEq, Repr

namespace LogFilter

/-- The parts between commas. -/
def parts : List Char → List (List Char)
  | [] => [[]]
  | c :: rest =>
    if c = ',' then [] :: parts rest
    else match parts rest with
      | [] => [[c]]
      | first :: more => (c :: first) :: more

/-- The directives written in a text. -/
def written (text : String) : List String :=
  ((parts text.toList).filter (!·.isEmpty)).map String.ofList

/-- Adds a directive, which takes the place of an earlier one about the same reports. -/
def add (directives : List Directive) (d : Directive) : List Directive :=
  directives.filter (!d.replaces ·) ++ [d]

/-- The filter of some directives. Without any, errors are shown. -/
def ofDirectives (directives : List Directive) : LogFilter :=
  let forSpans := directives.filter Directive.isScoped
  let forReports := directives.filter (!·.isScoped) ++ forSpans.filter Directive.isPlain
  let mostVerbose := (directives.map (·.threshold.rank)).foldl max 0
  if directives.isEmpty then ⟨[.general ⟨some .error⟩], [], Level.error.rank⟩
  else ⟨forReports.foldl add [], forSpans.foldl add [], mostVerbose⟩

/-- Reads a filter, without the parts that are no directives. -/
def read (text : String) : LogFilter :=
  ofDirectives ((written text).filterMap fun part => (Directive.read part).toOption)

/-- The parts of a text that are no directives, each with the reason. -/
def refused (text : String) : List (String × DirectiveFault) :=
  (written text).filterMap fun part =>
    match Directive.read part with
    | .ok _ => none
    | .error fault => some (part, fault)

/-- Whether a directive is less specific than another one: by its target, then by whether it asks
for a field, then by the name of the field. -/
def lessSpecific (d other : Directive) : Bool :=
  let size (d : Directive) : Nat := (d.target.map fun t => t.utf8ByteSize + 1).getD 0
  if size d ≠ size other then size d < size other
  else match d.field, other.field with
    | none, some _ => true
    | some f, some g => f.name < g.name
    | _, none => false

/-- The more specific of two directives, the later one if neither is. -/
def moreSpecific (best : Option Directive) (d : Directive) : Option Directive :=
  match best with
  | none => some d
  | some b => if lessSpecific d b then some b else some d

/-- Whether the most specific of some directives admits a level. -/
def mostSpecificAdmits (directives : List Directive) (level : Level) : Bool :=
  (directives.foldl moreSpecific none).any (·.threshold.admits level)

/-- Whether a report is shown wherever it is made. -/
def showsPlain (f : LogFilter) (r : Report) : Bool :=
  mostSpecificAdmits (f.forReports.filter fun d =>
    d.covers r.target && d.field.all fun test =>
      test.name == "message" || (r.fields.lookup test.name).isSome) r.level

/-- Whether a directive is about a span. -/
def concerns (d : Directive) (s : Span) : Bool :=
  d.covers s.target && d.span.all (· == s.name) && d.field.all fun test => test.name == s.field

/-- Whether the value of a span meets the condition of a directive. -/
def meets (d : Directive) (s : Span) : Bool :=
  (d.field.bind (·.value)).all (·.holds s.value)

/-- Whether spans of a level can be entered at all. A condition on a value can be decided only
inside of a span, so that with one all spans are entered. -/
def reaches (f : LogFilter) (level : Level) : Bool :=
  level.rank ≤ f.mostVerbose || f.forSpans.any fun d => d.field.any (·.value.isSome)

/-- Whether a span is entered. A field that a plain directive asks for need not be in a span. -/
def enters (f : LogFilter) (s : Span) : Bool :=
  f.reaches s.level &&
    (f.forSpans.any (concerns · s) ||
      mostSpecificAdmits (f.forReports.filter (·.covers s.target)) s.level)

/-- Whether a report of a level is shown because of the span that it is made in. -/
def showsInside (f : LogFilter) (s : Span) (level : Level) : Bool :=
  f.enters s && f.forSpans.any fun d => concerns d s && meets d s && d.threshold.admits level

/-- Whether a report is shown. -/
def shows (f : LogFilter) (r : Report) : Bool :=
  f.showsPlain r || r.span.any fun s => f.showsInside s r.level

end LogFilter

end DetectorSim.CommandLine
