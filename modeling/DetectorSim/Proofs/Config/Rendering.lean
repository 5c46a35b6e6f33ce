import DetectorSim.Config.Document
import DetectorSim.Proofs.Config.Quotes
import DetectorSim.Proofs.Text.Trimming
import Mathlib.Data.List.Forall2

/-! Ways of writing sections down, and that reading undoes them all. Spacing may stand around every
token and every line, and blank lines and comments between any two lines. -/

namespace DetectorSim.Config

/-- White space that does not end a line. -/
def IsSpacing (gap : List Char) : Prop :=
  ∀ c ∈ gap, Text.isSpace c = true ∧ c ≠ '\n'

/-- A token with spacing around it. -/
def Spaced (token cs : List Char) : Prop :=
  ∃ left right, IsSpacing left ∧ IsSpacing right ∧ cs = left ++ (token ++ right)

/-- A text that can stand behind a key. Its quotes need not be closed. -/
structure IsValueText (cs : List Char) : Prop where
  oneLine : '\n' ∉ cs
  trimmed : Text.IsTrimmed cs
  uncommented : '#' ∉ Value.unquoted none cs

namespace Line

/-- What a line says can be written down. -/
def IsSound : Line → Prop
  | .blank => True
  | .header name detector => isIdentifier name.toList = true ∧ ∀ qualifier ∈ detector,
      isIdentifier qualifier.toList = true ∧ Text.sameLetters name globalName = false
  | .assignment key value => isIdentifier key.toList = true ∧ IsValueText value.toList

/-- A text is a way of writing a line. A comment follows a value only if no quote is open behind the
value, or else it would be part of it. -/
inductive Writes : Line → List Char → Prop where
  | blank {gap : List Char} (spacing : IsSpacing gap) : Writes .blank gap
  | comment {gap text : List Char} {mark : Char} (spacing : IsSpacing gap)
      (marks : mark = '#' ∨ mark = ';') (oneLine : '\n' ∉ text) :
      Writes .blank (gap ++ mark :: text)
  | header {name : String} {inside cs : List Char} (named : Spaced name.toList inside)
      (spaced : Spaced ('[' :: (inside ++ [']'])) cs) : Writes (.header name none) cs
  | qualified {name qualifier : String} {before after cs : List Char}
      (named : Spaced name.toList before) (qualifies : Spaced qualifier.toList after)
      (spaced : Spaced ('[' :: (before ++ ':' :: after ++ [']'])) cs) :
      Writes (.header name (some qualifier)) cs
  | assignment {key value : String} {before after : List Char}
      (keyed : Spaced key.toList before) (valued : Spaced value.toList after) :
      Writes (.assignment key value) (before ++ '=' :: after)
  | commented {key value : String} {before after text : List Char}
      (keyed : Spaced key.toList before) (valued : Spaced value.toList after)
      (closed : Value.openQuote none value.toList = none) (oneLine : '\n' ∉ text) :
      Writes (.assignment key value) (before ++ '=' :: (after ++ '#' :: text))

end Line

/-- A section that is to be written down, with its assignments in order. -/
structure Draft where
  name : String
  detector : Option String
  assignments : List (String × String)
  headed : (Line.header name detector).IsSound
  assigned : ∀ entry ∈ assignments, (Line.assignment entry.1 entry.2).IsSound

namespace Draft

/-- The lines that have to be written. -/
def lines (d : Draft) : List Line :=
  .header d.name d.detector :: d.assignments.map fun (key, value) => .assignment key value

/-- A section that has not been read from is the one meant: every key has the value that was
assigned to it last, and no other key is set. -/
structure Describes (d : Draft) (origin : Option Path) (s : Section) : Prop where
  name : s.name = d.name
  detector : s.detector = d.detector
  origin : s.origin = origin
  unread : s.marks = []
  values : ∀ key, s.values.find? key = d.assignments.reverse.lookup key

end Draft

namespace Document

/-- A line feed, or a carriage return and a line feed. -/
def IsLineEnd (cs : List Char) : Prop :=
  cs = ['\n'] ∨ cs = ['\r', '\n']

/-- A text writes lines one below the other. The last one may go without a line end. -/
inductive Renders : List Line → List Char → Prop where
  | nil : Renders [] []
  | last {line : Line} {cs : List Char} (writes : line.Writes cs) : Renders [line] cs
  | line {line : Line} {lines : List Line} {cs ending behind : List Char}
      (writes : line.Writes cs) (ends : IsLineEnd ending) (next : Renders lines behind) :
      Renders (line :: lines) (cs ++ (ending ++ behind))

/-- A text writes the lines of sections in order, with any blank lines and comments between them. -/
def IsRendering (drafts : List Draft) (cs : List Char) : Prop :=
  ∃ lines, Renders lines cs ∧ lines.filter (· ≠ .blank) = drafts.flatMap Draft.lines

end Document

section Spacing

variable {token gap cs : List Char} {c : Char}

theorem isSpacing_nil : IsSpacing [] := nofun

theorem IsSpacing.isBlank (spacing : IsSpacing gap) : Text.IsBlank gap :=
  fun c member => (spacing c member).1

theorem IsSpacing.not_mem (spacing : IsSpacing gap) (solid : Text.isSpace c = false) : c ∉ gap := by
  intro member
  rw [(spacing c member).1] at solid
  cases solid

theorem Spaced.refl (token : List Char) : Spaced token token :=
  ⟨[], [], isSpacing_nil, isSpacing_nil, by rw [List.append_nil, List.nil_append]⟩

theorem Spaced.trim (spaced : Spaced token cs) : Text.trim cs = Text.trim token := by
  obtain ⟨left, right, before, behind, rfl⟩ := spaced
  rw [Text.trim_blank_append before.isBlank, Text.trim_append_blank behind.isBlank]

theorem Spaced.trim_eq (spaced : Spaced token cs) (trimmed : Text.IsTrimmed token) :
    Text.trim cs = token :=
  spaced.trim.trans trimmed.trim_eq

theorem Spaced.not_mem (spaced : Spaced token cs) (free : c ∉ token)
    (solid : Text.isSpace c = false ∨ c = '\n') : c ∉ cs := by
  obtain ⟨left, right, before, behind, rfl⟩ := spaced
  have absent : ∀ {gap}, IsSpacing gap → c ∉ gap := by
    intro gap spacing member
    rcases solid with solid | rfl
    · exact spacing.not_mem solid member
    · exact (spacing _ member).2 rfl
  simp [absent before, absent behind, free]

end Spacing

section Identifiers

variable {cs : List Char} (identifier : isIdentifier cs = true)

include identifier

theorem isIdentifier_ne_nil : cs ≠ [] := by
  rintro rfl
  cases identifier

theorem isIdentifier_char {c : Char} (member : c ∈ cs) :
    (c.isAlphanum || c == '_' || c == '-' || c == '.') = true := by
  rw [isIdentifier, Bool.and_eq_true] at identifier
  exact List.all_eq_true.mp identifier.2 c member

theorem not_mem_of_isIdentifier {c : Char} (foreign : isIdentifier [c] = false) : c ∉ cs := by
  intro member
  have proper := isIdentifier_char identifier member
  simp [isIdentifier] at foreign
  simp [foreign] at proper

theorem isSpace_of_isIdentifier {c : Char} (member : c ∈ cs) : Text.isSpace c = false := by
  have proper := isIdentifier_char identifier member
  simp only [Bool.or_eq_true, beq_iff_eq] at proper
  rcases proper with ((ascii | rfl) | rfl) | rfl
  · exact Text.isSpace_of_isAlphanum ascii
  all_goals rfl

theorem isTrimmed_of_isIdentifier : Text.IsTrimmed cs :=
  Text.isTrimmed_of_forall fun _ member => isSpace_of_isIdentifier identifier member

end Identifiers

section Comments

variable {quote : Option Char} {cs gap : List Char}

theorem stripComment_append (uncommented : '#' ∉ Value.unquoted quote cs) (ds : List Char) :
    stripComment quote (cs ++ ds) = cs ++ stripComment (Value.openQuote quote cs) ds := by
  induction cs generalizing quote with
  | nil => rfl
  | cons c rest ih =>
    rw [List.cons_append, List.cons_append, Value.openQuote_cons]
    cases quote with
    | some quote => rw [stripComment, ← ih uncommented, Value.quoteAfter]
    | none =>
      by_cases quotes : Value.isQuote c = true
      · have later : '#' ∉ Value.unquoted (Value.quoteAfter none c) rest := by
          simpa [Value.unquoted, quotes] using uncommented
        rw [← ih later, stripComment, if_pos quotes, Value.quoteAfter, if_pos quotes]
      · obtain ⟨other, later⟩ : '#' ≠ c ∧ '#' ∉ Value.unquoted (Value.quoteAfter none c) rest := by
          simpa [Value.unquoted, quotes] using uncommented
        rw [← ih later, stripComment, if_neg quotes, if_neg other.symm, Value.quoteAfter,
          if_neg quotes]

theorem stripComment_uncommented (uncommented : '#' ∉ Value.unquoted quote cs) :
    stripComment quote cs = cs := by
  have kept := stripComment_append uncommented []
  rwa [List.append_nil, stripComment, List.append_nil] at kept

theorem stripComment_eq_self (uncommented : '#' ∉ cs) (quote : Option Char) :
    stripComment quote cs = cs :=
  stripComment_uncommented fun member => uncommented (Value.mem_of_mem_unquoted member)

theorem stripComment_hash (after : List Char) : stripComment none ('#' :: after) = [] := rfl

/-- Whether white space at the end is kept or goes with a comment does not matter to the rest. -/
theorem stripComment_append_blank (blank : Text.IsBlank gap) (quote : Option Char)
    (cs : List Char) : ∃ kept, Text.IsBlank kept ∧
      stripComment quote (cs ++ gap) = stripComment quote cs ++ kept := by
  induction cs generalizing quote with
  | nil =>
    have uncommented : '#' ∉ gap := fun member => nomatch blank '#' member
    refine ⟨gap, blank, ?_⟩
    rw [List.nil_append, stripComment_eq_self uncommented, stripComment, List.nil_append]
  | cons c rest ih =>
    rw [List.cons_append]
    cases quote with
    | some quote =>
      obtain ⟨kept, blankKept, same⟩ := ih (if c = quote then none else some quote)
      exact ⟨kept, blankKept, by rw [stripComment, stripComment, same, List.cons_append]⟩
    | none =>
      rw [stripComment, stripComment]
      split
      · obtain ⟨kept, blankKept, same⟩ := ih (some c)
        exact ⟨kept, blankKept, by rw [same, List.cons_append]⟩
      · split
        · exact ⟨[], Text.isBlank_nil, rfl⟩
        · obtain ⟨kept, blankKept, same⟩ := ih none
          exact ⟨kept, blankKept, by rw [same, List.cons_append]⟩

theorem trim_stripComment_append_blank (blank : Text.IsBlank gap) (quote : Option Char)
    (cs : List Char) :
    Text.trim (stripComment quote (cs ++ gap)) = Text.trim (stripComment quote cs) := by
  obtain ⟨kept, blankKept, same⟩ := stripComment_append_blank blank quote cs
  rw [same, Text.trim_append_blank blankKept]

theorem IsSpacing.openQuote_eq (spacing : IsSpacing gap) : Value.openQuote none gap = none := by
  refine Value.openQuote_of_plain fun c member => ?_
  exact Value.isQuote_of_isSeparator (Value.isSeparator_of_isSpace (spacing c member).1)

theorem Spaced.closed {token : List Char} (spaced : Spaced token cs)
    (closed : Value.openQuote none token = none) : Value.openQuote none cs = none := by
  obtain ⟨left, right, before, behind, rfl⟩ := spaced
  rw [Value.openQuote_append, Value.openQuote_append, before.openQuote_eq, closed,
    behind.openQuote_eq]

theorem Spaced.uncommented {token : List Char} (spaced : Spaced token cs)
    (uncommented : '#' ∉ Value.unquoted none token) : '#' ∉ Value.unquoted none cs := by
  obtain ⟨left, right, before, behind, rfl⟩ := spaced
  have around : ∀ {gap quote}, IsSpacing gap → '#' ∉ Value.unquoted quote gap :=
    fun spacing member => spacing.not_mem rfl (Value.mem_of_mem_unquoted member)
  rw [Value.unquoted_append, Value.unquoted_append, before.openQuote_eq, List.mem_append,
    List.mem_append]
  rintro (inLeft | inside | inRight)
  · exact around before inLeft
  · exact uncommented inside
  · exact around behind inRight

/-- A value with spacing around it is kept up to spacing, with a comment behind it or without. -/
theorem trim_stripComment_spaced {value after : List Char}
    (uncommented : '#' ∉ Value.unquoted none value) (spaced : Spaced value after)
    (behind : List Char) (dropped : stripComment (Value.openQuote none after) behind = []) :
    Text.trim (stripComment none (after ++ behind)) = Text.trim value := by
  rw [stripComment_append (spaced.uncommented uncommented), dropped, List.append_nil, spaced.trim]

theorem trim_stripComment_value {value after : List Char} (valid : IsValueText value)
    (spaced : Spaced value after) (behind : List Char)
    (dropped : stripComment (Value.openQuote none after) behind = []) :
    Text.trim (stripComment none (after ++ behind)) = value :=
  (trim_stripComment_spaced valid.uncommented spaced behind dropped).trans valid.trimmed.trim_eq

end Comments

namespace Line

theorem read_congr {cs ds : List Char} (same : Text.trim cs = Text.trim ds) :
    read cs = read ds := by
  rw [read, read, same]

theorem read_blank {gap : List Char} (blank : Text.IsBlank gap) : read gap = .ok .blank := by
  rw [read, Text.trim_blank blank]

theorem read_comment {gap : List Char} {mark : Char} (blank : Text.IsBlank gap)
    (marks : mark = '#' ∨ mark = ';') (text : List Char) :
    read (gap ++ mark :: text) = .ok .blank := by
  have solid : Text.isSpace mark = false := by rcases marks with rfl | rfl <;> rfl
  obtain ⟨kept, cut, -, -, trimmed⟩ := Text.exists_trim_append [] nofun solid text
  rw [List.nil_append, List.nil_append] at trimmed
  rw [read, Text.trim_blank_append blank, trimmed]
  exact if_pos marks

theorem read_header {inside cs : List Char} (spaced : Spaced ('[' :: (inside ++ [']'])) cs) :
    read cs = readHeader inside := by
  have trimmed : Text.IsTrimmed ('[' :: (inside ++ [']'])) := by
    constructor
    · rintro c ⟨⟩
      rfl
    · intro c last
      rw [← List.cons_append, List.getLast?_concat] at last
      cases last
      rfl
  rw [read, spaced.trim_eq trimmed]
  simp

theorem readHeader_name {name : String} {inside : List Char}
    (named : isIdentifier name.toList = true) (spaced : Spaced name.toList inside) :
    readHeader inside = .ok (.header name none) := by
  have absent : ':' ∉ inside := spaced.not_mem (not_mem_of_isIdentifier named rfl) (.inl rfl)
  have trimmed := spaced.trim_eq (isTrimmed_of_isIdentifier named)
  simp [readHeader, Text.splitAtFirst_eq_none absent, trimmed, named]

theorem readHeader_qualified {name qualifier : String} {before after : List Char}
    (named : isIdentifier name.toList = true) (spaced : Spaced name.toList before)
    (qualified : isIdentifier qualifier.toList = true) (behind : Spaced qualifier.toList after)
    (other : Text.sameLetters name globalName = false) :
    readHeader (before ++ ':' :: after) = .ok (.header name (some qualifier)) := by
  have absent : ':' ∉ before := spaced.not_mem (not_mem_of_isIdentifier named rfl) (.inl rfl)
  have first := spaced.trim_eq (isTrimmed_of_isIdentifier named)
  have second := behind.trim_eq (isTrimmed_of_isIdentifier qualified)
  simp [readHeader, Text.splitAtFirst_append absent, first, second, named, qualified, other]

/-- A line is cut at its first equals sign, whatever its value is. White space at the end of the
line is dropped before the comment is, and makes no difference. -/
theorem read_assignment {key : String} {before : List Char} (keyed : isIdentifier key.toList = true)
    (spaced : Spaced key.toList before) (tail : List Char) :
    read (before ++ '=' :: tail) =
      .ok (.assignment key (String.ofList (Text.trim (stripComment none tail)))) := by
  obtain ⟨left, right, front, back, rfl⟩ := spaced
  obtain ⟨c, rest, begins⟩ := List.exists_cons_of_ne_nil (isIdentifier_ne_nil keyed)
  have proper : ∀ d, isIdentifier [d] = false → d ∉ key.toList :=
    fun d foreign => not_mem_of_isIdentifier keyed foreign
  have first : ∀ d, (key.toList ++ right).head? = some d → Text.isSpace d = false := by
    intro d head
    rw [List.head?_append_of_ne_nil _ (isIdentifier_ne_nil keyed)] at head
    exact (isTrimmed_of_isIdentifier keyed).first d head
  obtain ⟨kept, cut, rfl, blank, trimmed⟩ :=
    Text.exists_trim_append (key.toList ++ right) first (c := '=') rfl tail
  have assigns : read (left ++ (key.toList ++ right) ++ '=' :: (kept ++ cut)) =
      readAssignment (key.toList ++ right ++ '=' :: kept) := by
    have other : ∀ d, isIdentifier [d] = false → c ≠ d := by
      rintro d foreign rfl
      exact proper c foreign (by rw [begins]; exact List.mem_cons_self ..)
    rw [read, List.append_assoc left, Text.trim_blank_append front.isBlank, trimmed, begins]
    simp [other '#' rfl, other ';' rfl, other '[' rfl]
  have absent : '=' ∉ key.toList ++ right := by
    rw [List.mem_append, not_or]
    exact ⟨proper '=' rfl, back.not_mem rfl⟩
  have named : Text.trim (key.toList ++ right) = key.toList := by
    rw [Text.trim_append_blank back.isBlank, (isTrimmed_of_isIdentifier keyed).trim_eq]
  rw [assigns, readAssignment, Text.splitAtFirst_append absent]
  simp [named, keyed, trim_stripComment_append_blank blank]

theorem read_of_writes {line : Line} {cs : List Char} (writes : line.Writes cs)
    (sound : line.IsSound) : read cs = .ok line := by
  cases writes with
  | blank spacing => exact read_blank spacing.isBlank
  | comment spacing marks oneLine => exact read_comment spacing.isBlank marks _
  | header named spaced => rw [read_header spaced, readHeader_name sound.1 named]
  | qualified named qualifies spaced =>
    obtain ⟨qualified, other⟩ := sound.2 _ rfl
    rw [read_header spaced, readHeader_qualified sound.1 named qualified qualifies other]
  | @assignment key value before after keyed valued =>
    have kept := trim_stripComment_value sound.2 valued [] (by rw [stripComment])
    rw [List.append_nil] at kept
    rw [read_assignment sound.1 keyed, kept, String.ofList_toList]
  | @commented key value before after text keyed valued closed oneLine =>
    have kept := trim_stripComment_value sound.2 valued ('#' :: text)
      (by rw [valued.closed closed]; rfl)
    rw [read_assignment sound.1 keyed, kept, String.ofList_toList]

theorem not_mem_header {cs token : List Char} (solid : '\n' ∉ token)
    (spaced : Spaced ('[' :: (token ++ [']'])) cs) : '\n' ∉ cs :=
  spaced.not_mem (by simp [solid]) (.inr rfl)

theorem unbroken_of_writes {line : Line} {cs : List Char} (writes : line.Writes cs)
    (sound : line.IsSound) : '\n' ∉ cs := by
  have identified : ∀ {token cs : List Char}, isIdentifier token = true → Spaced token cs →
      '\n' ∉ cs :=
    fun identifier spaced => spaced.not_mem (not_mem_of_isIdentifier identifier rfl) (.inr rfl)
  cases writes with
  | blank spacing => exact fun member => (spacing _ member).2 rfl
  | comment spacing marks oneLine =>
    have before : '\n' ∉ _ := fun member => (spacing _ member).2 rfl
    rcases marks with rfl | rfl <;> simp [before, oneLine]
  | header named spaced => exact not_mem_header (identified sound.1 named) spaced
  | qualified named qualifies spaced =>
    refine not_mem_header ?_ spaced
    simp [identified sound.1 named, identified (sound.2 _ rfl).1 qualifies]
  | assignment keyed valued =>
    simp [identified sound.1 keyed, valued.not_mem sound.2.oneLine (.inr rfl)]
  | commented keyed valued closed oneLine =>
    simp [identified sound.1 keyed, valued.not_mem sound.2.oneLine (.inr rfl), oneLine]

end Line

namespace Document

section Reading

variable {origin : Option Path} {lines : List Line} {cs : List Char} {start done : List Section}

theorem readLines_cons {line : Line} {next : List Section} (read : Line.read cs = .ok line)
    (added : addLine origin start line = .ok next) (number : Nat) (rest : List (List Char)) :
    readLines origin number start (cs :: rest) = readLines origin (number + 1) next rest := by
  simp [readLines, read, added, Except.bind]

theorem foldlM_cons_eq_ok {line : Line} : (line :: lines).foldlM (addLine origin) start = .ok done ↔
    ∃ next, addLine origin start line = .ok next ∧
      lines.foldlM (addLine origin) next = .ok done := by
  rw [List.foldlM_cons]
  cases addLine origin start line with
  | error reason => exact ⟨nofun, fun ⟨_, added, _⟩ => nomatch added⟩
  | ok next =>
    constructor
    · exact fun added => ⟨next, rfl, added⟩
    · rintro ⟨_, ⟨⟩, added⟩
      exact added

/-- A text is read line by line. The carriage return of a line end is trimmed like any white space.
-/
theorem readLines_of_renders (renders : Renders lines cs) (sound : ∀ line ∈ lines, line.IsSound)
    (added : lines.foldlM (addLine origin) start = .ok done) (number : Nat) :
    readLines origin number start (Text.lines cs) = .ok done := by
  induction renders generalizing start number with
  | nil =>
    cases added
    rfl
  | @last line cs writes =>
    obtain ⟨next, addedLine, ⟨⟩⟩ := foldlM_cons_eq_ok.mp added
    have first := sound line (List.mem_singleton_self line)
    have read := Line.read_of_writes writes first
    by_cases empty : cs = []
    · -- an empty text has no line at all, which adds as much as a blank one
      subst empty
      cases read
      cases addedLine
      rfl
    · rw [Text.lines_unbroken (Line.unbroken_of_writes writes first) empty,
        readLines_cons read addedLine, readLines]
  | @line line lines cs ending behind writes ends next ih =>
    obtain ⟨first, others⟩ := List.forall_mem_cons.mp sound
    obtain ⟨between, addedLine, addedRest⟩ := foldlM_cons_eq_ok.mp added
    have read := Line.read_of_writes writes first
    have unbroken := Line.unbroken_of_writes writes first
    have goes := ih others addedRest (number + 1)
    rcases ends with rfl | rfl
    · rw [List.singleton_append, Text.lines_append unbroken, readLines_cons read addedLine, goes]
    · have returned : Line.read (cs ++ ['\r']) = .ok line := by
        rw [← read]
        exact Line.read_congr (Text.trim_append_blank (List.forall_mem_singleton.mpr rfl) cs)
      have still : '\n' ∉ cs ++ ['\r'] := by simp [unbroken]
      have cut := Text.lines_append still behind
      rw [List.append_assoc] at cut
      exact (congrArg _ cut).trans ((readLines_cons returned addedLine _ _).trans goes)

theorem foldlM_addLine_filter (lines : List Line) (start : List Section) :
    (lines.filter (· ≠ .blank)).foldlM (addLine origin) start =
      lines.foldlM (addLine origin) start := by
  rw [List.foldlM_filter]
  congr 1
  funext sections line
  cases line <;> rfl

theorem foldlM_assignments (assignments : List (String × String)) (current : Section) :
    (assignments.map fun (key, value) => Line.assignment key value).foldlM (addLine origin)
        (current :: start) =
      .ok (assignments.foldl (fun s (key, value) => s.set key value) current :: start) := by
  induction assignments generalizing current with
  | nil => rfl
  | cons entry rest ih => exact foldlM_cons_eq_ok.mpr ⟨_, rfl, ih _⟩

end Reading

end Document

namespace Section

theorem find?_set (s : Section) (key value other : String) :
    (s.set key value).values.find? other =
      if other = key then some value else s.values.find? other :=
  Dictionary.find?_insert s.values key other value

/-- Of several values set under a key the last one stays, and nothing else changes. -/
theorem foldl_set (assignments : List (String × String)) (s : Section) :
    let after := assignments.foldl (fun s (key, value) => s.set key value) s
    after.name = s.name ∧ after.detector = s.detector ∧ after.origin = s.origin ∧
      after.marks = s.marks ∧
      ∀ key, after.values.find? key = (assignments.reverse.lookup key).or (s.values.find? key) := by
  induction assignments generalizing s with
  | nil => exact ⟨rfl, rfl, rfl, rfl, fun _ => rfl⟩
  | cons entry rest ih =>
    obtain ⟨key, value⟩ := entry
    obtain ⟨name, detector, origin, marks, values⟩ := ih (s.set key value)
    refine ⟨name, detector, origin, marks, fun other => ?_⟩
    rw [List.foldl_cons, values, find?_set, List.reverse_cons, List.lookup_append, Option.or_assoc]
    by_cases same : other = key
    · simp [same]
    · simp [List.lookup_cons, beq_eq_false_iff_ne.mpr same, same]

end Section

namespace Draft

/-- The section that a draft describes. -/
def toSection (d : Draft) (origin : Option Path) : Section :=
  d.assignments.foldl (fun s (key, value) => s.set key value)
    { Section.new d.name d.detector with origin := origin }

theorem describes_toSection (d : Draft) (origin : Option Path) :
    d.Describes origin (d.toSection origin) := by
  obtain ⟨name, detector, origin, marks, values⟩ :=
    Section.foldl_set d.assignments { Section.new d.name d.detector with origin := origin }
  exact ⟨name, detector, origin, marks, fun key => (values key).trans (Option.or_none ..)⟩

theorem sound (d : Draft) : ∀ line ∈ d.lines, line.IsSound := by
  intro line member
  rcases List.mem_cons.mp member with rfl | assigned
  · exact d.headed
  · obtain ⟨entry, given, rfl⟩ := List.mem_map.mp assigned
    exact d.assigned entry given

end Draft

namespace Document

section Drafts

variable {origin : Option Path} {start : List Section}

theorem foldlM_draft (d : Draft) :
    d.lines.foldlM (addLine origin) start = .ok (d.toSection origin :: start) :=
  foldlM_cons_eq_ok.mpr ⟨_, rfl, foldlM_assignments d.assignments _⟩

theorem foldlM_drafts (drafts : List Draft) :
    (drafts.flatMap Draft.lines).foldlM (addLine origin) start =
      .ok ((drafts.map (·.toSection origin)).reverse ++ start) := by
  induction drafts generalizing start with
  | nil => rfl
  | cons d rest ih =>
    rw [List.flatMap_cons, List.foldlM_append, foldlM_draft, List.map_cons, List.reverse_cons,
      List.append_assoc]
    exact ih

/-- Every line of a rendering can be written down, as no line stands there that no draft asks for.
-/
theorem sound_of_written {drafts : List Draft} {lines : List Line}
    (written : lines.filter (· ≠ .blank) = drafts.flatMap Draft.lines) :
    ∀ line ∈ lines, line.IsSound := by
  intro line member
  by_cases blank : line = .blank
  · rw [blank]
    trivial
  · have said : line ∈ drafts.flatMap Draft.lines := by
      rw [← written]
      exact List.mem_filter.mpr ⟨member, decide_eq_true blank⟩
    obtain ⟨d, _, within⟩ := List.mem_flatMap.mp said
    exact d.sound line within

theorem exists_writes (line : Line) : ∃ cs, line.Writes cs := by
  cases line with
  | blank => exact ⟨_, .blank isSpacing_nil⟩
  | header name detector =>
    cases detector with
    | none => exact ⟨_, .header (.refl _) (.refl _)⟩
    | some qualifier => exact ⟨_, .qualified (.refl _) (.refl _) (.refl _)⟩
  | assignment key value => exact ⟨_, .assignment (.refl _) (.refl _)⟩

theorem exists_renders (lines : List Line) : ∃ cs, Renders lines cs := by
  induction lines with
  | nil => exact ⟨_, .nil⟩
  | cons line rest ih =>
    obtain ⟨cs, writes⟩ := exists_writes line
    obtain ⟨behind, next⟩ := ih
    exact ⟨_, .line writes (.inl rfl) next⟩

end Drafts

/-- Reading undoes every rendering. All lists of sections can be written down, and whichever way
they are, exactly these sections are read, in order. -/
theorem read_undoes_rendering (drafts : List Draft) :
    (∃ text : String, IsRendering drafts text.toList) ∧
      ∀ text : String, IsRendering drafts text.toList → ∀ origin, ∃ sections,
        read origin text = .ok sections ∧
          List.Forall₂ (fun d s => d.Describes origin s) drafts sections := by
  constructor
  · obtain ⟨cs, renders⟩ := exists_renders (drafts.flatMap Draft.lines)
    refine ⟨String.ofList cs, drafts.flatMap Draft.lines, by rwa [String.toList_ofList], ?_⟩
    refine List.filter_eq_self.mpr fun line member => decide_eq_true ?_
    rintro rfl
    obtain ⟨d, -, within⟩ := List.mem_flatMap.mp member
    simp [Draft.lines] at within
  · rintro text ⟨lines, renders, written⟩ origin
    have added : lines.foldlM (addLine origin) [] =
        .ok (drafts.map (·.toSection origin)).reverse := by
      rw [← foldlM_addLine_filter, written, foldlM_drafts, List.append_nil]
    have readAll := readLines_of_renders renders (sound_of_written written) added 1
    refine ⟨drafts.map (·.toSection origin), ?_, ?_⟩
    · rw [read, sections, readAll]
      simp [Except.map, Except.mapError]
    · exact List.forall₂_map_right_iff.mpr
        (List.forall₂_same.mpr fun d _ => d.describes_toSection origin)

/-- A hash between quotes is part of a value, also where the quote stays open, and a key keeps the
value that it gets last. -/
theorem decorated_sections_are_read :
    let text := "; run\n [Reader : d1]\t\r\nlabel = 'a#b' # note\n\nlabel='c #\n[Pixsim]"
    ∃ reader run : Draft,
      reader.assignments = [("label", "'a#b'"), ("label", "'c #")] ∧ run.assignments = [] ∧
      IsRendering [reader, run] text.toList ∧
      ∃ first second, read none text = .ok [first, second] ∧
        first.identifier = "Reader:d1" ∧ first.values.find? "label" = some "'c #" ∧
        second.identifier = "Pixsim" := by
  intro text
  have closed : IsValueText "'a#b'".toList :=
    ⟨by decide, ⟨by rintro c ⟨⟩; rfl, by rintro c ⟨⟩; rfl⟩, by decide⟩
  have unclosed : IsValueText "'c #".toList :=
    ⟨by decide, ⟨by rintro c ⟨⟩; rfl, by rintro c ⟨⟩; rfl⟩, by decide⟩
  let reader : Draft := {
    name := "Reader"
    detector := some "d1"
    assignments := [("label", "'a#b'"), ("label", "'c #")]
    headed := ⟨rfl, by rintro qualifier ⟨⟩; exact ⟨rfl, rfl⟩⟩
    assigned := List.forall_mem_cons.mpr
      ⟨⟨rfl, closed⟩, List.forall_mem_singleton.mpr ⟨rfl, unclosed⟩⟩ }
  let run : Draft := ⟨"Pixsim", none, [], ⟨rfl, nofun⟩, nofun⟩
  have space : IsSpacing [' '] := List.forall_mem_singleton.mpr ⟨rfl, by decide⟩
  have tab : IsSpacing ['\t'] := List.forall_mem_singleton.mpr ⟨rfl, by decide⟩
  have comment : Line.blank.Writes "; run".toList :=
    @Line.Writes.comment [] " run".toList ';' isSpacing_nil (.inr rfl) (by decide)
  have opening : (Line.header "Reader" (some "d1")).Writes " [Reader : d1]\t".toList :=
    @Line.Writes.qualified _ _ "Reader ".toList " d1".toList _
      ⟨[], [' '], isSpacing_nil, space, rfl⟩ ⟨[' '], [], space, isSpacing_nil, rfl⟩
      ⟨[' '], ['\t'], space, tab, rfl⟩
  have noted : (Line.assignment "label" "'a#b'").Writes "label = 'a#b' # note".toList :=
    @Line.Writes.commented _ _ "label ".toList " 'a#b' ".toList " note".toList
      ⟨[], [' '], isSpacing_nil, space, rfl⟩ ⟨[' '], [' '], space, space, rfl⟩ rfl (by decide)
  have last : Renders [.header "Pixsim" none] "[Pixsim]".toList :=
    .last (.header (.refl _) (.refl _))
  have repeated : Renders [.assignment "label" "'c #", .header "Pixsim" none]
      "label='c #\n[Pixsim]".toList :=
    @Renders.line _ _ "label='c #".toList ['\n'] _ (.assignment (.refl _) (.refl _)) (.inl rfl) last
  have rest : Renders [.assignment "label" "'a#b'", .blank, .assignment "label" "'c #",
      .header "Pixsim" none] "label = 'a#b' # note\n\nlabel='c #\n[Pixsim]".toList :=
    @Renders.line _ _ "label = 'a#b' # note".toList ['\n'] _ noted (.inl rfl)
      (@Renders.line _ _ [] ['\n'] _ (.blank isSpacing_nil) (.inl rfl) repeated)
  have whole : Renders [.blank, .header "Reader" (some "d1"), .assignment "label" "'a#b'", .blank,
      .assignment "label" "'c #", .header "Pixsim" none]
      "; run\n [Reader : d1]\t\r\nlabel = 'a#b' # note\n\nlabel='c #\n[Pixsim]".toList :=
    @Renders.line _ _ "; run".toList ['\n'] _ comment (.inl rfl)
      (@Renders.line _ _ " [Reader : d1]\t".toList ['\r', '\n'] _ opening (.inr rfl) rest)
  have rendering : IsRendering [reader, run] text.toList := ⟨_, whole, rfl⟩
  obtain ⟨sections, read, same⟩ := (read_undoes_rendering [reader, run]).2 text rendering none
  rcases same with _ | ⟨first, _ | ⟨second, ⟨⟩⟩⟩
  refine ⟨reader, run, rfl, rfl, rendering, _, _, read, ?_, ?_, ?_⟩
  · rw [Section.identifier, first.name, first.detector]
    rfl
  · exact first.values "label"
  · rw [Section.identifier, second.name, second.detector]

end Document

end DetectorSim.Config
