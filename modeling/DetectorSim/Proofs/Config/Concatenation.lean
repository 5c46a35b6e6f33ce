import DetectorSim.Proofs.Config.Rendering

/-! What a text is read as when another one is put behind it. The sections of both come one after
the other, lines are counted on, and assignments before the first header go to the section that is
there already. -/

namespace DetectorSim.Config

namespace Section

/-- The section after assignments in order. -/
def assign (s : Section) (assignments : List (String × String)) : Section :=
  assignments.foldl (fun s entry => s.set entry.1 entry.2) s

end Section

namespace Document

/-- Lines say nothing but assignments, in order. -/
inductive Assigns : List (List Char) → List (String × String) → Prop where
  | nil : Assigns [] []
  | blank {line : List Char} {lines : List (List Char)} {assignments : List (String × String)}
      (read : Line.read line = .ok .blank) (next : Assigns lines assignments) :
      Assigns (line :: lines) assignments
  | assignment {line : List Char} {key value : String} {lines : List (List Char)}
      {assignments : List (String × String)} (read : Line.read line = .ok (.assignment key value))
      (next : Assigns lines assignments) : Assigns (line :: lines) ((key, value) :: assignments)

/-- The fault as it is numbered with further lines before. -/
def Fault.behind (fault : Fault) (lines : Nat) : Fault :=
  { fault with line := fault.line + lines }

/-- A text is read like another one, but for sections that come before and lines that are counted
before. The other text must not fail for want of those sections. -/
structure Continues (origin : Option Path) (text rest : String) (before : List Section)
    (lines : Nat) : Prop where
  ok : ∀ behind, read origin rest = .ok behind → read origin text = .ok (before ++ behind)
  failed : ∀ name line reason, read origin rest = .error (.malformed name line reason) →
    (reason ≠ .keyBeforeHeader ∨ before = []) →
    read origin text = .error (.malformed name (line + lines) reason)

theorem Fault.behind_behind (fault : Fault) (first second : Nat) :
    (fault.behind first).behind second = fault.behind (first + second) := by
  rw [behind, behind, behind, Nat.add_assoc]

section Lines

variable {origin : Option Path} {start done : List Section} {fault : Fault}

theorem readLines_append (first second : List (List Char)) (number : Nat) (start : List Section) :
    readLines origin number start (first ++ second) =
      (readLines origin number start first).bind fun done =>
        readLines origin (number + first.length) done second := by
  induction first generalizing number start with
  | nil => rfl
  | cons line rest ih =>
    rw [List.cons_append, readLines, readLines]
    cases (Line.read line).bind (addLine origin start) with
    | error reason => rfl
    | ok next =>
      dsimp only
      rw [ih, List.length_cons, Nat.add_assoc, Nat.add_comm 1]

theorem readLines_behind (lines : List (List Char)) (before number : Nat) (start : List Section) :
    readLines origin (number + before) start lines =
      (readLines origin number start lines).mapError (·.behind before) := by
  induction lines generalizing number start with
  | nil => rfl
  | cons line rest ih =>
    rw [readLines, readLines]
    cases (Line.read line).bind (addLine origin start) with
    | error reason => rfl
    | ok next =>
      dsimp only
      rw [Nat.add_right_comm, ih]

/-- What was read before changes nothing, unless it is the section that an assignment goes to. -/
theorem addLine_append (line : Line) (start earlier : List Section)
    (headed : addLine origin start line ≠ .error .keyBeforeHeader ∨ earlier = []) :
    addLine origin (start ++ earlier) line = (addLine origin start line).map (· ++ earlier) := by
  cases line with
  | blank => rfl
  | header name detector => rfl
  | assignment key value =>
    cases start with
    | cons current before => rfl
    | nil =>
      rcases headed with headed | rfl
      · exact absurd rfl headed
      · rfl

theorem readLines_start_append (lines : List (List Char)) (number : Nat)
    (start earlier : List Section)
    (headed : ∀ fault, readLines origin number start lines = .error fault →
      fault.reason ≠ .keyBeforeHeader ∨ earlier = []) :
    readLines origin number (start ++ earlier) lines =
      (readLines origin number start lines).map (· ++ earlier) := by
  induction lines generalizing number start with
  | nil => rfl
  | cons line rest ih =>
    rw [readLines] at headed ⊢
    rw [readLines]
    cases read : Line.read line with
    | error reason => rfl
    | ok said =>
      rw [read, Except.bind] at headed
      have unheaded : addLine origin start said ≠ .error .keyBeforeHeader ∨ earlier = [] := by
        by_cases empty : earlier = []
        · exact .inr empty
        · left
          intro failed
          rw [failed] at headed
          exact (headed _ rfl).elim (fun other => other rfl) empty
      rw [Except.bind, Except.bind, addLine_append said start earlier unheaded]
      cases next : addLine origin start said with
      | error reason => rfl
      | ok sections =>
        rw [next] at headed
        exact ih (number + 1) sections headed

/-- Reading fails at the first line that cannot be read behind those before it. -/
theorem readLines_eq_error_iff {lines : List (List Char)} {number : Nat} :
    readLines origin number start lines = .error fault ↔
      ∃ before line behind done, lines = before ++ line :: behind ∧
        readLines origin number start before = .ok done ∧
        (Line.read line).bind (addLine origin done) = .error fault.reason ∧
        fault.line = number + before.length := by
  constructor
  · intro failed
    induction lines generalizing number start with
    | nil => cases failed
    | cons line rest ih =>
      rw [readLines] at failed
      cases next : (Line.read line).bind (addLine origin start) with
      | error reason =>
        rw [next] at failed
        cases failed
        exact ⟨[], line, rest, start, rfl, rfl, next, rfl⟩
      | ok sections =>
        rw [next] at failed
        obtain ⟨before, other, behind, done, rfl, read, reason, place⟩ := ih failed
        refine ⟨line :: before, other, behind, done, rfl, ?_, reason, ?_⟩
        · rw [readLines, next]
          exact read
        · rw [place, List.length_cons]
          omega
  · rintro ⟨before, line, behind, done, rfl, read, reason, place⟩
    rw [readLines_append, read, Except.bind, readLines, reason, ← place]

theorem Assigns.readLines_eq {lines : List (List Char)} {assignments : List (String × String)}
    (assigns : Assigns lines assignments) (number : Nat) (current : Section) :
    readLines origin number (current :: done) lines =
      .ok (current.assign assignments :: done) := by
  induction assigns generalizing number current with
  | nil => rfl
  | blank read next ih => rw [readLines_cons read rfl, ih]
  | assignment read next ih =>
    rw [readLines_cons read rfl, ih]
    rfl

end Lines

section Texts

variable {origin : Option Path} {text : String}

theorem read_eq_ok_iff {sections : List Section} : read origin text = .ok sections ↔
    readLines origin 1 [] (Text.lines text.toList) = .ok sections.reverse := by
  rw [read, Document.sections]
  cases readLines origin 1 [] (Text.lines text.toList) with
  | error fault => simp [Except.map, Except.mapError]
  | ok done => simp [Except.map, Except.mapError, List.reverse_eq_iff]

theorem read_eq_error_iff {error : ConfigError} : read origin text = .error error ↔
    ∃ fault, readLines origin 1 [] (Text.lines text.toList) = .error fault ∧
      error = .malformed ((origin.map Path.text).getD "<string>") fault.line fault.reason := by
  rw [read, Document.sections]
  cases readLines origin 1 [] (Text.lines text.toList) with
  | error fault => simp [Except.map, Except.mapError, eq_comm]
  | ok done => simp [Except.map, Except.mapError]

/-- Sections that were read before stay before those of a text, if it can do without them. -/
theorem readLines_reverse {lines : List (List Char)} (before : List Section)
    (headed : ∀ fault, readLines origin 1 [] lines = .error fault →
      fault.reason ≠ .keyBeforeHeader ∨ before = []) :
    readLines origin 1 before.reverse lines =
      (readLines origin 1 [] lines).map (· ++ before.reverse) :=
  readLines_start_append lines 1 [] before.reverse fun fault failed =>
    (headed fault failed).imp_right List.reverse_eq_nil_iff.mpr

theorem continues_of_readLines {text rest : String} {before : List Section} {lines : Nat}
    (same : readLines origin 1 [] (Text.lines text.toList) =
      (readLines origin 1 before.reverse (Text.lines rest.toList)).mapError (·.behind lines)) :
    Continues origin text rest before lines where
  ok behind read := by
    have alone := read_eq_ok_iff.mp read
    have appended := readLines_reverse before fun fault failed => by
      cases alone.symm.trans failed
    rw [read_eq_ok_iff, same, appended, alone, List.reverse_append]
    rfl
  failed name line reason read headed := by
    obtain ⟨fault, alone, named⟩ := read_eq_error_iff.mp read
    cases named
    have appended := readLines_reverse before fun other failed => by
      cases alone.symm.trans failed
      exact headed
    refine read_eq_error_iff.mpr ⟨fault.behind lines, ?_, rfl⟩
    rw [same, appended, alone]
    rfl

variable {first second : String} (whole : Text.IsWhole first.toList)

include whole

theorem readLines_text_append : readLines origin 1 [] (Text.lines (first ++ second).toList) =
    (readLines origin 1 [] (Text.lines first.toList)).bind fun done =>
      (readLines origin 1 done (Text.lines second.toList)).mapError
        (·.behind (Text.lines first.toList).length) := by
  rw [String.toList_append, Text.lines_append_of_isWhole whole, readLines_append]
  congr 1
  funext done
  exact readLines_behind _ _ 1 done

/-- A text comes with its own sections behind those of the text before. -/
theorem continues_append {before : List Section} (read : read origin first = .ok before) :
    Continues origin (first ++ second) second before (Text.lines first.toList).length := by
  apply continues_of_readLines
  rw [readLines_text_append whole, read_eq_ok_iff.mp read]
  rfl

/-- The assignments at the front of a text are made in the last section of the text before. -/
theorem continues_assigns {earlier : List Section} {current : Section} {keys rest : String}
    {assignments : List (String × String)} (read : read origin first = .ok (earlier ++ [current]))
    (apart : Text.IsWhole keys.toList ∨ rest = "")
    (assigns : Assigns (Text.lines keys.toList) assignments) :
    Continues origin (first ++ (keys ++ rest)) rest (earlier ++ [current.assign assignments])
      ((Text.lines keys.toList).length + (Text.lines first.toList).length) := by
  have lines : Text.lines (keys ++ rest).toList =
      Text.lines keys.toList ++ Text.lines rest.toList := by
    rw [String.toList_append]
    rcases apart with whole | rfl
    · exact Text.lines_append_of_isWhole whole _
    · exact (congrArg Text.lines (List.append_nil _)).trans (List.append_nil _).symm
  apply continues_of_readLines
  rw [readLines_text_append whole, read_eq_ok_iff.mp read, lines, Except.bind, List.reverse_concat,
    List.reverse_concat, readLines_append, assigns.readLines_eq, Except.bind, readLines_behind]
  cases readLines origin 1 (current.assign assignments :: earlier.reverse)
    (Text.lines rest.toList) with
  | error fault => exact congrArg Except.error (fault.behind_behind ..)
  | ok sections => rfl

end Texts

/-- Reading is compositional: a text that ends with its last line can be read apart from what stands
behind it. If it fails, both together fail for the same reason at the same line. If it does not,
the sections of the text behind follow, or its fault comes so many lines later, save that its
assignments before the first header are made in the section that is there already. The fault is
always that of the first line that cannot be read behind those before it. -/
theorem reading_is_compositional (origin : Option Path) (first second : String)
    (whole : Text.IsWhole first.toList) :
    let number := (Text.lines first.toList).length
    (∀ error, read origin first = .error error → read origin (first ++ second) = .error error) ∧
    (∀ before, read origin first = .ok before →
      Continues origin (first ++ second) second before number ∧
      ∀ earlier current keys rest assignments, before = earlier ++ [current] →
        second = keys ++ rest → Text.IsWhole keys.toList ∨ rest = "" →
        Assigns (Text.lines keys.toList) assignments →
        Continues origin (first ++ second) rest (earlier ++ [current.assign assignments])
          ((Text.lines keys.toList).length + number)) ∧
    ∀ text error, read origin text = .error error ↔
      ∃ before line behind done reason, Text.lines text.toList = before ++ line :: behind ∧
        readLines origin 1 [] before = .ok done ∧
        (Line.read line).bind (addLine origin done) = .error reason ∧
        error = .malformed ((origin.map Path.text).getD "<string>") (before.length + 1) reason := by
  intro number
  refine ⟨fun error failed => ?_, fun before read => ⟨?_, ?_⟩, fun text error => ?_⟩
  · obtain ⟨fault, alone, named⟩ := read_eq_error_iff.mp failed
    refine read_eq_error_iff.mpr ⟨fault, ?_, named⟩
    rw [readLines_text_append whole, alone]
    rfl
  · exact continues_append whole read
  · rintro earlier current keys rest assignments rfl rfl apart assigns
    exact continues_assigns whole read apart assigns
  · rw [read_eq_error_iff]
    constructor
    · rintro ⟨fault, failed, rfl⟩
      obtain ⟨before, line, behind, done, same, read, reason, place⟩ :=
        readLines_eq_error_iff.mp failed
      refine ⟨before, line, behind, done, fault.reason, same, read, reason, ?_⟩
      rw [place, Nat.add_comm]
    · rintro ⟨before, line, behind, done, reason, same, read, refused, rfl⟩
      exact ⟨⟨before.length + 1, reason⟩, readLines_eq_error_iff.mpr
        ⟨before, line, behind, done, same, read, refused, Nat.add_comm ..⟩, rfl⟩

/-- The value of `y` goes to the section of the first text, and the fault of a second text is found
two lines later. -/
theorem keys_go_to_the_section_before :
    let last : Section := (Section.new "A" none).set "x" "1"
    read none "[A]\nx = 1\n" = .ok [last] ∧
    read none ("[A]\nx = 1\n" ++ "y = 2\r\n; note\n[B]") =
      .ok [last.set "y" "2", .new "B" none] ∧
    read none "[B]\nz\n" = .error (.malformed "<string>" 2 .noAssignment) ∧
    read none ("[A]\nx = 1\n" ++ "[B]\nz\n") = .error (.malformed "<string>" 4 .noAssignment) := by
  intro last
  have whole : Text.IsWhole "[A]\nx = 1\n".toList := by rintro c ⟨⟩; rfl
  have first : read none "[A]\nx = 1\n" = .ok [last] := rfl
  have fault : read none "[B]\nz\n" = .error (.malformed "<string>" 2 .noAssignment) := rfl
  have assigns : Assigns (Text.lines "y = 2\r\n; note\n".toList) [("y", "2")] :=
    .assignment rfl (.blank rfl .nil)
  have keys : Text.IsWhole "y = 2\r\n; note\n".toList := by rintro c ⟨⟩; rfl
  have rest : read none "[B]" = .ok [.new "B" none] := rfl
  obtain ⟨-, follows, -⟩ := reading_is_compositional none "[A]\nx = 1\n" "[B]\nz\n" whole
  have later := (follows [last] first).1.failed _ _ _ fault (.inl (by decide))
  obtain ⟨-, follows, -⟩ :=
    reading_is_compositional none "[A]\nx = 1\n" "y = 2\r\n; note\n[B]" whole
  have assigned := (follows [last] first).2 [] last "y = 2\r\n; note\n" "[B]" [("y", "2")] rfl rfl
    (.inl keys) assigns
  exact ⟨first, assigned.ok _ rest, fault, later⟩

end Document

end DetectorSim.Config
