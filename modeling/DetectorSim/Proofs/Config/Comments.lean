import DetectorSim.Proofs.Config.Brackets
import DetectorSim.Proofs.Config.Concatenation

/-! Where comments begin. What stands between quotes to the reader of values does so to the reader
of lines, so a comment takes nothing from a value and a value is the same with a comment behind it.
-/

namespace DetectorSim.Config

namespace Value

/-- Where a scan stands behind a text. -/
def Scan.after (scan : Scan) (cs : List Char) : Scan :=
  cs.foldl (fun scan c => (scan.step c).2) scan

/-- What follows a text is outside the quoted parts of a value that begins with it. -/
def IsOutside (before : List Char) : Prop :=
  (Scan.between.after before).quote? = none

section Scanning

variable {scan : Scan} {gap : List Char}

theorem quote?_begin (c : Char) : (Scan.begin c).2.quote? = quoteAfter none c := by
  by_cases quotes : isQuote c = true
  · rw [begin_of_quote quotes, quoteAfter, if_pos quotes]
    rfl
  · rw [quoteAfter, if_neg quotes, Scan.begin, if_neg quotes]
    repeat' split
    all_goals rfl

/-- A character opens and closes the same quotes to a scan as to the count of quotes. -/
theorem quote?_step (scan : Scan) (c : Char) :
    (scan.step c).2.quote? = quoteAfter scan.quote? c := by
  cases scan with
  | between => exact quote?_begin c
  | bare seen =>
    rw [Scan.step]
    split
    · exact quote?_begin c
    · rename_i plain
      have unquoted : isQuote c = false := by simp_all [endsBare]
      simp [Scan.quote?, quoteAfter, unquoted]
  | quoted quote seen =>
    rw [Scan.step]
    split
    · rename_i closes
      simp [Scan.quote?, quoteAfter, closes]
    · rename_i inside
      simp [Scan.quote?, quoteAfter, inside]

theorem quote?_after (scan : Scan) (cs : List Char) :
    (scan.after cs).quote? = openQuote scan.quote? cs := by
  induction cs generalizing scan with
  | nil => rfl
  | cons c rest ih => exact (ih _).trans (congrArg (openQuote · rest) (quote?_step scan c))

theorem isOutside_iff (before : List Char) : IsOutside before ↔ openQuote none before = none := by
  rw [IsOutside, quote?_after]
  rfl

theorem tokens_append (scan : Scan) (cs : List Char) :
    ∃ read, ∀ ds, tokens scan (cs ++ ds) = read ++ tokens (scan.after cs) ds := by
  induction cs generalizing scan with
  | nil => exact ⟨[], fun _ => rfl⟩
  | cons c rest ih =>
    obtain ⟨read, same⟩ := ih (scan.step c).2
    refine ⟨(scan.step c).1 ++ read, fun ds => ?_⟩
    rw [List.cons_append, tokens, same, List.append_assoc]
    rfl

theorem tokens_gap_at_end (separates : IsGap gap) (outside : scan.quote? = none) :
    tokens scan gap = scan.finish := by
  have ended : tokens .between gap = [] := by
    have skipped := tokens_gap separates []
    rwa [List.append_nil] at skipped
  cases scan with
  | between => exact ended
  | bare seen =>
    have ends : Ends gap := by
      have kept : Ends (gap ++ []) := separates.ends_append nofun
      rwa [List.append_nil] at kept
    rw [tokens_end seen ends, ended]
    rfl
  | quoted quote seen => cases outside

theorem openQuote_of_parse {text : String} {value : Value} (read : parse text = .ok value) :
    openQuote none text.toList = none := by
  rcases parse_cases text with ⟨-, failed⟩ | ⟨-, quote, -, failed⟩ | ⟨-, closed, -⟩ | ⟨-, closed, -⟩
  · rw [failed] at read
    cases read
  · rw [failed] at read
    cases read
  · exact closed
  · exact closed

theorem parse_trim {text : String} {value : Value} (read : parse text = .ok value) :
    parse (String.ofList (Text.trim text.toList)) = .ok value := by
  obtain ⟨left, right, before, behind, same⟩ := Text.exists_trim text.toList
  have isGap {gap : List Char} (blank : Text.IsBlank gap) : IsGap gap :=
    fun c member => isSeparator_of_isSpace (blank c member)
  have outside : IsOutside (Text.trim text.toList) := by
    have closed := openQuote_of_parse read
    rw [same, openQuote_append, ← List.nil_append left, openQuote_append_separators (isGap before),
      openQuote_nil, openQuote_append_separators (isGap behind)] at closed
    exact (isOutside_iff _).mpr closed
  obtain ⟨front, split⟩ := tokens_append .between (Text.trim text.toList)
  have trimmed : tokens .between text.toList = tokens .between (Text.trim text.toList) :=
    calc tokens .between text.toList
        = tokens .between (Text.trim text.toList ++ right) :=
          (congrArg (tokens .between) same).trans (tokens_gap (isGap before) _)
      _ = front ++ (Scan.between.after (Text.trim text.toList)).finish := by
          rw [split, tokens_gap_at_end (isGap behind) outside]
      _ = tokens .between (Text.trim text.toList) := by
          rw [← List.append_nil (Text.trim text.toList), split, List.append_nil]
          rfl
  rw [← read, parse, parse, String.toList_ofList, trimmed]

end Scanning

end Value

/-- A hash behind this part of a text begins a comment unless one has begun already: to the reader
of values no quote is open. -/
def CommentAt (cs before : List Char) : Prop :=
  ∃ after, cs = before ++ '#' :: after ∧ Value.IsOutside before

section Cutting

variable {quote : Option Char} {cs before : List Char}

theorem exists_commentAt_iff : (∃ before, CommentAt cs before) ↔ '#' ∈ Value.unquoted none cs := by
  constructor
  · rintro ⟨before, after, rfl, outside⟩
    rw [Value.unquoted_append, (Value.isOutside_iff before).mp outside, List.mem_append]
    exact .inr List.mem_cons_self
  · intro member
    obtain ⟨before, after, same, outside, -⟩ := Value.exists_first_unquoted member
    exact ⟨before, after, same, (Value.isOutside_iff before).mpr outside⟩

theorem stripComment_prefix (outside : Value.openQuote quote before = none) (after : List Char) :
    stripComment quote (before ++ '#' :: after) <+: before := by
  by_cases member : '#' ∈ Value.unquoted quote before
  · obtain ⟨first, rest, rfl, closed, uncommented⟩ := Value.exists_first_unquoted member
    rw [List.append_assoc, List.cons_append, stripComment_append uncommented, closed,
      stripComment_hash, List.append_nil]
    exact List.prefix_append first _
  · refine ⟨[], ?_⟩
    rw [List.append_nil, stripComment_append member, outside, stripComment_hash, List.append_nil]

/-- A text is kept as a whole or cut at its first hash outside quotes. -/
theorem stripComment_cases (cs : List Char) :
    (CommentAt cs (stripComment none cs) ∧ '#' ∉ Value.unquoted none (stripComment none cs)) ∨
      '#' ∉ Value.unquoted none cs ∧ stripComment none cs = cs := by
  by_cases member : '#' ∈ Value.unquoted none cs
  · obtain ⟨before, after, rfl, outside, first⟩ := Value.exists_first_unquoted member
    have cut : stripComment none (before ++ '#' :: after) = before := by
      rw [stripComment_append first, outside, stripComment_hash, List.append_nil]
    rw [cut]
    exact .inl ⟨⟨after, rfl, (Value.isOutside_iff before).mpr outside⟩, first⟩
  · exact .inr ⟨member, stripComment_uncommented member⟩

theorem stripComment_quoted {front text : List Char} {mark : Char}
    (outside : Value.IsOutside front) (quotes : Value.isQuote mark = true) (free : mark ∉ text)
    (behind : List Char) :
    (∃ tail, front = stripComment none (front ++ mark :: (text ++ behind)) ++ '#' :: tail) ∨
      stripComment none (front ++ mark :: (text ++ behind)) =
        front ++ mark :: (text ++ stripComment (some mark) behind) := by
  have closed := (Value.isOutside_iff front).mp outside
  by_cases member : '#' ∈ Value.unquoted none front
  · obtain ⟨first, rest, rfl, ended, uncommented⟩ := Value.exists_first_unquoted member
    left
    refine ⟨rest, ?_⟩
    rw [List.append_assoc, List.cons_append, stripComment_append uncommented, ended,
      stripComment_hash, List.append_nil]
  · right
    obtain ⟨inside, hidden⟩ := Value.openQuote_between free
    have opened : stripComment none (mark :: (text ++ behind)) =
        mark :: stripComment (some mark) (text ++ behind) := by
      rw [stripComment, if_pos quotes]
    have kept : '#' ∉ Value.unquoted (some mark) text := by
      rw [hidden]
      exact List.not_mem_nil
    rw [stripComment_append member, closed, opened, stripComment_append kept, inside]

end Cutting

/-- A value without a comment of its own is stored with one behind it, up to white space around it.
-/
theorem Line.read_commented {key : String} {value keyed valued : List Char}
    (identifier : isIdentifier key.toList = true) (named : Spaced key.toList keyed)
    (spaced : Spaced value valued) (uncommented : '#' ∉ Value.unquoted none value)
    (closed : Value.openQuote none value = none) (comment : List Char) :
    Line.read (keyed ++ '=' :: (valued ++ '#' :: comment)) =
      .ok (.assignment key (String.ofList (Text.trim value))) := by
  have dropped : stripComment (Value.openQuote none valued) ('#' :: comment) = [] := by
    rw [spaced.closed closed, stripComment_hash]
  rw [Line.read_assignment identifier named, trim_stripComment_spaced uncommented spaced _ dropped]

/-- An assignment on a line of its own is made in the last section before it. -/
theorem Document.continues_assignment {origin : Option Path} {first rest key stored : String}
    {earlier : List Section} {current : Section} {line ending : List Char}
    (whole : Text.IsWhole first.toList)
    (read : Document.read origin first = .ok (earlier ++ [current])) (unbroken : '\n' ∉ line)
    (assigns : Line.read line = .ok (.assignment key stored))
    (ends : ending = ['\n'] ∨ ending = [] ∧ rest = "") :
    Document.Continues origin (first ++ (String.ofList (line ++ ending) ++ rest)) rest
      (earlier ++ [current.set key stored]) (1 + (Text.lines first.toList).length) := by
  have alone : Text.lines (String.ofList (line ++ ending)).toList = [line] := by
    rw [String.toList_ofList]
    rcases ends with rfl | ⟨rfl, -⟩
    · exact Text.lines_append unbroken []
    · rw [List.append_nil]
      refine Text.lines_unbroken unbroken ?_
      rintro rfl
      cases assigns
  have apart : Text.IsWhole (String.ofList (line ++ ending)).toList ∨ rest = "" := by
    rw [String.toList_ofList]
    refine ends.imp ?_ And.right
    rintro rfl c last
    rw [List.getLast?_concat] at last
    cases last
    rfl
  have made : Assigns (Text.lines (String.ofList (line ++ ending)).toList) [(key, stored)] := by
    rw [alone]
    exact .assignment assigns .nil
  have continues := Document.continues_assigns whole read apart made
  rwa [alone] at continues

/-- Comments begin where values have no quotes. A text is cut at the first hash that is outside the
quoted parts of the value, and nowhere if there is none, so cutting twice is cutting once and a
quoted scalar is kept as a whole, unless the cut lies before it. A value without such a hash is
stored as the same value with any comment behind it. -/
theorem comments_begin_outside_quotes (value : String) :
    let cs := value.toList
    let kept := stripComment none cs
    ((CommentAt cs kept ∧ ∀ before, CommentAt cs before → kept <+: before) ∨
      (¬∃ before, CommentAt cs before) ∧ kept = cs) ∧
    stripComment none kept = kept ∧
    (∀ front mark text behind, cs = front ++ mark :: (text ++ behind) → Value.IsOutside front →
      Value.isQuote mark = true → mark ∉ text → behind = [] ∨ behind.head? = some mark →
      (∃ tail, front = kept ++ '#' :: tail) ∨
        ∃ rest, kept = front ++ mark :: (text ++ rest) ∧ rest.head? = behind.head?) ∧
    ∀ parsed, Value.parse value = .ok parsed → (¬∃ before, CommentAt cs before) → '\n' ∉ cs →
      ∀ key keyed valued comment, isIdentifier key.toList = true → Spaced key.toList keyed →
        Spaced cs valued → '\n' ∉ comment →
        let line := keyed ++ '=' :: (valued ++ '#' :: comment)
        ∃ stored, Line.read line = .ok (.assignment key stored) ∧ Value.parse stored = .ok parsed ∧
          ∀ origin first rest ending earlier current, Text.IsWhole first.toList →
            Document.read origin first = .ok (earlier ++ [current]) →
            ending = ['\n'] ∨ ending = [] ∧ rest = "" →
            Document.Continues origin (first ++ (String.ofList (line ++ ending) ++ rest)) rest
              (earlier ++ [current.set key stored]) (1 + (Text.lines first.toList).length) := by
  intro cs kept
  refine ⟨?_, ?_, ?_, ?_⟩
  · rcases stripComment_cases cs with ⟨commented, -⟩ | ⟨uncommented, same⟩
    · left
      refine ⟨commented, ?_⟩
      rintro before ⟨after, same, outside⟩
      have cut := stripComment_prefix ((Value.isOutside_iff before).mp outside) after
      rwa [← same] at cut
    · exact .inr ⟨mt exists_commentAt_iff.mp uncommented, same⟩
  · rcases stripComment_cases cs with ⟨-, uncommented⟩ | ⟨uncommented, same⟩
    · exact stripComment_uncommented uncommented
    · exact (congrArg (stripComment none) same)
  · rintro front mark text behind same outside quotes free ends
    rcases stripComment_quoted outside quotes free behind with before | whole
    · left
      rwa [← same] at before
    · right
      refine ⟨stripComment (some mark) behind, ?_, ?_⟩
      · rw [← whole, ← same]
      · rcases ends with rfl | closes
        · rfl
        · obtain ⟨rest, rfl⟩ := List.head?_eq_some_iff.mp closes
          rfl
  · intro parsed read uncommented oneLine key keyed valued comment identifier named spaced unbroken
    have outside : '#' ∉ Value.unquoted none cs := mt exists_commentAt_iff.mpr uncommented
    have stores := Line.read_commented identifier named spaced outside
      (Value.openQuote_of_parse read) comment
    have still : '\n' ∉ keyed ++ '=' :: (valued ++ '#' :: comment) := by
      have before := named.not_mem (not_mem_of_isIdentifier identifier rfl) (.inr rfl)
      have behind := spaced.not_mem oneLine (.inr rfl)
      simp [before, behind, unbroken]
    refine ⟨_, stores, Value.parse_trim read, ?_⟩
    intro origin first rest ending earlier current whole begun ends
    exact Document.continues_assignment whole begun still stores ends

/-- A hash between quotes begins no comment, and a quote and a bracket in a comment open nothing. -/
theorem quotes_of_a_comment_open_nothing :
    Value.parse "'a#b', c" = .ok (.list [.scalar "a#b", .scalar "c"]) ∧
    ∃ stored, Value.parse stored = .ok (.list [.scalar "a#b", .scalar "c"]) ∧
      Document.read none "[A]\nk = 'a#b', c # it's [" =
        .ok [(Section.new "A" none).set "k" stored] := by
  have parsed : Value.parse "'a#b', c" = .ok (.list [.scalar "a#b", .scalar "c"]) := rfl
  have uncommented : ¬∃ before, CommentAt "'a#b', c".toList before :=
    mt exists_commentAt_iff.mp (by decide)
  have space : IsSpacing [' '] := List.forall_mem_singleton.mpr ⟨rfl, by decide⟩
  have keyed : Spaced "k".toList "k ".toList := ⟨[], [' '], isSpacing_nil, space, rfl⟩
  have valued : Spaced "'a#b', c".toList " 'a#b', c ".toList := ⟨[' '], [' '], space, space, rfl⟩
  have whole : Text.IsWhole "[A]\n".toList := by rintro c ⟨⟩; rfl
  have begun : Document.read none "[A]\n" = .ok ([] ++ [Section.new "A" none]) := rfl
  have empty : Document.read none "" = .ok [] := rfl
  obtain ⟨stored, -, same, continues⟩ :=
    (comments_begin_outside_quotes "'a#b', c").2.2.2 _ parsed uncommented (by decide) "k"
      "k ".toList " 'a#b', c ".toList " it's [".toList rfl keyed valued (by decide)
  exact ⟨parsed, stored, same,
    (continues none "[A]\n" "" [] [] _ whole begun (.inr ⟨rfl, rfl⟩)).ok [] empty⟩

end DetectorSim.Config
