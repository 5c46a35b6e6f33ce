import DetectorSim.Proofs.Config.Layout
import DetectorSim.Proofs.Config.Quotes

/-! Which texts are values: those whose brackets outside quotes match and whose quotes are closed.
Brackets and quotes are counted from left to right, apart from how items are read. -/

namespace DetectorSim.Config.Value

/-- How deep a text goes: by how many it has more opening than closing brackets outside quotes. -/
def depth (quote : Option Char) (cs : List Char) : Int :=
  (unquoted quote cs).count '[' - (unquoted quote cs).count ']'

/-- At some place outside quotes a text closes a list when none is open; `level` of them are open
before it. -/
def Overcloses (quote : Option Char) (level : Int) (cs : List Char) : Prop :=
  ∃ before after, cs = before ++ ']' :: after ∧ openQuote quote before = none ∧
    level + depth quote before = 0

/-- The quote that a scan stands behind. -/
def Scan.quote? : Scan → Option Char
  | .quoted quote _ => some quote
  | _ => none

section Depth

variable {quote : Option Char} {level : Int} {c : Char} {cs : List Char}

@[simp] theorem depth_nil : depth quote [] = 0 := rfl

theorem depth_append (quote : Option Char) (cs ds : List Char) :
    depth quote (cs ++ ds) = depth quote cs + depth (openQuote quote cs) ds := by
  simp only [depth, unquoted_append, List.count_append]
  omega

theorem depth_cons (quote : Option Char) (c : Char) (cs : List Char) :
    depth quote (c :: cs) = depth quote [c] + depth (quoteAfter quote c) cs :=
  depth_append quote [c] cs

theorem depth_quoted (quote c : Char) : depth (some quote) [c] = 0 := rfl

theorem depth_opening : depth none ['['] = 1 := rfl

theorem depth_closing : depth none [']'] = -1 := rfl

theorem depth_other (opening : c ≠ '[') (closing : c ≠ ']') : depth quote [c] = 0 := by
  simp only [depth, unquoted]
  split <;> simp [opening, closing]

theorem overcloses_nil : ¬Overcloses quote level [] := by
  rintro ⟨before, after, same, _⟩
  simp at same

theorem overcloses_cons : Overcloses quote level (c :: cs) ↔
    (c = ']' ∧ quote = none ∧ level = 0) ∨
      Overcloses (quoteAfter quote c) (level + depth quote [c]) cs := by
  constructor
  · rintro ⟨before, after, same, outside, zero⟩
    cases before with
    | nil =>
      obtain ⟨rfl, rfl⟩ := List.cons.inj same
      exact .inl ⟨rfl, outside, by simpa using zero⟩
    | cons d earlier =>
      obtain ⟨rfl, rfl⟩ := List.cons.inj same
      rw [depth_cons] at zero
      exact .inr ⟨earlier, after, rfl, outside, by omega⟩
  · rintro (⟨rfl, rfl, rfl⟩ | ⟨before, after, rfl, outside, zero⟩)
    · exact ⟨[], cs, rfl, rfl, rfl⟩
    · refine ⟨c :: before, after, rfl, outside, ?_⟩
      rw [depth_cons]
      omega

theorem level_of_within (start : 0 ≤ level) (within : ¬(c = ']' ∧ quote = none ∧ level = 0)) :
    0 ≤ level + depth quote [c] := by
  cases quote with
  | some quote =>
    rw [depth_quoted]
    omega
  | none =>
    by_cases closing : c = ']'
    · subst closing
      have above : level ≠ 0 := fun zero => within ⟨rfl, rfl, zero⟩
      rw [depth_closing]
      omega
    · by_cases opening : c = '['
      · subst opening
        rw [depth_opening]
        omega
      · rw [depth_other opening closing]
        omega

/-- A text closes a list when none is open just if its depth drops below zero. -/
theorem overcloses_iff (start : 0 ≤ level) : Overcloses quote level cs ↔
    ∃ before, before <+: cs ∧ level + depth quote before < 0 := by
  induction cs generalizing quote level with
  | nil =>
    refine iff_of_false overcloses_nil ?_
    rintro ⟨before, initial, below⟩
    rw [List.prefix_nil.mp initial, depth_nil] at below
    omega
  | cons c rest ih =>
    have shift : (∃ before, before <+: c :: rest ∧ level + depth quote before < 0) ↔
        ∃ before, before <+: rest ∧
          level + depth quote [c] + depth (quoteAfter quote c) before < 0 := by
      constructor
      · rintro ⟨before, initial, below⟩
        cases before with
        | nil =>
          rw [depth_nil] at below
          omega
        | cons d earlier =>
          obtain ⟨rfl, inner⟩ := List.cons_prefix_cons.mp initial
          rw [depth_cons] at below
          exact ⟨earlier, inner, by omega⟩
      · rintro ⟨before, initial, below⟩
        refine ⟨c :: before, List.cons_prefix_cons.mpr ⟨rfl, initial⟩, ?_⟩
        rw [depth_cons]
        omega
    rw [overcloses_cons, shift]
    by_cases closes : c = ']' ∧ quote = none ∧ level = 0
    · refine iff_of_true (.inl closes) ⟨[], List.nil_prefix, ?_⟩
      obtain ⟨rfl, rfl, rfl⟩ := closes
      rw [depth_closing, depth_nil]
      omega
    · rw [ih (level_of_within start closes)]
      exact or_iff_right closes

end Depth

section Gathering

variable {c : Char} {outer : List (List Value)}

theorem begin_of_quote (quotes : isQuote c = true) : Scan.begin c = ([], .quoted c []) := by
  simp only [isQuote, Bool.or_eq_true, beq_iff_eq] at quotes
  rcases quotes with rfl | rfl <;> rfl

theorem begin_of_separator (separates : isSeparator c = true) : Scan.begin c = ([], .between) := by
  rw [Scan.begin, if_pos separates]

theorem gather_begin (within : ¬(c = ']' ∧ outer = [])) (items : List Value) (cs : List Char) :
    ∃ scan outer' items',
      gather ((Scan.begin c).1 ++ tokens (Scan.begin c).2 cs) outer items =
        gather (tokens scan cs) outer' items' ∧
      scan.quote? = quoteAfter none c ∧ (outer'.length : Int) = outer.length + depth none [c] := by
  by_cases opening : c = '['
  · subst opening
    exact ⟨.between, items :: outer, [], rfl, rfl, by simp [depth_opening]⟩
  by_cases closing : c = ']'
  · subst closing
    cases outer with
    | nil => exact absurd ⟨rfl, rfl⟩ within
    | cons before outer =>
      refine ⟨.between, outer, .list items.reverse :: before, rfl, rfl, ?_⟩
      rw [depth_closing, List.length_cons]
      omega
  have level : (outer.length : Int) = outer.length + depth none [c] := by
    rw [depth_other opening closing, Int.add_zero]
  by_cases quotes : isQuote c = true
  · rw [begin_of_quote quotes]
    exact ⟨.quoted c [], outer, items, rfl, by simp [Scan.quote?, quoteAfter, quotes], level⟩
  have unquoted : quoteAfter none c = none := by simp [quoteAfter, quotes]
  by_cases separates : isSeparator c = true
  · rw [begin_of_separator separates]
    exact ⟨.between, outer, items, rfl, unquoted.symm, level⟩
  · have plain : endsBare c = false := by simp [endsBare, separates, opening, closing, quotes]
    rw [begin_of_plain plain]
    exact ⟨.bare [c], outer, items, rfl, unquoted.symm, level⟩

/-- Every character does the same to a reading as to the count of quotes and brackets, unless it
closes a list when none is open. -/
theorem gather_char (scan : Scan) (within : ¬(c = ']' ∧ scan.quote? = none ∧ outer = []))
    (items : List Value) (cs : List Char) :
    ∃ scan' outer' items',
      gather (tokens scan (c :: cs)) outer items = gather (tokens scan' cs) outer' items' ∧
      scan'.quote? = quoteAfter scan.quote? c ∧
      (outer'.length : Int) = outer.length + depth scan.quote? [c] := by
  cases scan with
  | between => exact gather_begin (fun ⟨closes, empty⟩ => within ⟨closes, rfl, empty⟩) items cs
  | bare seen =>
    by_cases ends : endsBare c = true
    · simp only [tokens, Scan.step, ends, if_true, List.cons_append, Token.ofSeen, gather]
      exact gather_begin (fun ⟨closes, empty⟩ => within ⟨closes, rfl, empty⟩) _ cs
    · refine ⟨.bare (c :: seen), outer, items, by simp [tokens, Scan.step, ends], ?_, ?_⟩
      · simp_all [Scan.quote?, quoteAfter, endsBare]
      · simp only [endsBare, Bool.or_eq_true, beq_iff_eq, not_or] at ends
        rw [depth_other ends.1.1.2 ends.1.2, Int.add_zero]
  | quoted quote seen =>
    rw [show (Scan.quoted quote seen).quote? = some quote from rfl, depth_quoted, Int.add_zero]
    by_cases closes : c = quote
    · refine ⟨.between, outer, .scalar (String.ofList seen.reverse) :: items, ?_, ?_, rfl⟩
      · simp [tokens, Scan.step, closes, Token.ofSeen, gather]
      · simp [quoteAfter, closes, Scan.quote?]
    · refine ⟨.quoted quote (c :: seen), outer, items, ?_, ?_, rfl⟩
      · simp [tokens, Scan.step, closes]
      · simp [quoteAfter, closes, Scan.quote?]

theorem gather_overclosing {scan : Scan} (between : scan.quote? = none) (items : List Value)
    (cs : List Char) :
    gather (tokens scan (']' :: cs)) [] items = .error .unmatchedBracket := by
  cases scan with
  | between => rfl
  | bare seen => rfl
  | quoted quote seen => cases between

/-- Reading a text either meets a bracket that closes no list, or comes to its end with the quote
and as many lists open as the count says. -/
theorem gather_text (cs : List Char) (scan : Scan) (outer : List (List Value))
    (items : List Value) :
    (Overcloses scan.quote? outer.length cs ∧
      gather (tokens scan cs) outer items = .error .unmatchedBracket) ∨
    (¬Overcloses scan.quote? outer.length cs ∧
      ∃ (scan' : Scan) (outer' : List (List Value)) (items' : List Value),
        gather (tokens scan cs) outer items = gather scan'.finish outer' items' ∧
        scan'.quote? = openQuote scan.quote? cs ∧
        (outer'.length : Int) = outer.length + depth scan.quote? cs) := by
  induction cs generalizing scan outer items with
  | nil => exact .inr ⟨overcloses_nil, scan, outer, items, rfl, rfl, by simp⟩
  | cons c rest ih =>
    rw [overcloses_cons]
    by_cases closes : c = ']' ∧ scan.quote? = none ∧ outer = []
    · obtain ⟨rfl, between, rfl⟩ := closes
      exact .inl ⟨.inl ⟨rfl, between, rfl⟩, gather_overclosing between items rest⟩
    · obtain ⟨scan', outer', items', same, quote, level⟩ := gather_char scan closes items rest
      have within : ¬(c = ']' ∧ scan.quote? = none ∧ (outer.length : Int) = 0) := by
        simpa using closes
      rw [or_iff_right within, same, ← quote, ← level, openQuote_cons, ← quote, depth_cons,
        ← quote, ← Int.add_assoc, ← level]
      exact ih scan' outer' items'

end Gathering

section Ends

variable {scan : Scan} {outer : List (List Value)}

theorem gather_missing {quote : Char} (behind : scan.quote? = some quote) (items : List Value) :
    gather scan.finish outer items = .error (.missingQuote quote) := by
  cases scan with
  | between => cases behind
  | bare seen => cases behind
  | quoted other seen =>
    cases behind
    rfl

theorem gather_unterminated (between : scan.quote? = none) (nested : outer ≠ [])
    (items : List Value) : gather scan.finish outer items = .error .unterminatedList := by
  cases outer with
  | nil => exact absurd rfl nested
  | cons before outer =>
    cases scan with
    | between => rfl
    | bare seen => rfl
    | quoted quote seen => cases between

theorem gather_complete (between : scan.quote? = none) (items : List Value) :
    ∃ all, gather scan.finish [] items = .ok all := by
  cases scan with
  | between => exact ⟨_, rfl⟩
  | bare seen => exact ⟨_, rfl⟩
  | quoted quote seen => cases between

/-- The four ways in which a reading ends. -/
theorem parse_cases (text : String) :
    (Overcloses none 0 text.toList ∧ parse text = .error .unmatchedBracket) ∨
    (¬Overcloses none 0 text.toList ∧ ∃ quote, openQuote none text.toList = some quote ∧
      parse text = .error (.missingQuote quote)) ∨
    (¬Overcloses none 0 text.toList ∧ openQuote none text.toList = none ∧
      depth none text.toList ≠ 0 ∧ parse text = .error .unterminatedList) ∨
    (¬Overcloses none 0 text.toList ∧ openQuote none text.toList = none ∧
      depth none text.toList = 0 ∧ ∃ value, parse text = .ok value) := by
  rcases gather_text text.toList .between [] [] with
    ⟨closes, failed⟩ | ⟨within, scan, outer, items, same, quote, level⟩
  · exact .inl ⟨closes, by rw [parse, failed]; rfl⟩
  · right
    have quote : scan.quote? = openQuote none text.toList := quote
    have level : (outer.length : Int) = depth none text.toList := level.trans (Int.zero_add _)
    cases opened : openQuote none text.toList with
    | some last =>
      have failed : gather scan.finish outer items = _ := gather_missing (quote.trans opened) items
      exact .inl ⟨within, last, rfl, by rw [parse, same, failed]; rfl⟩
    | none =>
      right
      by_cases nested : outer = []
      · subst nested
        obtain ⟨all, read⟩ := gather_complete (quote.trans opened) items
        exact .inr ⟨within, rfl, level.symm, ofItems all, by rw [parse, same, read]; rfl⟩
      · have failed := gather_unterminated (quote.trans opened) nested items
        have deep : depth none text.toList ≠ 0 := by
          rw [← level]
          simpa using nested
        exact .inl ⟨within, rfl, deep, by rw [parse, same, failed]; rfl⟩

end Ends

section Progress

/-- A token is read from the front of a text: behind a run of separators, a bracket, a text between
quotes, the text behind a quote that is never closed, or a bare scalar, which goes on until
something ends it. -/
inductive Reads : Token → (text behind : List Char) → Prop where
  | opening {gap behind : List Char} (separates : IsGap gap) :
      Reads .opening (gap ++ '[' :: behind) behind
  | closing {gap behind : List Char} (separates : IsGap gap) :
      Reads .closing (gap ++ ']' :: behind) behind
  | quoted {gap behind : List Char} {quote : Char} {text : String} (separates : IsGap gap)
      (quotes : isQuote quote = true) (free : quote ∉ text.toList) :
      Reads (.scalar text) (gap ++ quote :: (text.toList ++ quote :: behind)) behind
  | unclosed {gap text : List Char} {quote : Char} (separates : IsGap gap)
      (quotes : isQuote quote = true) (free : quote ∉ text) :
      Reads (.unclosed quote) (gap ++ quote :: text) []
  | bare {gap behind : List Char} {text : String} (separates : IsGap gap)
      (nonempty : text.toList ≠ []) (plain : ∀ c ∈ text.toList, endsBare c = false)
      (ends : Ends behind) : Reads (.scalar text) (gap ++ (text.toList ++ behind)) behind

theorem Reads.shorter {token : Token} {text behind : List Char} (reads : Reads token text behind) :
    behind.length < text.length := by
  cases reads with
  | opening | closing | quoted | unclosed =>
    simp only [List.length_append, List.length_cons, List.length_nil]
    omega
  | bare separates nonempty plain ends =>
    have positive := List.length_pos_iff.mpr nonempty
    simp only [List.length_append]
    omega

theorem tokens_unclosed {quote : Char} {text : List Char} (free : quote ∉ text)
    (seen : List Char) : tokens (.quoted quote seen) text = [.unclosed quote] := by
  induction text generalizing seen with
  | nil => rfl
  | cons c rest ih =>
    rw [List.mem_cons, not_or] at free
    obtain ⟨other, free⟩ := free
    have kept : Scan.step (.quoted quote seen) c = ([], .quoted quote (c :: seen)) := by
      simp [Scan.step, Ne.symm other]
    rw [tokens, kept]
    exact ih free (c :: seen)

theorem Reads.tokens_eq {token : Token} {text behind : List Char}
    (reads : Reads token text behind) : tokens .between text = token :: tokens .between behind := by
  cases reads with
  | opening separates => rw [tokens_gap separates, tokens_opening]
  | closing separates => rw [tokens_gap separates, tokens_closing]
  | quoted separates quotes free => rw [tokens_gap separates, tokens_quoted quotes free]
  | unclosed separates quotes free =>
    have opened : Scan.step .between _ = _ := begin_of_quote quotes
    rw [tokens_gap separates]
    simp only [tokens, opened, List.nil_append, tokens_unclosed free, Scan.finish]
  | bare separates nonempty plain ends =>
    rw [tokens_gap separates, tokens_plain nonempty plain, tokens_end _ ends, Token.ofSeen,
      List.reverse_reverse, String.ofList_toList]

theorem exists_reads_quote {gap : List Char} {quote : Char} (separates : IsGap gap)
    (quotes : isQuote quote = true) (rest : List Char) :
    ∃ token behind, Reads token (gap ++ quote :: rest) behind := by
  by_cases closed : quote ∈ rest
  · obtain ⟨text, behind, rfl, free⟩ := List.eq_append_cons_of_mem closed
    have reads : Reads (.scalar (String.ofList text))
        (gap ++ quote :: ((String.ofList text).toList ++ quote :: behind)) behind :=
      .quoted separates quotes (by rwa [String.toList_ofList])
    rw [String.toList_ofList] at reads
    exact ⟨_, _, reads⟩
  · exact ⟨_, _, .unclosed separates quotes closed⟩

/-- A bare scalar is all that comes before its end, and holds at least its first character. -/
theorem exists_reads_bare {gap : List Char} {c : Char} (separates : IsGap gap)
    (plain : endsBare c = false) (rest : List Char) :
    ∃ token behind, Reads token (gap ++ c :: rest) behind := by
  let text := (c :: rest).takeWhile (!endsBare ·)
  let behind := (c :: rest).dropWhile (!endsBare ·)
  have split : text ++ behind = c :: rest := List.takeWhile_append_dropWhile
  have nonempty : text ≠ [] := by simp [text, plain]
  have unended : ∀ d ∈ text, endsBare d = false := by
    intro d member
    simpa using List.all_eq_true.mp List.all_takeWhile d member
  have ends : Ends behind := by
    intro d first
    have last := List.head?_dropWhile_not (!endsBare ·) (c :: rest)
    rw [first] at last
    simpa using last
  have reads : Reads (.scalar (String.ofList text))
      (gap ++ ((String.ofList text).toList ++ behind)) behind :=
    .bare separates (by rwa [String.toList_ofList]) (by rwa [String.toList_ofList]) ends
  rw [String.toList_ofList, split] at reads
  exact ⟨_, _, reads⟩

/-- Reading goes forward: a text that is more than separators begins with a token. -/
theorem exists_reads (cs : List Char) : IsGap cs ∨ ∃ token behind, Reads token cs behind := by
  have front : cs = cs.takeWhile isSeparator ++ cs.dropWhile isSeparator :=
    List.takeWhile_append_dropWhile.symm
  have separates : IsGap (cs.takeWhile isSeparator) :=
    fun c member => List.all_eq_true.mp List.all_takeWhile c member
  generalize cs.takeWhile isSeparator = gap at front separates
  cases kept : cs.dropWhile isSeparator with
  | nil =>
    rw [kept, List.append_nil] at front
    exact .inl (front ▸ separates)
  | cons c rest =>
    right
    have unseparating : isSeparator c = false := by
      have first := List.head?_dropWhile_not isSeparator cs
      rw [kept] at first
      simpa using first
    rw [kept] at front
    subst front
    by_cases opening : c = '['
    · subst opening
      exact ⟨_, _, .opening separates⟩
    by_cases closing : c = ']'
    · subst closing
      exact ⟨_, _, .closing separates⟩
    by_cases quotes : isQuote c = true
    · exact exists_reads_quote separates quotes rest
    · have plain : endsBare c = false := by simp [endsBare, unseparating, opening, closing, quotes]
      exact exists_reads_bare separates plain rest

end Progress

/-- Exactly the texts are values whose brackets match and whose quotes are closed: outside quotes
the depth never drops below zero, and at the end no quote is open and the depth is zero. For any
other text the fault is the earliest one: a bracket that closes no list, or else the quote that is
open at the end, or else a list that is. Reading always comes to an end, since every token is taken
from a part of the text that is not empty. -/
theorem parse_ok_iff_bracketed (text : String) :
    let cs := text.toList
    ((∃ value, parse text = .ok value) ↔
      (∀ before, before <+: cs → 0 ≤ depth none before) ∧
        openQuote none cs = none ∧ depth none cs = 0) ∧
    (parse text = .error .unmatchedBracket ↔ Overcloses none 0 cs) ∧
    (∀ quote, parse text = .error (.missingQuote quote) ↔
      ¬Overcloses none 0 cs ∧ openQuote none cs = some quote) ∧
    (parse text = .error .unterminatedList ↔
      ¬Overcloses none 0 cs ∧ openQuote none cs = none ∧ depth none cs ≠ 0) ∧
    (ValueFault.unmatchedBracket.message = "unmatched ']'" ∧
      (∀ quote, (ValueFault.missingQuote quote).message =
        "missing closing " ++ String.ofList [quote]) ∧
      ValueFault.unterminatedList.message = "unterminated '['") ∧
    ∀ rest, (IsGap rest ∧ tokens .between rest = []) ∨
      ∃ token behind, Reads token rest behind ∧ behind.length < rest.length ∧
        tokens .between rest = token :: tokens .between behind := by
  intro cs
  have within : ¬Overcloses none 0 cs ↔ ∀ before, before <+: cs → 0 ≤ depth none before := by
    rw [overcloses_iff (Int.le_refl 0)]
    simp
  have progress (rest : List Char) : (IsGap rest ∧ tokens .between rest = []) ∨
      ∃ token behind, Reads token rest behind ∧ behind.length < rest.length ∧
        tokens .between rest = token :: tokens .between behind := by
    rcases exists_reads rest with gap | ⟨token, behind, reads⟩
    · have ended := tokens_gap gap []
      rw [List.append_nil] at ended
      exact .inl ⟨gap, ended⟩
    · exact .inr ⟨token, behind, reads, reads.shorter, reads.tokens_eq⟩
  rw [← within]
  refine ⟨?_, ?_, ?_, ?_, ⟨rfl, fun _ => rfl, rfl⟩, progress⟩
  all_goals
    rcases parse_cases text with ⟨closes, read⟩ | ⟨below, quote, opened, read⟩ |
      ⟨below, closed, deep, read⟩ | ⟨below, closed, level, value, read⟩
  all_goals simp_all [cs]

end DetectorSim.Config.Value
