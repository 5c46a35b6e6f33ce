import DetectorSim.Config.Value

/-! Which parts of a text are between quotes. A quote opens outside of quotes and closes a part that
the same quote opened; nothing else between quotes counts. -/

namespace DetectorSim.Config.Value

/-- The quote that is open behind one more character. -/
def quoteAfter : (quote : Option Char) → Char → Option Char
  | none, c => if isQuote c then some c else none
  | some quote, c => if c = quote then none else some quote

/-- The quote that is open behind a text, with one or none open before it. -/
def openQuote (quote : Option Char) (cs : List Char) : Option Char :=
  cs.foldl quoteAfter quote

/-- The characters of a text that are outside quotes, without the quotes. -/
def unquoted : (quote : Option Char) → List Char → List Char
  | _, [] => []
  | quote, c :: rest =>
    if quote.isNone && !isQuote c then c :: unquoted (quoteAfter quote c) rest
    else unquoted (quoteAfter quote c) rest

@[simp] theorem openQuote_nil (quote : Option Char) : openQuote quote [] = quote := rfl

@[simp] theorem openQuote_cons (quote : Option Char) (c : Char) (cs : List Char) :
    openQuote quote (c :: cs) = openQuote (quoteAfter quote c) cs := rfl

theorem openQuote_append (quote : Option Char) (cs ds : List Char) :
    openQuote quote (cs ++ ds) = openQuote (openQuote quote cs) ds :=
  List.foldl_append

theorem unquoted_append (quote : Option Char) (cs ds : List Char) :
    unquoted quote (cs ++ ds) = unquoted quote cs ++ unquoted (openQuote quote cs) ds := by
  induction cs generalizing quote with
  | nil => rfl
  | cons c rest ih =>
    simp only [List.cons_append, unquoted, openQuote_cons, ih]
    split <;> rfl

theorem mem_of_mem_unquoted {quote : Option Char} {c : Char} {cs : List Char}
    (member : c ∈ unquoted quote cs) : c ∈ cs := by
  induction cs generalizing quote with
  | nil => exact member
  | cons d rest ih =>
    rw [unquoted] at member
    split at member
    · rcases List.mem_cons.mp member with rfl | behind
      · exact List.mem_cons_self ..
      · exact List.mem_cons_of_mem _ (ih behind)
    · exact List.mem_cons_of_mem _ (ih member)

theorem isQuote_of_isSeparator {c : Char} (separates : isSeparator c = true) :
    isQuote c = false := by
  refine Bool.eq_false_iff.mpr fun quotes => ?_
  rw [isQuote, Bool.or_eq_true, beq_iff_eq, beq_iff_eq] at quotes
  rcases quotes with rfl | rfl <;> cases separates

theorem isSeparator_of_isSpace {c : Char} (white : Text.isSpace c = true) : isSeparator c = true :=
  Bool.or_eq_true_iff.mpr (.inl white)

theorem openQuote_of_plain {cs : List Char} (plain : ∀ c ∈ cs, isQuote c = false) :
    openQuote none cs = none := by
  induction cs with
  | nil => rfl
  | cons c rest ih =>
    obtain ⟨first, others⟩ := List.forall_mem_cons.mp plain
    rw [openQuote_cons, quoteAfter, first]
    exact ih others

/-- Up to the quote that closes it, a text between quotes is in them as a whole. -/
theorem openQuote_between {quote : Char} {cs : List Char} (free : quote ∉ cs) :
    openQuote (some quote) cs = some quote ∧ unquoted (some quote) cs = [] := by
  induction cs with
  | nil => exact ⟨rfl, rfl⟩
  | cons c rest ih =>
    rw [List.mem_cons, not_or] at free
    obtain ⟨other, free⟩ := free
    have still : quoteAfter (some quote) c = some quote := if_neg (Ne.symm other)
    rw [openQuote_cons, unquoted, still]
    exact ih free

theorem isQuote_of_openQuote {quote : Option Char} {cs : List Char}
    (quotes : ∀ q, quote = some q → isQuote q = true) :
    ∀ q, openQuote quote cs = some q → isQuote q = true := by
  induction cs generalizing quote with
  | nil => exact quotes
  | cons c rest ih =>
    apply ih
    intro q opened
    cases quote with
    | none =>
      rw [quoteAfter] at opened
      split at opened
      · rename_i isQuote
        cases opened
        exact isQuote
      · cases opened
    | some quote =>
      rw [quoteAfter] at opened
      split at opened
      · cases opened
      · exact quotes q opened

theorem openQuote_append_separators {cs gap : List Char}
    (separates : ∀ c ∈ gap, isSeparator c = true) :
    openQuote none (cs ++ gap) = openQuote none cs := by
  rw [openQuote_append]
  cases opened : openQuote none cs with
  | none => exact openQuote_of_plain fun c member => isQuote_of_isSeparator (separates c member)
  | some q =>
    have quotes := isQuote_of_openQuote (fun _ same => by cases same) q opened
    refine (openQuote_between fun member => ?_).1
    rw [isQuote_of_isSeparator (separates q member)] at quotes
    cases quotes

/-- A character that stands outside quotes has a first place there. -/
theorem exists_first_unquoted {quote : Option Char} {c : Char} {cs : List Char}
    (member : c ∈ unquoted quote cs) : ∃ before after, cs = before ++ c :: after ∧
      openQuote quote before = none ∧ c ∉ unquoted quote before := by
  induction cs generalizing quote with
  | nil => cases member
  | cons d rest ih =>
    by_cases here : d = c ∧ quote = none
    · obtain ⟨rfl, rfl⟩ := here
      exact ⟨[], rest, rfl, rfl, List.not_mem_nil⟩
    · have elsewhere {more : List Char} : c ∈ unquoted quote (d :: more) ↔
          c ∈ unquoted (quoteAfter quote d) more := by
        rw [unquoted]
        split
        · rename_i outside
          have other : c ≠ d := by
            rintro rfl
            rw [Bool.and_eq_true, Option.isNone_iff_eq_none] at outside
            exact here ⟨rfl, outside.1⟩
          exact List.mem_cons.trans (or_iff_right other)
        · exact Iff.rfl
      obtain ⟨before, after, rfl, outside, first⟩ := ih (elsewhere.mp member)
      exact ⟨d :: before, after, rfl, outside, fun found => first (elsewhere.mp found)⟩

end DetectorSim.Config.Value
