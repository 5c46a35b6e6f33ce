import DetectorSim.Text.Space

/-! What trimming, splitting and cutting into lines make of texts that are put together. -/

namespace DetectorSim.Text

/-- Nothing but white space. -/
def IsBlank (gap : List Char) : Prop :=
  ∀ c ∈ gap, isSpace c = true

/-- Nothing behind the last line feed. -/
def IsWhole (cs : List Char) : Prop :=
  ∀ c, cs.getLast? = some c → c = '\n'

/-- No white space at either end. -/
structure IsTrimmed (cs : List Char) : Prop where
  first : ∀ c, cs.head? = some c → isSpace c = false
  last : ∀ c, cs.getLast? = some c → isSpace c = false

theorem isBlank_nil : IsBlank [] := nofun

theorem IsTrimmed.trim_eq {cs : List Char} (trimmed : IsTrimmed cs) : trim cs = cs :=
  trimBy_eq_self isSpace cs trimmed.first trimmed.last

theorem isTrimmed_of_forall {cs : List Char} (solid : ∀ c ∈ cs, isSpace c = false) :
    IsTrimmed cs where
  first c head := solid c (List.mem_of_head? head)
  last c end_ := solid c (List.mem_of_getLast? end_)

theorem isSpace_of_isAlphanum {c : Char} (ascii : c.isAlphanum = true) : isSpace c = false := by
  have within : ∀ first last : Nat, 0x20 < first → last < 0x85 → first ≤ c.toNat →
      c.toNat ≤ last → isSpace c = false := by
    intro first last low high above below
    simp only [isSpace, Bool.or_eq_false_iff, Bool.and_eq_false_iff, decide_eq_false_iff_not,
      beq_eq_false_iff_ne]
    omega
  have cased : (c.isUpper || c.isLower || c.isDigit) = true := ascii
  rcases Bool.or_eq_true_iff.mp cased with letter | digit
  · rcases Bool.or_eq_true_iff.mp letter with upper | lower
    · obtain ⟨above, below⟩ := of_decide_eq_true upper
      exact within 0x41 0x5a (by decide) (by decide) above below
    · obtain ⟨above, below⟩ := Bool.and_eq_true_iff.mp lower
      exact within 0x61 0x7a (by decide) (by decide) (of_decide_eq_true above)
        (of_decide_eq_true below)
  · obtain ⟨above, below⟩ := Bool.and_eq_true_iff.mp digit
    exact within 0x30 0x39 (by decide) (by decide) (of_decide_eq_true above)
      (of_decide_eq_true below)

section Trimming

variable {gap : List Char} (blank : IsBlank gap) (cs : List Char)

include blank

theorem trim_blank_append : trim (gap ++ cs) = trim cs := by
  rw [trim, trim, trimBy, trimBy, List.dropWhile_append_of_pos blank]

theorem dropWhile_append_blank :
    ((cs ++ gap).dropWhile isSpace).reverse.dropWhile isSpace =
      (cs.dropWhile isSpace).reverse.dropWhile isSpace := by
  have behind : ∀ c ∈ gap.reverse, isSpace c = true :=
    fun c member => blank c (List.mem_reverse.mp member)
  rw [List.dropWhile_append]
  split
  · rename_i empty
    have all : (gap ++ []).dropWhile isSpace = [].dropWhile isSpace :=
      List.dropWhile_append_of_pos blank
    rw [List.append_nil] at all
    rw [List.isEmpty_iff.mp empty, all, List.dropWhile_nil]
  · rw [List.reverse_append, List.dropWhile_append_of_pos behind]

theorem trim_append_blank : trim (cs ++ gap) = trim cs := by
  rw [trim, trim, trimBy, trimBy, dropWhile_append_blank blank]

theorem trim_blank : trim gap = [] := by
  have none := trim_blank_append blank []
  rwa [List.append_nil] at none

end Trimming

/-- White space at the end can be told from what it follows. -/
theorem exists_trimmed_end (cs : List Char) : ∃ kept gap, cs = kept ++ gap ∧ IsBlank gap ∧
    ∀ c, kept.getLast? = some c → isSpace c = false := by
  refine ⟨(cs.reverse.dropWhile isSpace).reverse, (cs.reverse.takeWhile isSpace).reverse,
    ?_, ?_, ?_⟩
  · rw [← List.reverse_append, List.takeWhile_append_dropWhile, List.reverse_reverse]
  · intro c member
    exact List.all_eq_true.mp List.all_takeWhile c (List.mem_reverse.mp member)
  · intro c last
    rw [List.getLast?_reverse] at last
    have first := List.head?_dropWhile_not isSpace cs.reverse
    rw [last] at first
    simpa using first

/-- Nothing but white space is trimmed. -/
theorem exists_trim (cs : List Char) :
    ∃ left right, IsBlank left ∧ IsBlank right ∧ cs = left ++ (trim cs ++ right) := by
  obtain ⟨kept, gap, same, blank, last⟩ := exists_trimmed_end (cs.dropWhile isSpace)
  have left : IsBlank (cs.takeWhile isSpace) :=
    fun c member => List.all_eq_true.mp List.all_takeWhile c member
  have first : ∀ c, kept.head? = some c → isSpace c = false := by
    intro c head
    have start := List.head?_dropWhile_not isSpace cs
    rw [same, List.head?_append, head] at start
    simpa using start
  have whole : cs = cs.takeWhile isSpace ++ (kept ++ gap) := by
    rw [← same, List.takeWhile_append_dropWhile]
  have trimmed : trim cs = kept := by
    rw [whole, trim_blank_append left, trim_append_blank blank]
    exact IsTrimmed.trim_eq ⟨first, last⟩
  exact ⟨_, gap, left, blank, by rw [trimmed]; exact whole⟩

/-- From a text that begins without white space, no more is trimmed than what stands behind one of
its other characters. -/
theorem exists_trim_append (front : List Char) {c : Char}
    (first : ∀ d, front.head? = some d → isSpace d = false) (solid : isSpace c = false)
    (tail : List Char) : ∃ kept gap, tail = kept ++ gap ∧ IsBlank gap ∧
      trim (front ++ c :: tail) = front ++ c :: kept := by
  obtain ⟨kept, gap, rfl, blank, last⟩ := exists_trimmed_end tail
  have trimmed : IsTrimmed (front ++ c :: kept) := by
    constructor
    · intro d head
      cases front with
      | nil =>
        cases head
        exact solid
      | cons e rest => exact first d head
    · intro d end_
      cases kept with
      | nil =>
        rw [List.getLast?_concat] at end_
        cases end_
        exact solid
      | cons e rest =>
        refine last d ?_
        simpa [List.getLast?_append, List.getLast?_cons_cons] using end_
  refine ⟨kept, gap, rfl, blank, ?_⟩
  rw [← List.cons_append, ← List.append_assoc, trim_append_blank blank, trimmed.trim_eq]

section Splitting

variable {mark : Char} {cs : List Char} (absent : mark ∉ cs)

include absent

theorem splitAtFirst_append (behind : List Char) :
    splitAtFirst (· == mark) (cs ++ mark :: behind) = some (cs, behind) := by
  induction cs with
  | nil => simp [splitAtFirst]
  | cons c rest ih =>
    rw [List.mem_cons, not_or] at absent
    simp [splitAtFirst, Ne.symm absent.1, ih absent.2]

theorem splitAtFirst_eq_none : splitAtFirst (· == mark) cs = none := by
  induction cs with
  | nil => rfl
  | cons c rest ih =>
    rw [List.mem_cons, not_or] at absent
    simp [splitAtFirst, Ne.symm absent.1, ih absent.2]

end Splitting

section Lines

variable {line : List Char}

theorem lines_append (unbroken : '\n' ∉ line) (behind : List Char) :
    lines (line ++ '\n' :: behind) = line :: lines behind := by
  induction line with
  | nil => rfl
  | cons c rest ih =>
    rw [List.mem_cons, not_or] at unbroken
    rw [List.cons_append, lines, if_neg (Ne.symm unbroken.1), ih unbroken.2]

theorem lines_unbroken (unbroken : '\n' ∉ line) (nonempty : line ≠ []) : lines line = [line] := by
  induction line with
  | nil => exact absurd rfl nonempty
  | cons c rest ih =>
    rw [List.mem_cons, not_or] at unbroken
    rw [lines, if_neg (Ne.symm unbroken.1)]
    cases rest with
    | nil => rfl
    | cons d more => rw [ih unbroken.2 (List.cons_ne_nil d more)]

theorem lines_ne_nil (c : Char) (cs : List Char) : lines (c :: cs) ≠ [] := by
  rw [lines]
  split
  · exact List.cons_ne_nil _ _
  · split <;> exact List.cons_ne_nil _ _

/-- What stands behind a line feed has lines of its own. -/
theorem lines_append_of_isWhole {cs : List Char} (whole : IsWhole cs) (ds : List Char) :
    lines (cs ++ ds) = lines cs ++ lines ds := by
  induction cs with
  | nil => rfl
  | cons c rest ih =>
    cases rest with
    | nil =>
      rw [whole c rfl]
      rfl
    | cons d more =>
      have later := ih fun e last => whole e (by rwa [List.getLast?_cons_cons])
      rw [List.cons_append, lines, lines, later]
      split
      · rfl
      · obtain ⟨line, others, same⟩ := List.exists_cons_of_ne_nil (lines_ne_nil d more)
        rw [same]
        rfl

end Lines

end DetectorSim.Text
