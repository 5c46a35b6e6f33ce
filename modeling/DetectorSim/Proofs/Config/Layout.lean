import DetectorSim.Config.Value

/-! Ways of writing values down, and that reading undoes them all. Runs of separators may stand
anywhere around items, and have to only between two bare scalars. -/

namespace DetectorSim.Config.Value

/-- A run of separators. -/
def IsGap (gap : List Char) : Prop :=
  ∀ c ∈ gap, isSeparator c = true

theorem isGap_nil : IsGap [] := nofun

/-- A text lays out items one after the other. `afterBare` tells that a bare scalar stands right
before it, which a further bare scalar has to keep away from. -/
inductive Layout : (afterBare : Bool) → List Value → List Char → Prop where
  | blank {afterBare : Bool} {gap : List Char} (separates : IsGap gap) : Layout afterBare [] gap
  | bare {afterBare : Bool} {gap behind : List Char} {text : String} {items : List Value}
      (separates : IsGap gap) (apart : afterBare = true → gap ≠ []) (nonempty : text.toList ≠ [])
      (plain : ∀ c ∈ text.toList, endsBare c = false) (next : Layout true items behind) :
      Layout afterBare (.scalar text :: items) (gap ++ (text.toList ++ behind))
  | quoted {afterBare : Bool} {gap behind : List Char} {quote : Char} {text : String}
      {items : List Value} (separates : IsGap gap) (quotes : isQuote quote = true)
      (free : quote ∉ text.toList) (next : Layout false items behind) :
      Layout afterBare (.scalar text :: items)
        (gap ++ quote :: (text.toList ++ quote :: behind))
  | list {afterBare : Bool} {gap inside behind : List Char} {inner items : List Value}
      (separates : IsGap gap) (enclosed : Layout false inner inside)
      (next : Layout false items behind) :
      Layout afterBare (.list inner :: items) (gap ++ '[' :: (inside ++ ']' :: behind))

/-- Every scalar of a value lacks one of the quotes. -/
inductive Quotable : Value → Prop where
  | scalar {text : String} {quote : Char} (quotes : isQuote quote = true)
      (free : quote ∉ text.toList) : Quotable (.scalar text)
  | list {items : List Value} (each : ∀ item ∈ items, Quotable item) : Quotable (.list items)

section Scanning

variable {cs : List Char}

theorem tokens_gap {gap : List Char} (separates : IsGap gap) (cs : List Char) :
    tokens .between (gap ++ cs) = tokens .between cs := by
  induction gap with
  | nil => rfl
  | cons c rest ih =>
    have separator := separates c (List.mem_cons_self ..)
    have skipped : Scan.step .between c = ([], .between) := by
      simp [Scan.step, Scan.begin, separator]
    rw [List.cons_append, tokens, skipped]
    exact ih fun d member => separates d (List.mem_cons_of_mem _ member)

theorem tokens_bare {text : List Char} (plain : ∀ c ∈ text, endsBare c = false)
    (seen cs : List Char) :
    tokens (.bare seen) (text ++ cs) = tokens (.bare (text.reverse ++ seen)) cs := by
  induction text generalizing seen with
  | nil => rfl
  | cons c rest ih =>
    have kept : Scan.step (.bare seen) c = ([], .bare (c :: seen)) := by
      simp [Scan.step, plain c (List.mem_cons_self ..)]
    rw [List.cons_append, tokens, kept, List.reverse_cons, List.append_assoc]
    exact ih (fun d member => plain d (List.mem_cons_of_mem _ member)) (c :: seen)

theorem begin_of_plain {c : Char} (plain : endsBare c = false) :
    Scan.begin c = ([], .bare [c]) := by
  simp only [endsBare, Bool.or_eq_false_iff, beq_eq_false_iff_ne] at plain
  obtain ⟨⟨⟨separator, opening⟩, closing⟩, quote⟩ := plain
  simp [Scan.begin, separator, opening, closing, quote]

theorem tokens_plain {text : List Char} (nonempty : text ≠ [])
    (plain : ∀ c ∈ text, endsBare c = false) (cs : List Char) :
    tokens .between (text ++ cs) = tokens (.bare text.reverse) cs := by
  cases text with
  | nil => exact absurd rfl nonempty
  | cons c rest =>
    have begun : Scan.step .between c = ([], .bare [c]) :=
      begin_of_plain (plain c (List.mem_cons_self ..))
    rw [List.cons_append, tokens, begun, List.reverse_cons]
    exact tokens_bare (fun d member => plain d (List.mem_cons_of_mem _ member)) [c] cs

/-- The end of the text, or a character that ends bare scalars, comes next. -/
def Ends (cs : List Char) : Prop :=
  ∀ c, cs.head? = some c → endsBare c = true

theorem tokens_end (seen : List Char) (ends : Ends cs) :
    tokens (.bare seen) cs = Token.ofSeen seen :: tokens .between cs := by
  cases cs with
  | nil => rfl
  | cons c rest =>
    have ended : Scan.step (.bare seen) c =
        (Token.ofSeen seen :: (Scan.begin c).1, (Scan.begin c).2) := by
      simp [Scan.step, ends c rfl]
    rw [tokens, ended, tokens]
    rfl

theorem tokens_quote {quote : Char} {text : List Char} (free : quote ∉ text)
    (seen cs : List Char) :
    tokens (.quoted quote seen) (text ++ quote :: cs) =
      Token.ofSeen (text.reverse ++ seen) :: tokens .between cs := by
  induction text generalizing seen with
  | nil => simp [tokens, Scan.step]
  | cons c rest ih =>
    rw [List.mem_cons, not_or] at free
    obtain ⟨other, free⟩ := free
    have kept : Scan.step (.quoted quote seen) c = ([], .quoted quote (c :: seen)) := by
      simp [Scan.step, Ne.symm other]
    rw [List.cons_append, tokens, kept, List.reverse_cons, List.append_assoc]
    exact ih free (c :: seen)

theorem tokens_quoted {quote : Char} {text : String} (quotes : isQuote quote = true)
    (free : quote ∉ text.toList) (cs : List Char) :
    tokens .between (quote :: (text.toList ++ quote :: cs)) =
      .scalar text :: tokens .between cs := by
  have opened : Scan.step .between quote = ([], .quoted quote []) := by
    simp only [isQuote, Bool.or_eq_true, beq_iff_eq] at quotes
    rcases quotes with rfl | rfl <;> rfl
  rw [tokens, opened, List.nil_append, tokens_quote free]
  simp [Token.ofSeen]

theorem tokens_opening (cs : List Char) :
    tokens .between ('[' :: cs) = .opening :: tokens .between cs := rfl

theorem tokens_closing (cs : List Char) :
    tokens .between (']' :: cs) = .closing :: tokens .between cs := rfl

end Scanning

section Layouts

theorem IsGap.ends {gap : List Char} (separates : IsGap gap) (nonempty : gap ≠ [])
    (cs : List Char) : Ends (gap ++ cs) := by
  cases gap with
  | nil => exact absurd rfl nonempty
  | cons c rest =>
    intro d first
    cases first
    simp [endsBare, separates c (List.mem_cons_self ..)]

theorem IsGap.ends_append {gap cs : List Char} (separates : IsGap gap) (ends : Ends cs) :
    Ends (gap ++ cs) := by
  by_cases empty : gap = []
  · rwa [empty, List.nil_append]
  · exact separates.ends empty cs

theorem Layout.ends {items : List Value} {cs tail : List Char} (layout : Layout true items cs)
    (ends : Ends tail) : Ends (cs ++ tail) := by
  cases layout with
  | blank separates => exact separates.ends_append ends
  | @bare _ gap behind text _ separates apart nonempty plain next =>
    rw [List.append_assoc]
    exact separates.ends (apart rfl) _
  | quoted separates quotes free next =>
    rw [List.append_assoc]
    refine separates.ends_append fun c first => ?_
    cases first
    simp [endsBare, quotes]
  | list separates enclosed next =>
    rw [List.append_assoc]
    refine separates.ends_append fun c first => ?_
    cases first
    rfl

/-- Reading a layout gathers its items and goes on behind it. The induction goes over the layout, so
the items of a list are gathered before those behind it. -/
theorem gather_layout {afterBare : Bool} {items : List Value} {cs : List Char}
    (layout : Layout afterBare items cs) {tail : List Char} (ends : Ends tail)
    (outer : List (List Value)) (done : List Value) :
    gather (tokens .between (cs ++ tail)) outer done =
      gather (tokens .between tail) outer (items.reverse ++ done) := by
  induction layout generalizing tail outer done with
  | blank separates => rw [tokens_gap separates, List.reverse_nil, List.nil_append]
  | @bare _ gap behind text items separates apart nonempty plain next ih =>
    rw [List.append_assoc, List.append_assoc, tokens_gap separates, tokens_plain nonempty plain,
      tokens_end _ (next.ends ends)]
    simp only [Token.ofSeen, List.reverse_reverse, String.ofList_toList, gather]
    rw [ih ends, List.reverse_cons, List.append_assoc, List.singleton_append]
  | @quoted _ gap behind quote text items separates quotes free next ih =>
    rw [List.append_assoc, tokens_gap separates, List.cons_append, List.append_assoc,
      List.cons_append, tokens_quoted quotes free]
    simp only [gather]
    rw [ih ends, List.reverse_cons, List.append_assoc, List.singleton_append]
  | @list _ gap inside behind inner items separates enclosed next within ih =>
    have closes : Ends (']' :: (behind ++ tail)) := by
      intro c first
      cases first
      rfl
    rw [List.append_assoc, tokens_gap separates, List.cons_append, List.append_assoc,
      List.cons_append, tokens_opening]
    simp only [gather]
    rw [within closes, tokens_closing]
    simp only [gather, List.append_nil, List.reverse_reverse]
    rw [ih ends, List.reverse_cons, List.append_assoc, List.singleton_append]

/-- Only values whose scalars each lack a quote can be laid out. -/
theorem Layout.quotable {afterBare : Bool} {items : List Value} {cs : List Char}
    (layout : Layout afterBare items cs) : ∀ item ∈ items, item.Quotable := by
  induction layout with
  | blank separates => exact fun item member => nomatch member
  | @bare _ gap behind text items separates apart nonempty plain next ih =>
    have free : '\x22' ∉ text.toList := by
      intro member
      have unended := plain _ member
      cases unended
    exact List.forall_mem_cons.mpr ⟨.scalar (by rfl) free, ih⟩
  | quoted separates quotes free next ih =>
    exact List.forall_mem_cons.mpr ⟨.scalar quotes free, ih⟩
  | list separates enclosed next within ih =>
    exact List.forall_mem_cons.mpr ⟨.list within, ih⟩

/-- A list can be laid out if each of its items can be before any others. -/
theorem exists_layout_of {items : List Value}
    (each : ∀ item ∈ items, ∀ {more : List Value} {behind : List Char},
      Layout false more behind → ∃ cs, Layout false (item :: more) cs) :
    ∃ cs, Layout false items cs := by
  induction items with
  | nil => exact ⟨[], .blank isGap_nil⟩
  | cons item rest ih =>
    obtain ⟨behind, next⟩ := ih fun other member => each other (List.mem_cons_of_mem _ member)
    exact each item (List.mem_cons_self ..) next

theorem Quotable.layout_cons {item : Value} (quotable : item.Quotable) :
    ∀ {items : List Value} {behind : List Char}, Layout false items behind →
      ∃ cs, Layout false (item :: items) cs := by
  induction quotable with
  | scalar quotes free =>
    intro items behind next
    exact ⟨_, .quoted isGap_nil quotes free next⟩
  | list each ih =>
    intro items behind next
    obtain ⟨inside, enclosed⟩ := exists_layout_of ih
    exact ⟨_, .list isGap_nil enclosed next⟩

end Layouts

/-- Reading undoes every layout. Exactly the values whose scalars each lack one of the quotes can be
laid out, and whichever way a list of them is, it is read as the single item if it has one, and as
the list of its items if not. -/
theorem parse_undoes_layout (items : List Value) :
    ((∀ item ∈ items, item.Quotable) ↔ ∃ text : String, Layout false items text.toList) ∧
      ∀ text : String, Layout false items text.toList →
        (∀ item, items = [item] → parse text = .ok item) ∧
        (items.length ≠ 1 → parse text = .ok (.list items)) := by
  constructor
  · constructor
    · intro quotable
      obtain ⟨cs, layout⟩ := exists_layout_of fun item member => (quotable item member).layout_cons
      exact ⟨String.ofList cs, by rwa [String.toList_ofList]⟩
    · rintro ⟨text, layout⟩
      exact layout.quotable
  · intro text layout
    have atEnd : Ends [] := nofun
    have gathered : gather (tokens .between text.toList) [] [] = .ok items := by
      simpa [tokens, Scan.finish, gather] using gather_layout layout atEnd [] []
    have read : parse text = .ok (ofItems items) := by
      rw [parse, gathered]
      rfl
    constructor
    · rintro item rfl
      exact read
    · intro several
      match items, several with
      | [], _ => exact read
      | [item], single => exact absurd rfl single
      | _ :: _ :: _, _ => exact read

/-- Scalars of all forms are read, next to each other and inside of a list. -/
theorem mixed_scalars_are_read :
    let items := [.scalar "a", .scalar "b'c", .list [.scalar "", .scalar "1", .scalar "2"]]
    Layout false items " a\"b'c\",['' 1,2]".toList ∧
      parse " a\"b'c\",['' 1,2]" = .ok (.list items) := by
  intro items
  have space : IsGap [' '] := List.forall_mem_singleton.mpr rfl
  have comma : IsGap [','] := List.forall_mem_singleton.mpr rfl
  have inner : Layout false [.scalar "", .scalar "1", .scalar "2"] "'' 1,2".toList :=
    @Layout.quoted false [] " 1,2".toList '\x27' "" _ isGap_nil rfl nofun
      (@Layout.bare false [' '] ",2".toList "1" _ space nofun nofun
        (List.forall_mem_singleton.mpr rfl)
        (@Layout.bare true [','] [] "2" _ comma nofun nofun (List.forall_mem_singleton.mpr rfl)
          (.blank isGap_nil)))
  have layout : Layout false items " a\"b'c\",['' 1,2]".toList :=
    @Layout.bare false [' '] "\"b'c\",['' 1,2]".toList "a" _ space nofun nofun
      (List.forall_mem_singleton.mpr rfl)
      (@Layout.quoted true [] ",['' 1,2]".toList '\x22' "b'c" _ isGap_nil rfl (by simp)
        (@Layout.list false [','] _ [] _ _ comma inner (.blank isGap_nil)))
  exact ⟨layout, ((parse_undoes_layout items).2 _ layout).2 (by decide)⟩

end DetectorSim.Config.Value
