import DetectorSim.Proofs.Config.Access
import DetectorSim.Proofs.Config.Numbers

/-! Lists that are written between brackets are read back, whatever their depth. A list of one item is
taken for the item, and a scalar for a list of one, only where a single value is wanted: brackets that
were written are all counted. -/

namespace DetectorSim

namespace Decimal

theorem toList_toString_negSucc (m : Nat) :
    (toString (Int.negSucc m)).toList = '-' :: Nat.toDigits 10 (m + 1) := by
  change ("-" ++ Nat.repr (m + 1)).toList = _
  rw [String.toList_append, Nat.toList_repr]
  rfl

theorem readInteger_toString {low high n : Int} (within : low ≤ n ∧ n ≤ high) :
    readInteger low high (toString n).toList = .ok n := by
  cases n with
  | ofNat m =>
    have digits : (toString (Int.ofNat m)).toList = Nat.toDigits 10 m := Nat.toList_repr
    rw [digits]
    exact readInteger_toDigits within.2
  | negSucc m =>
    have negative : low < 0 := by omega
    have within : m + 1 ≤ (-low).toNat := by omega
    have read := readDigits_toDigits .tooSmall within
    have nonempty : (Nat.toDigits 10 (m + 1)).isEmpty = false :=
      List.isEmpty_eq_false_iff.mpr Nat.toDigits_ne_nil
    rw [toList_toString_negSucc, readInteger, if_neg (by decide), if_pos ⟨rfl, negative⟩,
      readMagnitude, nonempty, if_neg Bool.false_ne_true, read]
    rfl

end Decimal

namespace Config

namespace Value

/-- A text that needs no quotes. -/
structure IsWord (text : String) : Prop where
  nonempty : text ≠ ""
  free : ∀ c ∈ text.toList, Text.isSpace c = false ∧ c ∉ [',', '[', ']', '\x22', '\x27']

theorem IsWord.plain {text : String} (word : IsWord text) :
    ∀ c ∈ text.toList, endsBare c = false := by
  intro c member
  obtain ⟨visible, foreign⟩ := word.free c member
  simp only [List.mem_cons, List.not_mem_nil, or_false, not_or] at foreign
  simp [endsBare, isSeparator, isQuote, visible, foreign]

section Fitting

variable {v : Value} {text : List Char}

theorem Layout.relax {items : List Value} {cs : List Char} (layout : Layout true items cs) :
    Layout false items cs := by
  cases layout with
  | blank separates => exact .blank separates
  | bare separates _ nonempty plain next => exact .bare separates nofun nonempty plain next
  | quoted separates quotes free next => exact .quoted separates quotes free next
  | list separates enclosed next => exact .list separates enclosed next

/-- A text lays out a value wherever separators keep it away from what stands before. -/
structure Fits (v : Value) (text : List Char) : Prop where
  between : ∀ {afterBare : Bool} {gap behind : List Char} {items : List Value}, IsGap gap →
    (afterBare = true → gap ≠ []) → Layout true items behind →
      Layout afterBare (v :: items) (gap ++ (text ++ behind))

theorem fits_scalar {text : String} (nonempty : text.toList ≠ [])
    (plain : ∀ c ∈ text.toList, endsBare c = false) : Fits (.scalar text) text.toList :=
  ⟨fun separates apart next => .bare separates apart nonempty plain next⟩

theorem IsWord.fits {word : String} (isWord : IsWord word) : Fits (.scalar word) word.toList :=
  fits_scalar (mt String.toList_eq_nil_iff.mp isWord.nonempty) isWord.plain

theorem Fits.layout (fits : v.Fits text) : Layout false [v] text := by
  have alone : Layout false [v] ([] ++ (text ++ [])) :=
    fits.between isGap_nil nofun (.blank isGap_nil)
  rwa [List.append_nil] at alone

variable {α : Type} {tree : α → Value} {write : α → String}

theorem layout_behind {xs : List α} (each : ∀ x ∈ xs, (tree x).Fits (write x).toList) :
    Layout true (xs.map tree) (xs.flatMap fun x => ", ".toList ++ (write x).toList) := by
  have comma : IsGap ", ".toList :=
    List.forall_mem_cons.mpr ⟨rfl, List.forall_mem_singleton.mpr rfl⟩
  induction xs with
  | nil => exact .blank isGap_nil
  | cons x rest ih =>
    obtain ⟨here, others⟩ := List.forall_mem_cons.mp each
    rw [List.flatMap_cons, List.append_assoc]
    exact here.between comma (fun _ => by decide) (ih others)

theorem toList_intercalate (x : α) (rest : List α) :
    (", ".intercalate ((x :: rest).map write)).toList =
      (write x).toList ++ rest.flatMap fun y => ", ".toList ++ (write y).toList := by
  induction rest generalizing x with
  | nil => exact (List.append_nil _).symm
  | cons y rest ih =>
    rw [List.map_cons, List.map_cons, String.intercalate_cons_cons, String.toList_append,
      String.toList_append, ← List.map_cons, ih, List.flatMap_cons, List.append_assoc,
      List.append_assoc]

theorem fits_bracketed {xs : List α} (each : ∀ x ∈ xs, (tree x).Fits (write x).toList) :
    (Value.list (xs.map tree)).Fits (Text.bracketed (xs.map write)).toList := by
  have inside : Layout false (xs.map tree) (", ".intercalate (xs.map write)).toList := by
    cases xs with
    | nil => exact .blank isGap_nil
    | cons x rest =>
      obtain ⟨here, others⟩ := List.forall_mem_cons.mp each
      rw [toList_intercalate]
      exact here.between isGap_nil nofun (layout_behind others)
  refine ⟨fun separates _ next => ?_⟩
  rw [Text.bracketed, String.toList_append, String.toList_append, List.append_assoc,
    List.append_assoc]
  exact .list separates inside next.relax

theorem parse_single {text : String} (layout : Layout false [v] text.toList) :
    parse text = .ok v := by
  have ends : Ends [] := nofun
  have gathered := gather_layout layout ends [] []
  rw [List.append_nil] at gathered
  rw [parse, gathered]
  rfl

end Fitting

end Value

namespace Kind

variable {k : Kind}

/-- Lists of lists down to a depth. -/
def nested (k : Kind) : Nat → Kind
  | 0 => k
  | depth + 1 => .list (k.nested depth)

/-- The value tree of nested lists, with a value for each item. -/
def tree (leaf : k.Carrier → Value) : (depth : Nat) → (k.nested depth).Carrier → Value
  | 0, x => leaf x
  | depth + 1, xs => .list (List.map (tree leaf depth) xs)

/-- Nested lists with all their brackets. -/
def bracketed (write : k.Carrier → String) : (depth : Nat) → (k.nested depth).Carrier → String
  | 0, x => write x
  | depth + 1, xs => Text.bracketed (List.map (bracketed write depth) xs)

theorem readItems_map {α : Type} {read : Value → Except ReadFault α} {tree : α → Value}
    {xs : List α} (each : ∀ x ∈ xs, read (tree x) = .ok x) :
    readItems read (xs.map tree) = .ok xs := by
  induction xs with
  | nil => rfl
  | cons x rest ih =>
    obtain ⟨here, others⟩ := List.forall_mem_cons.mp each
    rw [List.map_cons, readItems, here, ih others]
    rfl

/-- Items are read back at any depth if they are by themselves. -/
theorem read_tree {leaf : k.Carrier → Value} (each : ∀ x, k.read (leaf x) = .ok x) (depth : Nat)
    (xs : (k.nested depth).Carrier) : (k.nested depth).read (tree leaf depth xs) = .ok xs := by
  induction depth with
  | zero => exact each xs
  | succ depth ih => exact readItems_map fun x _ => ih x

theorem fits_bracketed {leaf : k.Carrier → Value} {write : k.Carrier → String}
    (each : ∀ x, (leaf x).Fits (write x).toList) (depth : Nat) (xs : (k.nested depth).Carrier) :
    (tree leaf depth xs).Fits (bracketed write depth xs).toList := by
  induction depth with
  | zero => exact each xs
  | succ depth ih => exact Value.fits_bracketed fun x _ => ih x

theorem readText_of_layout {v : Value} {text : String}
    (layout : Value.Layout false [v] text.toList) : k.readText text = k.read v := by
  rw [readText, Value.parse_single layout]

end Kind

namespace IntegerType

variable (type : IntegerType)

/-- An integer in decimal digits, behind a minus sign if it is negative. -/
def display (n : type.Carrier) : String :=
  toString n.val

/-- An integer as a value. -/
def scalar (n : type.Carrier) : Value :=
  .scalar (type.display n)

theorem read_scalar (n : type.Carrier) : (Kind.integer type).read (type.scalar n) = .ok n :=
  Kind.readInteger_eq_ok (Decimal.readInteger_toString n.property)

theorem fits_display (n : type.Carrier) : (type.scalar n).Fits (type.display n).toList := by
  have plain (m : Nat) : ∀ c ∈ Nat.toDigits 10 m, Value.endsBare c = false := fun c member =>
    Value.endsBare_of_isDigit (Nat.isDigit_of_mem_toDigits (by decide) (by decide) member)
  obtain ⟨n, _⟩ := n
  change (Value.scalar (toString n)).Fits (toString n).toList
  cases n with
  | ofNat m =>
    have digits : (toString (Int.ofNat m)).toList = Nat.toDigits 10 m := Nat.toList_repr
    exact Value.fits_scalar (digits ▸ Nat.toDigits_ne_nil) (digits ▸ plain m)
  | negSucc m =>
    have digits := Decimal.toList_toString_negSucc m
    have signed : ∀ c ∈ '-' :: Nat.toDigits 10 (m + 1), Value.endsBare c = false :=
      List.forall_mem_cons.mpr ⟨rfl, plain (m + 1)⟩
    exact Value.fits_scalar (digits ▸ List.cons_ne_nil _ _) (digits ▸ signed)

end IntegerType

section Keys

variable {s : Section} {key raw : String} {k : Kind}

/-- What a list under a key is read as: the list itself, and an array of just its length; an array of
another length is refused with both lengths. -/
structure Section.HoldsList (s : Section) (key raw : String) (k : Kind) (xs : List k.Carrier) :
    Prop where
  list : ((Access.read (.list k) key).on s).1 = .ok xs
  array : ∀ n, (∃ v : Vector k.Carrier n, ((Access.read (.array n k) key).on s).1 = .ok v ∧
    v.toList = xs) ↔ xs.length = n
  refused : ∀ n, xs.length ≠ n → ((Access.read (.array n k) key).on s).1 =
    .error (.wrongKind s.identifier key raw (.array n k) (.length n xs.length))

theorem Access.read_set (s : Section) (key raw : String) (k : Kind) :
    ((Access.read k key).on (s.set key raw)).1 =
      (k.readText raw).mapError (.wrongKind s.identifier key raw k) := by
  have found : (s.set key raw).values.find? key = some raw := by
    rw [Section.set, Dictionary.find?_insert, if_pos rfl]
  rw [Access.on_read, Section.reading, found]
  rfl

/-- A list of items that are each read back is read back. -/
theorem Section.holdsList_setList {tree : k.Carrier → Value} {write : k.Carrier → String}
    {xs : List k.Carrier} (fits : ∀ x ∈ xs, (tree x).Fits (write x).toList)
    (reads : ∀ x ∈ xs, k.read (tree x) = .ok x) {items : List String}
    (written : xs.map write = items) (s : Section) (key : String) :
    (s.setList key items).HoldsList key (Text.bracketed items) k xs := by
  subst written
  have layout := (Value.fits_bracketed fits).layout
  have items : Kind.readItems k.read (Value.list (xs.map tree)).items = .ok xs :=
    Kind.readItems_map reads
  have list : (Kind.list k).readText (Text.bracketed (xs.map write)) = .ok xs := by
    rw [Kind.readText_of_layout layout]
    exact items
  have array (n : Nat) : (Kind.array n k).readText (Text.bracketed (xs.map write)) =
      if same : xs.length = n then .ok (⟨xs.toArray, same⟩ : Vector k.Carrier n)
      else .error (.length n xs.length) := by
    rw [Kind.readText_of_layout layout]
    exact congrArg (Except.bind · _) items
  refine ⟨?_, fun n => ⟨?_, ?_⟩, fun n other => ?_⟩
  · rw [setList, Access.read_set, list]
    rfl
  · rintro ⟨v, _, rfl⟩
    exact v.length_toList
  · rintro rfl
    refine ⟨⟨xs.toArray, rfl⟩, ?_, rfl⟩
    rw [setList, Access.read_set, array, dif_pos rfl]
    rfl
  · rw [setList, Access.read_set, array, dif_neg other]
    rfl

end Keys

/-- A list of integers, or of texts that need no quotes, is read back from the key that it was put
under, as a list and as an array of just its length. Integers in lists of any depth are read back from
every text that lays out the lists with all their brackets, such as the one that puts nothing but
commas and blanks between items. -/
theorem lists_are_read_back (s : Section) (key : String) :
    (∀ (type : IntegerType) (xs : List type.Carrier),
      let items := xs.map type.display
      (s.setList key items).HoldsList key (Text.bracketed items) (.integer type) xs) ∧
    (∀ words : List String, (∀ word ∈ words, Value.IsWord word) →
      (s.setList key words).HoldsList key (Text.bracketed words) .text words) ∧
    ∀ (type : IntegerType) (depth : Nat) (xs : ((Kind.integer type).nested depth).Carrier),
      let read (text : String) :=
        ((Access.read ((Kind.integer type).nested depth) key).on (s.set key text)).1
      let tree := Kind.tree (k := .integer type) type.scalar depth xs
      read (Kind.bracketed (k := .integer type) type.display depth xs) = .ok xs ∧
      ∀ text : String, Value.Layout false [tree] text.toList → read text = .ok xs := by
  refine ⟨fun type xs => ?_, fun words isWord => ?_, fun type depth xs => ?_⟩
  · exact Section.holdsList_setList (k := .integer type) (fun n _ => type.fits_display n)
      (fun n _ => type.read_scalar n) rfl s key
  · exact Section.holdsList_setList (k := .text) (fun word member => (isWord word member).fits)
      (fun _ _ => rfl) (List.map_id words) s key
  · intro read tree
    have comesBack (text : String) (layout : Value.Layout false [tree] text.toList) :
        read text = .ok xs := by
      change ((Access.read _ key).on (s.set key text)).1 = _
      rw [Access.read_set, Kind.readText_of_layout layout,
        Kind.read_tree (k := .integer type) type.read_scalar depth xs]
      rfl
    have fits := Kind.fits_bracketed (k := .integer type) type.fits_display depth xs
    exact ⟨comesBack _ fits.layout, comesBack⟩

/-- A list of one integer, no words, and a list with an empty and a single inner list. -/
theorem single_items_keep_their_brackets :
    let s := Section.new "Grid" none
    let low : IntegerType.i8.Carrier := ⟨-128, by decide⟩
    let rows : ((Kind.integer .i8).nested 3).Carrier := [[], [[low]]]
    (s.setList "offsets" ["-128"]).HoldsList "offsets" "[-128]" (.integer .i8) [low] ∧
      (∀ word ∈ ["A"], Value.IsWord word) ∧
      (s.setList "planes" ["A"]).HoldsList "planes" "[A]" .text ["A"] ∧
      Value.Layout false [Kind.tree (k := .integer .i8) (IntegerType.scalar .i8) 3 rows]
        "[[] [[-128,]]]".toList ∧
      ((Access.read ((Kind.integer .i8).nested 3) "rows").on
        (s.set "rows" "[[] [[-128,]]]")).1 = .ok rows := by
  intro s low rows
  have words : ∀ word ∈ ["A"], Value.IsWord word :=
    List.forall_mem_singleton.mpr ⟨by decide, List.forall_mem_singleton.mpr ⟨rfl, by decide⟩⟩
  have blank : Value.IsGap [' '] := List.forall_mem_singleton.mpr rfl
  have comma : Value.IsGap [','] := List.forall_mem_singleton.mpr rfl
  have innermost : Value.Layout false [IntegerType.i8.scalar low]
      ([] ++ ((IntegerType.i8.display low).toList ++ [','])) :=
    (IntegerType.i8.fits_display low).between Value.isGap_nil nofun (.blank comma)
  have written : (IntegerType.i8.display low).toList = ['-', '1', '2', '8'] := by decide +kernel
  rw [written] at innermost
  have layout : Value.Layout false [Kind.tree (k := .integer .i8) (IntegerType.scalar .i8) 3 rows]
      "[[] [[-128,]]]".toList :=
    @Value.Layout.list false [] _ [] _ _ Value.isGap_nil
      (@Value.Layout.list false [] [] " [[-128,]]".toList _ _ Value.isGap_nil
        (.blank Value.isGap_nil)
        (@Value.Layout.list false [' '] _ [] _ _ blank
          (@Value.Layout.list false [] _ [] _ _ Value.isGap_nil innermost (.blank Value.isGap_nil))
          (.blank Value.isGap_nil)))
      (.blank Value.isGap_nil)
  exact ⟨(lists_are_read_back s "offsets").1 .i8 [low], words,
    (lists_are_read_back s "planes").2.1 ["A"] words, layout,
    ((lists_are_read_back s "rows").2.2 .i8 3 rows).2 _ layout⟩

end Config

end DetectorSim
