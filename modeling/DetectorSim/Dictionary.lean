/-!
Entries under text keys, each key once, kept in the order of the keys. Keys are
compared by code point, which is also the order of their encoded bytes.
-/

namespace DetectorSim

/-- Entries in strictly increasing order of their keys. -/
structure Dictionary (α : Type) where
  entries : List (String × α)
  sorted : entries.Pairwise fun a b => a.1 < b.1

namespace Dictionary

variable {α β : Type}

instance : Inhabited (Dictionary α) := ⟨⟨[], List.Pairwise.nil⟩⟩

/-- The dictionary without entries. -/
def empty : Dictionary α :=
  ⟨[], List.Pairwise.nil⟩

/-- Puts an entry in its place, in place of an entry under the same key. -/
def insertEntry (key : String) (value : α) : List (String × α) → List (String × α)
  | [] => [(key, value)]
  | (k, v) :: rest =>
    if key < k then (key, value) :: (k, v) :: rest
    else if key = k then (key, value) :: rest
    else (k, v) :: insertEntry key value rest

theorem mem_insertEntry {key : String} {value : α} {entries : List (String × α)}
    {entry : String × α} (member : entry ∈ insertEntry key value entries) :
    entry = (key, value) ∨ entry ∈ entries := by
  induction entries with
  | nil => simpa [insertEntry] using member
  | cons head rest ih =>
    simp only [insertEntry] at member
    split at member
    · simpa using member
    · split at member
      · rcases List.mem_cons.mp member with rfl | inRest
        · exact .inl rfl
        · exact .inr (List.mem_cons_of_mem _ inRest)
      · rcases List.mem_cons.mp member with rfl | inRest
        · exact .inr (List.mem_cons_self ..)
        · exact (ih inRest).imp_right (List.mem_cons_of_mem _)

theorem before_of_not_before {a b : String} (notBefore : ¬a < b) (different : a ≠ b) : b < a := by
  rcases Decidable.em (b < a) with before | notAfter
  · exact before
  · exact absurd (String.le_antisymm notAfter notBefore) different

theorem pairwise_insertEntry (key : String) (value : α) (entries : List (String × α))
    (sorted : entries.Pairwise fun a b => a.1 < b.1) :
    (insertEntry key value entries).Pairwise fun a b => a.1 < b.1 := by
  induction entries with
  | nil => simp [insertEntry]
  | cons head rest ih =>
    obtain ⟨above, tailSorted⟩ := List.pairwise_cons.mp sorted
    simp only [insertEntry]
    split
    · rename_i before
      refine List.pairwise_cons.mpr ⟨?_, sorted⟩
      intro entry member
      rcases List.mem_cons.mp member with rfl | inRest
      · exact before
      · exact String.lt_trans before (above entry inRest)
    · rename_i notBefore
      split
      · rename_i same
        subst same
        exact List.pairwise_cons.mpr ⟨above, tailSorted⟩
      · rename_i different
        refine List.pairwise_cons.mpr ⟨?_, ih tailSorted⟩
        intro entry member
        rcases mem_insertEntry member with rfl | inRest
        · exact before_of_not_before notBefore different
        · exact above entry inRest

/-- Sets the value under a key. -/
def insert (d : Dictionary α) (key : String) (value : α) : Dictionary α :=
  ⟨insertEntry key value d.entries, pairwise_insertEntry key value d.entries d.sorted⟩

/-- The value under a key. -/
def find? (d : Dictionary α) (key : String) : Option α :=
  d.entries.lookup key

/-- Whether a key has a value. -/
def contains (d : Dictionary α) (key : String) : Bool :=
  (d.find? key).isSome

/-- The keys, in order. -/
def keys (d : Dictionary α) : List String :=
  d.entries.map Prod.fst

/-- The number of entries. -/
def size (d : Dictionary α) : Nat :=
  d.entries.length

/-- Changes the value under a key, which is `initial` if there was none. -/
def update (d : Dictionary α) (key : String) (initial : α) (f : α → α) : Dictionary α :=
  d.insert key (f ((d.find? key).getD initial))

@[simp] theorem find?_empty (key : String) : (empty : Dictionary α).find? key = none := rfl

private theorem lookup_insertEntry (key other : String) (value : α) (entries : List (String × α)) :
    (insertEntry key value entries).lookup other =
      if other = key then some value else entries.lookup other := by
  induction entries with
  | nil =>
    by_cases same : other = key
    · simp [insertEntry, same]
    · simp [insertEntry, List.lookup_cons, beq_eq_false_iff_ne.mpr same, same]
  | cons head rest ih =>
    obtain ⟨k, v⟩ := head
    by_cases same : other = key
    · subst same
      simp only [insertEntry]
      split
      · simp
      · split
        · simp
        · rename_i different
          simp only [List.lookup_cons, beq_eq_false_iff_ne.mpr different, ih, if_true]
    · have apart : (other == key) = false := beq_eq_false_iff_ne.mpr same
      simp only [insertEntry]
      split
      · simp [List.lookup_cons, apart]
      · split
        · rename_i equal
          subst equal
          simp [List.lookup_cons, apart]
        · simp only [List.lookup_cons, ih, same, if_false]

@[simp] theorem find?_insert (d : Dictionary α) (key other : String) (value : α) :
    (d.insert key value).find? other = if other = key then some value else d.find? other :=
  lookup_insertEntry key other value d.entries

theorem keys_pairwise (d : Dictionary α) : d.keys.Pairwise (· < ·) :=
  List.pairwise_map.mpr d.sorted

private theorem lookup_isSome_iff (key : String) (entries : List (String × α)) :
    (entries.lookup key).isSome = true ↔ key ∈ entries.map Prod.fst := by
  simp

theorem mem_keys (d : Dictionary α) (key : String) : key ∈ d.keys ↔ d.contains key = true :=
  (lookup_isSome_iff key d.entries).symm

theorem ext_entries {a b : Dictionary α} (same : a.entries = b.entries) : a = b := by
  cases a; cases b; simpa using same

end Dictionary

end DetectorSim
