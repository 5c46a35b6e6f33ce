import DetectorSim.Dictionary
import Mathlib.Data.List.Basic

/-! Dictionaries as functions of their keys: what is under each key tells all of a dictionary. -/

namespace DetectorSim

namespace Dictionary

variable {α : Type}

theorem mem_entries_iff (d : Dictionary α) {key : String} {value : α} :
    (key, value) ∈ d.entries ↔ d.find? key = some value := by
  rw [find?, List.lookup_eq_some_iff]
  constructor
  · intro member
    obtain ⟨first, rest, split⟩ := List.append_of_mem member
    refine ⟨first, rest, split, fun entry before => ?_⟩
    have sorted := d.sorted
    rw [split] at sorted
    have less : entry.1 < key :=
      (List.pairwise_append.mp sorted).2.2 entry before _ (List.mem_cons_self ..)
    refine bne_iff_ne.mpr fun same => ?_
    exact String.lt_irrefl key (same ▸ less)
  · rintro ⟨first, rest, split, _⟩
    rw [split]
    exact List.mem_append_right _ (List.mem_cons_self ..)

theorem ext_find? {a b : Dictionary α} (same : ∀ key, a.find? key = b.find? key) : a = b := by
  have distinct (d : Dictionary α) : d.entries.Nodup := by
    refine d.sorted.imp ?_
    intro x y before same
    exact String.lt_irrefl _ (same ▸ before)
  have perm : a.entries.Perm b.entries := by
    refine (List.perm_ext_iff_of_nodup (distinct a) (distinct b)).mpr fun (key, value) => ?_
    rw [mem_entries_iff, mem_entries_iff, same]
  refine ext_entries (perm.eq_of_pairwise (fun x y _ _ before after => ?_) a.sorted b.sorted)
  exact absurd (String.lt_trans before after) (String.lt_irrefl _)

/-- As every key has one entry, entries may be looked up from either end. -/
theorem lookup_reverse (d : Dictionary α) (key : String) :
    d.entries.reverse.lookup key = d.find? key := by
  cases found : d.find? key with
  | none =>
    rw [find?, List.lookup_eq_none_iff] at found
    exact List.lookup_eq_none_iff.mpr fun entry member => found entry (List.mem_reverse.mp member)
  | some value =>
    obtain ⟨first, rest, split⟩ := List.append_of_mem (d.mem_entries_iff.mpr found)
    rw [split]
    refine List.lookup_eq_some_iff.mpr ⟨rest.reverse, first.reverse, by simp, ?_⟩
    intro entry behind
    have sorted := d.sorted
    rw [split] at sorted
    have less : key < entry.1 := (List.pairwise_cons.mp (List.pairwise_append.mp sorted).2.1).1 entry
      (List.mem_reverse.mp behind)
    refine bne_iff_ne.mpr fun same => ?_
    exact String.lt_irrefl key (same ▸ less)

/-- The dictionary without the entry under a key. -/
def erase (d : Dictionary α) (key : String) : Dictionary α :=
  ⟨d.entries.filter (·.1 ≠ key), d.sorted.filter _⟩

@[simp] theorem find?_erase (d : Dictionary α) (key other : String) :
    (d.erase key).find? other = if other = key then none else d.find? other := by
  refine Option.ext fun value => ?_
  rw [← mem_entries_iff, erase, List.mem_filter, mem_entries_iff]
  by_cases same : other = key <;> simp [same]

theorem find?_update (d : Dictionary α) (key other : String) (initial : α) (f : α → α) :
    (d.update key initial f).find? other =
      if other = key then some (f ((d.find? key).getD initial)) else d.find? other :=
  d.find?_insert key other _

end Dictionary

end DetectorSim
