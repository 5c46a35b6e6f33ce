import Mathlib.Data.List.Forall2
import Mathlib.Data.List.Nodup
import Mathlib.Data.List.Perm.Basic

/-! Lists taken apart: into the groups under several keys, into the parts beside which the parts of
another list stand, and into two lists that they are mixed of. -/

namespace DetectorSim

/-- Filtering by each of several predicates keeps an element once for each predicate that it
satisfies. -/
theorem flatMap_filter_perm {α β : Type} (keeps : α → β → Bool) (xs : List α) (ys : List β) :
    (xs.flatMap fun x => ys.filter (keeps x)).Perm
      (ys.flatMap fun y => List.replicate (xs.countP (keeps · y)) y) := by
  induction xs with
  | nil => simp
  | cons x rest ih =>
    have split (y : β) : List.replicate ((x :: rest).countP (keeps · y)) y =
        (Option.guard (keeps x) y).toList ++ List.replicate (rest.countP (keeps · y)) y := by
      rw [List.countP_cons, Option.guard]
      split
      · exact List.replicate_succ
      · rfl
    simp only [List.flatMap_cons, split]
    rw [← List.filterMap_eq_filter, List.filterMap_eq_flatMap_toList]
    exact (ih.append_left _).trans (List.flatMap_append_perm ys _ _)

/-- Under different keys that cover all members, the groups make up the list. -/
theorem flatMap_groups_perm {α β : Type} [BEq β] [LawfulBEq β] (key : α → β) {keys : List β}
    {xs : List α} (distinct : keys.Nodup) (covered : ∀ x ∈ xs, key x ∈ keys) :
    (keys.flatMap fun k => xs.filter (key · == k)).Perm xs := by
  refine (flatMap_filter_perm (fun k x => key x == k) keys xs).trans (.of_eq ?_)
  have once (x : α) (member : x ∈ xs) : List.replicate (keys.countP (key x == ·)) x = [x] := by
    rw [List.countP_congr fun k _ => by rw [BEq.comm], ← List.count,
      List.count_eq_one_of_mem distinct (covered x member)]
    rfl
  rw [List.flatMap_congr once, List.flatMap_singleton']

variable {α β : Type} {R : α → β → Prop}

theorem exists_beside_append {xs : List α} {ys zs : List β} (beside : List.Forall₂ R xs (ys ++ zs)) :
    ∃ first last, xs = first ++ last ∧ List.Forall₂ R first ys ∧ List.Forall₂ R last zs :=
  ⟨xs.take ys.length, xs.drop ys.length, (List.take_append_drop ..).symm,
    List.forall₂_take_append _ _ _ beside, List.forall₂_drop_append _ _ _ beside⟩

/-- A list is mixed of two others, each of which keeps its order. -/
inductive Interleaves {α : Type} : List α → List α → List α → Prop where
  | nil : Interleaves [] [] []
  | left (x : α) {xs ys zs : List α} (rest : Interleaves xs ys zs) :
      Interleaves (x :: xs) ys (x :: zs)
  | right (y : α) {xs ys zs : List α} (rest : Interleaves xs ys zs) :
      Interleaves xs (y :: ys) (y :: zs)

namespace Interleaves

variable {xs ys zs : List α} {p : α → Bool}

theorem swap (mixed : Interleaves xs ys zs) : Interleaves ys xs zs := by
  induction mixed with
  | nil => exact .nil
  | left x _ ih => exact .right x ih
  | right y _ ih => exact .left y ih

theorem filter_eq (mixed : Interleaves xs ys zs) (own : ∀ x ∈ xs, p x = true)
    (others : ∀ y ∈ ys, p y = false) : zs.filter p = xs := by
  induction mixed with
  | nil => rfl
  | left x _ ih =>
    obtain ⟨here, own⟩ := List.forall_mem_cons.mp own
    rw [List.filter_cons_of_pos here, ih own others]
  | right y _ ih =>
    obtain ⟨here, others⟩ := List.forall_mem_cons.mp others
    rw [List.filter_cons_of_neg (Bool.eq_false_iff.mp here), ih own others]

end Interleaves

end DetectorSim
