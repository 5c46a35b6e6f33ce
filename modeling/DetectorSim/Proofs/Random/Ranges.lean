import DetectorSim.Random.Engine
import Mathlib.Algebra.Group.Nat.Defs

/-! Integers drawn from a range. Whatever the state of an engine, a range that is not empty yields one
of its integers. -/

namespace DetectorSim.Random.Engine

theorem search_found {σ α : Type} {attempt : σ → Option α × σ} {tries : Nat} {s : σ} {a : α}
    (found : (search attempt tries s).1 = some a) : ∃ state, (attempt state).1 = some a := by
  induction tries generalizing s with
  | zero => cases found
  | succ tries ih =>
    rw [search] at found
    split at found
    · rename_i accepted
      cases found
      exact ⟨s, congrArg Prod.fst accepted⟩
    · exact ih found

theorem share_lt (word : UInt32) {width : UInt32} (positive : 0 < width) :
    ((word.toUInt64 * width.toUInt64) >>> 32).toUInt32 < width := by
  have bound : word.toNat * width.toNat < 2 ^ 32 * width.toNat :=
    Nat.mul_lt_mul_of_pos_right word.toNat_lt (UInt32.lt_iff_toNat_lt.mp positive)
  have small := width.toNat_lt
  have product : (word.toUInt64 * width.toUInt64).toNat = word.toNat * width.toNat := by
    have fits : word.toNat * width.toNat < 2 ^ 64 := by omega
    simpa using fits
  have below : word.toNat * width.toNat / 2 ^ 32 < width.toNat :=
    (Nat.div_lt_iff_lt_mul (by decide)).mpr (by omega)
  rw [UInt32.lt_iff_toNat_lt]
  simp [product, Nat.shiftRight_eq_div_pow]
  omega

/-- A range that is not empty yields one of its integers. -/
theorem between_some {low high : UInt32} (nonempty : low < high) (e : Engine) :
    ∃ n, (e.between low high).1 = some n ∧ low ≤ n ∧ n < high := by
  have order : low.toNat < high.toNat := UInt32.lt_iff_toNat_lt.mp nonempty
  have width : (high - low).toNat = high.toNat - low.toNat :=
    UInt32.toNat_sub_of_le _ _ (UInt32.le_iff_toNat_le.mpr (Nat.le_of_lt order))
  have positive : 0 < high - low := by
    rw [UInt32.lt_iff_toNat_lt, width]
    exact Nat.sub_pos_of_lt order
  rw [between, if_pos nonempty]
  refine ⟨_, rfl, ?_⟩
  generalize drawn : search _ period e = result
  obtain ⟨share, later⟩ := result
  -- the default of a search that finds nothing is below the width as well
  have below : share.getD 0 < high - low := by
    cases share with
    | none => exact positive
    | some found =>
      obtain ⟨state, accepted⟩ := search_found (congrArg Prod.fst drawn)
      dsimp only at accepted
      split at accepted
      · cases accepted
        exact share_lt _ positive
      · cases accepted
  rw [UInt32.lt_iff_toNat_lt, width] at below
  have high' := high.toNat_lt
  have sum : (low + share.getD 0).toNat = low.toNat + (share.getD 0).toNat := by
    rw [UInt32.toNat_add, Nat.mod_eq_of_lt (by omega)]
  rw [UInt32.le_iff_toNat_le, UInt32.lt_iff_toNat_lt]
  dsimp only
  omega

end DetectorSim.Random.Engine
