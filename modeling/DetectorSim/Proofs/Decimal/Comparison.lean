import DetectorSim.Decimal.Literal

/-! Comparing numbers that may be not-a-number. Two numbers are ordered unless one of them is not a
number, and then no comparison holds; so a comparison that fails says less than the opposite one. -/

namespace DetectorSim.Decimal

open Float.Model (UnpackedFloat)

/-- The order of two numbers, none if one is not a number. -/
def order? (a b : Float) : Option Ordering :=
  a.toModel.unpack.compare b.toModel.unpack

theorem swap_compare (a b : UnpackedFloat) : (a.compare b).map Ordering.swap = b.compare a := by
  cases a with
  | notANumber => cases b <;> rfl
  | infinity s =>
    cases b with
    | infinity t => cases s <;> cases t <;> rfl
    | notANumber | zero t | finite t => cases s <;> rfl
  | zero s =>
    cases b with
    | notANumber | zero t => rfl
    | infinity t | finite t => cases t <;> rfl
  | finite s m e positive =>
    cases b with
    | notANumber => rfl
    | infinity t => cases t <;> rfl
    | zero t => cases s <;> rfl
    | finite t n k positive' =>
      have sizes : ((compare e k).then (compare m n)).swap = (compare k e).then (compare n m) := by
        rw [Ordering.swap_then, Int.compare_swap, Nat.compare_swap]
      cases s with
      | positive =>
        cases t with
        | positive => exact congrArg some sizes
        | negative => rfl
      | negative =>
        cases t with
        | positive => rfl
        | negative => exact congrArg (fun order => some order.swap) sizes

theorem compare_eq_none_iff (a b : UnpackedFloat) :
    a.compare b = none ↔ a.isNaN = true ∨ b.isNaN = true := by
  have ordered {order : Ordering} {p q : Bool} (left : p = false) (right : q = false) :
      some order = none ↔ p = true ∨ q = true := by
    rw [left, right]
    simp
  cases a with
  | notANumber => cases b <;> exact iff_of_true rfl (.inl rfl)
  | infinity s =>
    cases b with
    | notANumber => cases s <;> exact iff_of_true rfl (.inr rfl)
    | infinity t | zero t | finite t => cases s <;> cases t <;> exact ordered rfl rfl
  | zero s =>
    cases b with
    | notANumber => exact iff_of_true rfl (.inr rfl)
    | infinity t | zero t | finite t => cases t <;> exact ordered rfl rfl
  | finite s =>
    cases b with
    | notANumber => cases s <;> exact iff_of_true rfl (.inr rfl)
    | infinity t | zero t | finite t => cases s <;> cases t <;> exact ordered rfl rfl

theorem swap_order? (a b : Float) : (order? a b).map Ordering.swap = order? b a :=
  swap_compare ..

theorem order?_eq_none_iff {a b : Float} :
    order? a b = none ↔ a.isNaN = true ∨ b.isNaN = true :=
  compare_eq_none_iff ..

theorem lt_iff {a b : Float} : a < b ↔ order? a b = some .lt := by
  change a.lt b = true ↔ _
  rw [Float.lt, decide_eq_true_iff]
  change a.toModel.unpack.lt b.toModel.unpack = true ↔ _
  rw [UnpackedFloat.lt, beq_iff_eq]
  rfl

theorem le_iff {a b : Float} : a ≤ b ↔ ∃ order, order? a b = some order ∧ order.isLE = true := by
  change a.le b = true ↔ _
  rw [Float.le, decide_eq_true_iff]
  change a.toModel.unpack.le b.toModel.unpack = true ↔ _
  rw [UnpackedFloat.le, Option.any_eq_true]
  rfl

/-- A number that is not at most another is above it, unless one of them is not a number. -/
theorem not_le_iff {a b : Float} : ¬a ≤ b ↔ b < a ∨ a.isNaN = true ∨ b.isNaN = true := by
  rw [le_iff, lt_iff, ← order?_eq_none_iff, ← swap_order? a b]
  cases order? a b with
  | none => simp
  | some order => cases order <;> simp

theorem not_lt_iff {a b : Float} : ¬a < b ↔ b ≤ a ∨ a.isNaN = true ∨ b.isNaN = true := by
  rw [le_iff, lt_iff, ← order?_eq_none_iff, ← swap_order? a b]
  cases order? a b with
  | none => simp
  | some order => cases order <;> simp

theorem not_le_zero_iff (a : Float) : ¬a ≤ 0.0 ↔ 0.0 < a ∨ a.isNaN = true := by
  have zero : (0.0 : Float).isNaN = false := by decide +kernel
  rw [not_le_iff, zero, Bool.false_eq_true, or_false]

theorem not_lt_zero_iff (a : Float) : ¬a < 0.0 ↔ 0.0 ≤ a ∨ a.isNaN = true := by
  have zero : (0.0 : Float).isNaN = false := by decide +kernel
  rw [not_lt_iff, zero, Bool.false_eq_true, or_false]

theorem not_le_of_isNaN {a b : Float} (nan : a.isNaN = true) : ¬a ≤ b :=
  not_le_iff.mpr (.inr (.inl nan))

end DetectorSim.Decimal
