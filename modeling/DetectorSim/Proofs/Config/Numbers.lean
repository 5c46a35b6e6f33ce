import DetectorSim.Config.Kind
import DetectorSim.Proofs.Config.Layout
import DetectorSim.Proofs.Text.Trimming

/-! Numbers that were written as decimal digits are read back, as far as the wanted type holds
them. -/

namespace DetectorSim

namespace Decimal

theorem digit?_digitChar {d : Nat} (small : d < 10) : digit? d.digitChar = some d := by
  have single : ∀ d < 10, digit? d.digitChar = some d := by decide
  exact single d small

theorem readDigits_concat {limit value result : Nat} {beyond : IntegerFault} {cs : List Char}
    (read : readDigits limit beyond value cs = .ok result) {d : Nat} (digit : d < 10)
    (within : 10 * result + d ≤ limit) :
    readDigits limit beyond value (cs ++ [d.digitChar]) = .ok (10 * result + d) := by
  induction cs generalizing value with
  | nil =>
    cases read
    simp [readDigits, digit?_digitChar digit, Nat.not_lt.mpr within]
  | cons c rest ih =>
    rw [List.cons_append, readDigits]
    rw [readDigits] at read
    split at read
    · cases read
    · split at read
      · cases read
      · rename_i inside
        rw [if_neg inside]
        exact ih read

theorem readDigits_toDigits {limit n : Nat} (beyond : IntegerFault) (within : n ≤ limit) :
    readDigits limit beyond 0 (Nat.toDigits 10 n) = .ok n := by
  induction n using Nat.strongRecOn with
  | ind n ih =>
    by_cases single : n < 10
    · rw [Nat.toDigits_of_lt_base single]
      have none : readDigits limit beyond 0 [] = .ok 0 := rfl
      have read := readDigits_concat none single (by omega)
      rwa [Nat.mul_zero, Nat.zero_add] at read
    · rw [Nat.toDigits_of_base_le (by decide) (Nat.not_lt.mp single)]
      have front := ih (n / 10) (by omega) (by omega)
      have read := readDigits_concat front (Nat.mod_lt n (by decide)) (by omega)
      rwa [Nat.div_add_mod] at read

theorem readInteger_toDigits {low high : Int} {n : Nat} (within : (n : Int) ≤ high) :
    readInteger low high (Nat.toDigits 10 n) = .ok n := by
  have small : n ≤ high.toNat := by omega
  have read := readDigits_toDigits .tooLarge small
  have digits : ∀ c ∈ Nat.toDigits 10 n, c.isDigit = true := fun c member =>
    Nat.isDigit_of_mem_toDigits (by decide) (by decide) member
  cases cs : Nat.toDigits 10 n with
  | nil => exact absurd cs Nat.toDigits_ne_nil
  | cons c rest =>
    rw [cs] at read digits
    have first := digits c (List.mem_cons_self ..)
    have unsigned : c ≠ '+' ∧ ¬(c = '-' ∧ low < 0) := by
      constructor
      · rintro rfl
        cases first
      · rintro ⟨rfl, _⟩
        cases first
    rw [readInteger, if_neg unsigned.1, if_neg unsigned.2, read]
    rfl

end Decimal

namespace Config

theorem Value.endsBare_of_isDigit {c : Char} (digit : c.isDigit = true) :
    Value.endsBare c = false := by
  have alphanumeric : c.isAlphanum = true := Bool.or_eq_true_iff.mpr (.inr digit)
  have foreign {other : Char} (strange : other.isDigit = false) : (c == other) = false := by
    refine beq_eq_false_iff_ne.mpr ?_
    rintro rfl
    rw [digit] at strange
    cases strange
  rw [endsBare, isSeparator, isQuote, Text.isSpace_of_isAlphanum alphanumeric, foreign rfl,
    foreign rfl, foreign rfl, foreign rfl, foreign rfl]
  rfl

theorem Value.parse_plain {text : String} (nonempty : text.toList ≠ [])
    (plain : ∀ c ∈ text.toList, endsBare c = false) : parse text = .ok (.scalar text) := by
  have scanned := tokens_plain nonempty plain []
  rw [List.append_nil] at scanned
  rw [parse, scanned, tokens, Scan.finish, Token.ofSeen, List.reverse_reverse, String.ofList_toList]
  rfl

namespace Kind

theorem readInteger_eq_ok {type : IntegerType} {text : String} {n : Int}
    (read : Decimal.readInteger type.low type.high text.toList = .ok n) :
    readInteger type text =
      .ok ⟨n, Decimal.readInteger_bounds type.low_le_zero_le_high read⟩ := by
  rw [readInteger]
  split
  · rename_i m again
    cases read.symm.trans again
    rfl
  · rename_i fault again
    cases read.symm.trans again

theorem readText_toString (type : IntegerType) {n : Nat} (within : (n : Int) ≤ type.high) :
    readText (.integer type) (toString n) =
      .ok ⟨n, Int.le_trans type.low_le_zero_le_high.1 (Int.natCast_nonneg n), within⟩ := by
  have digits : (toString n).toList = Nat.toDigits 10 n := by
    rw [Nat.toString_eq_repr, Nat.toList_repr]
  have parsed : Value.parse (toString n) = .ok (.scalar (toString n)) := by
    refine Value.parse_plain ?_ ?_
    · rw [digits]
      exact Nat.toDigits_ne_nil
    · rw [digits]
      intro c member
      exact Value.endsBare_of_isDigit
        (Nat.isDigit_of_mem_toDigits (by decide) (by decide) member)
  rw [readText, parsed]
  refine readInteger_eq_ok ?_
  rw [digits]
  exact Decimal.readInteger_toDigits within

end Kind

end Config

end DetectorSim
