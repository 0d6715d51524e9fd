import Mathlib.Algebra.Order.Field.Rat
import Mathlib.Algebra.Order.Group.Unbundled.Abs
import Mathlib.Algebra.Order.Ring.Abs
import Mathlib.Tactic.FieldSimp
import Mathlib.Tactic.Ring
import Molly.Effect.Binary
import Molly.Effect.Ranking

/-! Decimals as rational numbers: differences and comparisons of decimals are exact. -/
namespace Effect.Decimal

def toRat (d : Decimal) : ℚ := (signed d.negative d.coefficient : ℤ) * (10 : ℚ) ^ d.exponent

theorem toRat_ofInt (n e : Int) : (ofInt n e).toRat = n * (10 : ℚ) ^ e := by
  have value : signed (n < 0) n.natAbs = n := by
    unfold signed
    by_cases below : n < 0
    · simp only [below, decide_true, if_true]
      omega
    · simp only [below, decide_false]
      rw [if_neg (by decide)]
      omega
  rw [toRat, ofInt, value]

/-- Counting in smaller units does not change a number. -/
theorem units_toRat (d : Decimal) {e : Int} (smaller : e ≤ d.exponent) : (d.units e : ℚ) * (10 : ℚ) ^ e = d.toRat := by
  have ten : (10 : ℚ) ≠ 0 := by norm_num
  obtain ⟨k, up⟩ : ∃ k : Nat, d.exponent = e + k := ⟨(d.exponent - e).toNat, by omega⟩
  have power : (10 : ℚ) ^ d.exponent = 10 ^ k * (10 : ℚ) ^ e := by
    rw [up, zpow_add₀ ten, zpow_natCast, mul_comm]
  have steps : (d.exponent - e).toNat = k := by omega
  rw [units, toRat, power, steps]
  cases d.negative <;> simp [signed] <;> ring

theorem toRat_sub (a b : Decimal) : (a.sub b).toRat = a.toRat - b.toRat := by
  rw [sub]
  rw [toRat_ofInt, ← units_toRat a (min_le_left _ _), ← units_toRat b (min_le_right a.exponent b.exponent)]
  push_cast
  ring

theorem toRat_abs (d : Decimal) : d.abs.toRat = |d.toRat| := by
  have positive : (0 : ℚ) < (10 : ℚ) ^ d.exponent := zpow_pos (by norm_num) _
  rw [abs, toRat, toRat, abs_mul, abs_of_pos positive]
  congr 1
  cases d.negative <;> simp [signed]

/-- `-d`. -/
def neg (d : Decimal) : Decimal := { d with negative := !d.negative }

theorem toRat_neg (d : Decimal) : d.neg.toRat = -d.toRat := by
  rw [neg, toRat, toRat]
  cases d.negative <;> simp [signed]

theorem le_iff (a b : Decimal) : a.le b = true ↔ a.toRat ≤ b.toRat := by
  have positive : (0 : ℚ) < (10 : ℚ) ^ min a.exponent b.exponent := zpow_pos (by norm_num) _
  rw [le]
  rw [decide_eq_true_iff, ← units_toRat a (min_le_left a.exponent b.exponent),
    ← units_toRat b (min_le_right a.exponent b.exponent), mul_le_mul_iff_left₀ positive]
  exact Int.cast_le.symm

/-- Decimals in the order of their values. -/
def precedence : Precedence Decimal where
  before a b := !b.le a
  irrefl a := by simp [(le_iff a a).mpr le_rfl]
  between := by
    intro a c b first
    simp only [Bool.not_eq_true', Bool.eq_false_iff, ne_eq, le_iff, not_le] at first ⊢
    rcases lt_or_ge a.toRat b.toRat with left | right
    · exact .inl left
    · exact .inr (lt_of_le_of_lt right first)
  asymm := by
    intro a b first
    simp only [Bool.not_eq_true', Bool.eq_false_iff, ne_eq, le_iff, not_le] at first
    simp [(le_iff a b).mpr first.le]

theorem precedence_iff {a b : Decimal} : precedence.before a b = true ↔ a.toRat < b.toRat := by
  rw [precedence, Bool.not_eq_true', Bool.eq_false_iff, ne_eq, le_iff, not_le]

end Effect.Decimal
