import Mathlib.Tactic.ByContra

/- A length that grows by the factor a / b in a machine word of w values: the product wraps
   around before it is divided. -/
namespace WrappedGrowth

def grown (w a b m : Nat) : Nat := m * a % w / b

variable {w a b m : Nat}

theorem grown_mul_lt (some : 0 < w) : grown w a b m * b < w :=
  Nat.lt_of_le_of_lt (Nat.div_mul_le_self _ b) (Nat.mod_lt _ some)

theorem le_grown_of_lt (positive : 0 < b) (factor : b ≤ a) (small : m * a < w) :
    m ≤ grown w a b m := by
  rw [grown, Nat.mod_eq_of_lt small, Nat.le_div_iff_mul_le positive]
  exact Nat.mul_le_mul_left m factor

/-- With a factor of 2 at most, what is left of a product that wraps around is less than m. -/
theorem grown_lt_of_wrap (positive : 0 < b) (factor : a ≤ 2 * b) (wraps : w ≤ m * a)
    (some : 0 < w) : grown w a b m < m := by
  rw [grown, Nat.div_lt_iff_lt_mul positive]
  have below : m * a % w < w := Nat.mod_lt _ some
  have whole : w + m * a % w ≤ m * a := by
    have once : 1 ≤ m * a / w := (Nat.one_le_div_iff some).mpr wraps
    have cut := Nat.div_add_mod (m * a) w
    have part := Nat.mul_le_mul_left w once
    omega
  have twice : m * a ≤ 2 * (m * b) := by
    have scaled := Nat.mul_le_mul_left m factor
    rwa [Nat.mul_left_comm] at scaled
  omega

theorem le_grown_iff (positive : 0 < b) (least : b ≤ a) (most : a ≤ 2 * b) (some : 0 < w) :
    m ≤ grown w a b m ↔ m * a < w := by
  constructor
  · intro enough
    by_contra wraps
    have less := grown_lt_of_wrap positive most (Nat.le_of_not_lt wraps) some
    omega
  · exact le_grown_of_lt positive least

end WrappedGrowth
