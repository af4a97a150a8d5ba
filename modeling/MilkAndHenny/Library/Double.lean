import Mathlib.Algebra.Group.Nat.Defs

/-! Whole numbers in binary floating point: what rounding to a number of digits keeps. -/

namespace MilkAndHenny.Library
variable {precision n : Nat} {left right : Nat}

/-- What the last of the digits that are kept counts. -/
def unitOf (precision n : Nat) : Nat := 2 ^ (n.log2 + 1 - precision)

/-- The nearest number with so many binary digits, and of two that are as near the one with the even last digit. -/
def roundDigits (precision n : Nat) : Nat :=
  let unit := unitOf precision n
  if 2 * (n % unit) < unit ∨ 2 * (n % unit) = unit ∧ n / unit % 2 = 0 then n / unit * unit else (n / unit + 1) * unit

theorem roundDigits_of_dvd (whole : unitOf precision n ∣ n) : roundDigits precision n = n := by
  have positive : 0 < unitOf precision n := Nat.two_pow_pos _
  simp only [roundDigits, Nat.mod_eq_zero_of_dvd whole, Nat.mul_zero, positive, true_or, if_true]
  exact Nat.div_mul_cancel whole

theorem roundDigits_exact (digits : 0 < precision) (small : n ≤ 2 ^ precision) : roundDigits precision n = n := by
  apply roundDigits_of_dvd
  obtain below | top := Nat.lt_or_eq_of_le small
  · by_cases zero : n = 0
    · exact zero ▸ Nat.dvd_zero _
    · have short := (Nat.log2_lt zero).mpr below
      rw [unitOf, Nat.sub_eq_zero_of_le short]
      exact Nat.one_dvd n
  · rw [unitOf, top, Nat.log2_two_pow]
    exact Nat.pow_dvd_pow 2 (by omega)

/-- No number is rounded down over a power of two. -/
theorem roundDigits_ge (digits : 0 < precision) (large : 2 ^ precision ≤ n) : 2 ^ precision ≤ roundDigits precision n := by
  have nonzero : n ≠ 0 := Nat.ne_of_gt (Nat.lt_of_lt_of_le (Nat.two_pow_pos _) large)
  have whole : unitOf precision n ∣ 2 ^ n.log2 := Nat.pow_dvd_pow 2 (by omega)
  have kept : 2 ^ precision ≤ n / unitOf precision n * unitOf precision n :=
    calc 2 ^ precision
      _ ≤ 2 ^ n.log2 := Nat.pow_le_pow_right (by decide) ((Nat.le_log2 nonzero).mpr large)
      _ = 2 ^ n.log2 / unitOf precision n * unitOf precision n := (Nat.div_mul_cancel whole).symm
      _ ≤ n / unitOf precision n * unitOf precision n :=
        Nat.mul_le_mul_right _ (Nat.div_le_div_right (Nat.log2_self_le nonzero))
  simp only [roundDigits]
  split
  · exact kept
  · exact Nat.le_trans kept (Nat.mul_le_mul_right _ (Nat.le_succ _))

/-- The sum of two numbers of 53 binary digits. -/
def addDouble (left right : Nat) : Nat := roundDigits 53 (left + right)

theorem addDouble_exact (small : left + right ≤ 2 ^ 53) : addDouble left right = left + right :=
  roundDigits_exact (by decide) small

theorem addDouble_ge (large : 2 ^ 53 ≤ left + right) : 2 ^ 53 ≤ addDouble left right :=
  roundDigits_ge (by decide) large

/-- A sum is over a limit when it should be, and what is not is exact, if the limit or the sum has 53 digits. -/
theorem addDouble_limit {limit : Nat} (exact : limit < 2 ^ 53 ∨ left + right ≤ 2 ^ 53) :
    (limit < addDouble left right ↔ limit < left + right) ∧ (left + right ≤ limit → addDouble left right = left + right) := by
  by_cases small : left + right ≤ 2 ^ 53
  · have same := addDouble_exact small
    exact ⟨by rw [same], fun _ => same⟩
  · have large := addDouble_ge (Nat.le_of_not_le small)
    omega

end MilkAndHenny.Library
