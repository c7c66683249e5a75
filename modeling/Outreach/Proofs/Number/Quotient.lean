import Mathlib.Algebra.Order.Field.Power
import Mathlib.Data.Rat.Floor
import Mathlib.Tactic.FieldSimp
import Mathlib.Tactic.Linarith
import Mathlib.Tactic.Positivity
import Outreach.Number.Binary64

/-! Doubles as rational numbers, and quotients that are rounded twice: to a double, and then up to a
whole number. As long as the dividend has no more places than a double keeps, nothing is lost on the
way. -/

namespace Outreach

@[simp] theorem powerOfTwo_cast (n : Nat) : ((powerOfTwo n : Nat) : ℚ) = 2 ^ n :=
  Nat.cast_pow 2 n

theorem powerOfTwo_pos (n : Nat) : 0 < powerOfTwo n := Nat.pow_pos (by decide)

namespace Binary64

/-! ### The number that a double stands for -/

/-- The exact value of a finite double. -/
def value : Binary64 → ℚ
  | finite negative significand exponent _ => signedSignificand negative significand * 2 ^ exponent
  | _ => 0

theorem zpow_of_neg {base : ℚ} {e : Int} (below : e < 0) : base ^ e = 1 / base ^ e.natAbs := by
  obtain ⟨k, rfl⟩ := Int.eq_negSucc_of_lt_zero below
  rw [zpow_negSucc, Int.natAbs_negSucc, one_div]

theorem zpow_of_nonneg {base : ℚ} {e : Int} (above : ¬ e < 0) :
    base ^ e = base ^ e.natAbs := by
  obtain ⟨k, rfl⟩ := Int.eq_ofNat_of_zero_le (Int.not_lt.mp above)
  exact zpow_natCast base k

section
variable {top bottom : Nat}

/-- A whole number that a number is rounded to: no other is nearer, and it is even where another is
as near. -/
structure IsNearest (x : ℚ) (whole : Nat) : Prop where
  below : 2 * (whole : ℚ) ≤ 2 * x + 1
  above : 2 * x ≤ 2 * whole + 1
  tied : whole % 2 = 1 → 2 * (whole : ℚ) < 2 * x + 1 ∧ 2 * x < 2 * whole + 1

/-- A quotient is rounded to the nearest whole number. -/
theorem IsNearest.roundQuotient_eq {whole : Nat} (positive : 0 < bottom)
    (nearest : IsNearest (top / bottom) whole) : roundQuotient top bottom = whole := by
  have wide : (0 : ℚ) < bottom := Nat.cast_pos.mpr positive
  have times : (top / bottom : ℚ) * bottom = top := div_mul_cancel₀ _ wide.ne'
  -- The bounds are said of whole numbers first.
  have below : 2 * (whole * bottom) ≤ 2 * top + bottom := by
    have scaled := mul_le_mul_of_nonneg_right nearest.below wide.le
    have moved : (2 * (whole * bottom) : ℚ) ≤ 2 * top + bottom := by linarith
    exact_mod_cast moved
  have above : 2 * top ≤ 2 * (whole * bottom) + bottom := by
    have scaled := mul_le_mul_of_nonneg_right nearest.above wide.le
    have moved : (2 * top : ℚ) ≤ 2 * (whole * bottom) + bottom := by linarith
    exact_mod_cast moved
  have tied (odd : whole % 2 = 1) :
      2 * (whole * bottom) < 2 * top + bottom ∧ 2 * top < 2 * (whole * bottom) + bottom := by
    obtain ⟨low, high⟩ := nearest.tied odd
    have scaledLow := mul_lt_mul_of_pos_right low wide
    have scaledHigh := mul_lt_mul_of_pos_right high wide
    have movedLow : (2 * (whole * bottom) : ℚ) < 2 * top + bottom := by linarith
    have movedHigh : (2 * top : ℚ) < 2 * (whole * bottom) + bottom := by linarith
    exact ⟨by exact_mod_cast movedLow, by exact_mod_cast movedHigh⟩
  have parts := Nat.div_add_mod top bottom
  have rest := Nat.mod_lt top positive
  rw [Nat.mul_comm] at parts
  have least : top / bottom ≤ whole := by
    have next : (whole + 1) * bottom = whole * bottom + bottom := Nat.succ_mul _ _
    have less : top / bottom * bottom < (whole + 1) * bottom := by omega
    exact Nat.le_of_lt_succ (Nat.lt_of_mul_lt_mul_right less)
  have most : whole ≤ top / bottom + 1 := by
    have next : (top / bottom + 2) * bottom = top / bottom * bottom + 2 * bottom := Nat.add_mul ..
    have less : whole * bottom < (top / bottom + 2) * bottom := by omega
    exact Nat.le_of_lt_succ (Nat.lt_of_mul_lt_mul_right less)
  unfold roundQuotient
  dsimp only
  rcases Nat.eq_or_lt_of_le least with down | up
  · rw [← down] at above tied
    rw [if_neg (by omega), down]
  · obtain rfl : whole = top / bottom + 1 := by omega
    have next : (top / bottom + 1) * bottom = top / bottom * bottom + bottom := Nat.succ_mul _ _
    rw [next] at below tied
    rw [if_pos (by omega)]

end

section
variable {n s : Nat}

/-- How many more places a quotient of numbers gets, so that its significand fills a double. -/
structure IsFilled (n s k : Nat) : Prop where
  least : powerOfTwo 52 * s ≤ n * powerOfTwo k
  most : n * powerOfTwo k < powerOfTwo 53 * s

variable {k : Nat}

/-- The dividend has so few places that the error of the quotient is below one part in the
divisor. -/
theorem IsFilled.fine (filled : IsFilled n s k) (few : n < powerOfTwo 53) :
    s < 2 * powerOfTwo k := by
  have scaled : powerOfTwo 52 * s < powerOfTwo 52 * (2 * powerOfTwo k) :=
    calc powerOfTwo 52 * s ≤ n * powerOfTwo k := filled.least
      _ < powerOfTwo 53 * powerOfTwo k := Nat.mul_lt_mul_of_pos_right few (powerOfTwo_pos k)
      _ = powerOfTwo 52 * (2 * powerOfTwo k) := by
          rw [powerOfTwo_succ 52]
          ring
  exact Nat.lt_of_mul_lt_mul_left scaled

end

end Binary64

end Outreach
