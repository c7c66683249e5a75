import Outreach.Number.Shortest
import Outreach.Proofs.Number.Compared

/-! Numbers that are rounded to a double: those in its neighbourhood, whether they come as a quotient
or as a decimal. The binary logarithms of the two parts of a quotient place it up to one, one
comparison settles where, and there the significand of the double is left. The number that a double
has is in its neighbourhood, and so is the shortest decimal that is written for it. -/

namespace Outreach

namespace Binary64

/-! ### Quotients that a double holds -/

theorem abs_signedSignificand (negative : Bool) (n : Nat) :
    |((signedSignificand negative n : Int) : ℚ)| = n := by
  cases negative <;> simp [signedSignificand]

section
variable {n s : Nat}

theorem descale_positive (positive : 0 < s) (k : Int) : 0 < (descale n s k).2 := by
  unfold descale
  split
  next => exact positive
  next => exact Nat.mul_pos positive (powerOfTwo_pos _)

/-- The quotient is divided by the power of two. -/
theorem descale_eq (n s : Nat) (k : Int) :
    ((descale n s k).1 : ℚ) * (s * 2 ^ k) = n * (descale n s k).2 := by
  unfold descale
  split
  next below =>
    have unit : (2 : ℚ) ^ k.natAbs ≠ 0 := by positivity
    rw [zpow_of_neg below]
    push_cast
    field_simp
    rw [powerOfTwo_cast]
    ring
  next above =>
    rw [zpow_of_nonneg above]
    push_cast
    rw [powerOfTwo_cast]

/-- The place of the last of as many binary places as a double keeps. -/
structure IsPlaced (v : ℚ) (k : Int) : Prop where
  least : 2 ^ (52 + k) ≤ v
  most : v < 2 ^ (53 + k)

theorem IsPlaced.unique {v : ℚ} {k l : Int} (first : IsPlaced v k) (second : IsPlaced v l) :
    k = l := by
  have upper : 52 + k < 53 + l :=
    (zpow_lt_zpow_iff_right₀ one_lt_two).mp (first.least.trans_lt second.most)
  have lower : 52 + l < 53 + k :=
    (zpow_lt_zpow_iff_right₀ one_lt_two).mp (second.least.trans_lt first.most)
  omega

/-- The logarithms of the two numbers place their quotient up to one. -/
theorem log2_quotient (some : n ≠ 0) (positive : s ≠ 0) :
    (2 : ℚ) ^ ((n.log2 : Int) - s.log2 - 1) ≤ n / s ∧
      (n / s : ℚ) < 2 ^ ((n.log2 : Int) - s.log2 + 1) := by
  have wide : (0 : ℚ) < s := Nat.cast_pos.mpr (Nat.pos_of_ne_zero positive)
  have low (m : Nat) (some : m ≠ 0) : (2 : ℚ) ^ (m.log2 : Int) ≤ m := by
    rw [zpow_natCast]
    exact_mod_cast Nat.log2_self_le some
  have high (m : Nat) : (m : ℚ) < 2 ^ ((m.log2 : Int) + 1) := by
    have below : m < 2 ^ (m.log2 + 1) := Nat.lt_log2_self
    exact_mod_cast below
  constructor
  · rw [le_div_iff₀ wide]
    calc (2 : ℚ) ^ ((n.log2 : Int) - s.log2 - 1) * s
        ≤ 2 ^ ((n.log2 : Int) - s.log2 - 1) * 2 ^ ((s.log2 : Int) + 1) := by
          have := (high s).le
          gcongr
      _ = 2 ^ (n.log2 : Int) := by
          rw [← zpow_add₀ two_ne_zero]
          congr 1
          omega
      _ ≤ n := low n some
  · rw [div_lt_iff₀ wide]
    calc (n : ℚ) < 2 ^ ((n.log2 : Int) + 1) := high n
      _ = 2 ^ ((n.log2 : Int) - s.log2 + 1) * 2 ^ (s.log2 : Int) := by
          rw [← zpow_add₀ two_ne_zero]
          congr 1
          omega
      _ ≤ 2 ^ ((n.log2 : Int) - s.log2 + 1) * s := by
          have := low s positive
          gcongr

theorem exists_lastPlace (some : n ≠ 0) (positive : s ≠ 0) :
    ∃ k, lastPlace n s = max k leastExponent ∧ IsPlaced (n / s) k := by
  obtain ⟨lower, upper⟩ := log2_quotient some positive
  have wide : (0 : ℚ) < s := Nat.cast_pos.mpr (Nat.pos_of_ne_zero positive)
  obtain ⟨guess, guessed⟩ : ∃ guess : Int, (n.log2 : Int) - s.log2 - 52 = guess := ⟨_, rfl⟩
  have bottom := Nat.cast_pos (α := ℚ) |>.mpr
    (descale_positive (n := n) (Nat.pos_of_ne_zero positive) guess)
  -- The definition makes one comparison of whole numbers. It is said here of the quotient itself.
  have short_iff : (descale n s guess).1 < powerOfTwo 52 * (descale n s guess).2 ↔
      (n / s : ℚ) < 2 ^ (52 + guess) := by
    have unit : (0 : ℚ) < s * 2 ^ guess := by positivity
    have scaled := descale_eq n s guess
    rw [← Nat.cast_lt (α := ℚ), ← mul_lt_mul_iff_of_pos_right unit, scaled, Nat.cast_mul,
      powerOfTwo_cast, div_lt_iff₀ wide, zpow_add₀ two_ne_zero]
    have arranged : (2 : ℚ) ^ 52 * (descale n s guess).2 * (s * 2 ^ guess) =
        2 ^ (52 : Int) * 2 ^ guess * s * (descale n s guess).2 := by
      rw [show (2 : ℚ) ^ (52 : Int) = 2 ^ 52 from zpow_natCast 2 52]
      ring
    rw [arranged, mul_lt_mul_iff_of_pos_right bottom]
  unfold lastPlace
  dsimp only
  rw [guessed]
  split
  next short =>
    refine ⟨guess - 1, rfl, ?_, ?_⟩
    · calc (2 : ℚ) ^ (52 + (guess - 1)) = 2 ^ ((n.log2 : Int) - s.log2 - 1) := by
            congr 1
            omega
        _ ≤ n / s := lower
    · calc (n / s : ℚ) < 2 ^ (52 + guess) := short_iff.mp short
        _ = 2 ^ (53 + (guess - 1)) := by
            congr 1
            omega
  next enough =>
    refine ⟨guess, rfl, not_lt.mp (short_iff.not.mp enough), ?_⟩
    calc (n / s : ℚ) < 2 ^ ((n.log2 : Int) - s.log2 + 1) := upper
      _ = 2 ^ (53 + guess) := by
          congr 1
          omega

theorem IsCanonical.few {significand : Nat} {exponent : Int}
    (canonical : IsCanonical significand exponent) : (significand : ℚ) < 2 ^ 53 := by
  have few := canonical.1
  rw [← powerOfTwo_cast]
  exact_mod_cast few

/-- The quotient that is divided by the power of two, as one number. -/
theorem descale_div (positive : 0 < s) (k : Int) :
    ((descale n s k).1 : ℚ) / (descale n s k).2 = n / s / 2 ^ k := by
  have wide : (s : ℚ) ≠ 0 := Nat.cast_ne_zero.mpr positive.ne'
  have bottom : ((descale n s k).2 : ℚ) ≠ 0 :=
    Nat.cast_ne_zero.mpr (descale_positive positive k).ne'
  have unit : (2 : ℚ) ^ k ≠ 0 := by positivity
  rw [div_div, div_eq_div_iff bottom (mul_ne_zero wide unit), descale_eq]

end

/-! ### Values that are rounded to a double -/

/-- How far down, in quarters of its last place, the values reach that are rounded to a double.
Below a power of two the doubles stand closer. -/
def quartersBelow (significand : Nat) (exponent : Int) : Nat :=
  if significand = powerOfTwo 52 ∧ leastExponent < exponent then 1 else 2

/-- A value that is rounded to a double, measured in quarters of the last place. The ends of the
interval belong to it if the significand is even. -/
structure RoundsTo (v : ℚ) (significand : Nat) (exponent : Int) : Prop where
  low : (4 * significand - quartersBelow significand exponent : ℚ) ≤ v / 2 ^ (exponent - 2)
  high : v / 2 ^ (exponent - 2) ≤ 4 * significand + 2
  tied : significand % 2 = 1 →
    (4 * significand - quartersBelow significand exponent : ℚ) < v / 2 ^ (exponent - 2) ∧
      v / 2 ^ (exponent - 2) < 4 * significand + 2

theorem quartersBelow_bounds (significand : Nat) (exponent : Int) :
    (1 : ℚ) ≤ quartersBelow significand exponent ∧
      (quartersBelow significand exponent : ℚ) ≤ 2 := by
  unfold quartersBelow
  split <;> norm_num

theorem quarter_pos (exponent : Int) : (0 : ℚ) < 2 ^ (exponent - 2) := by positivity

/-- A power of two in quarters of a last place. -/
theorem zpow_quarters (place exponent : Int) :
    (2 : ℚ) ^ (place + exponent) = 2 ^ (place + 2) * 2 ^ (exponent - 2) := by
  rw [← zpow_add₀ two_ne_zero]
  congr 1
  omega

section
variable {v : ℚ} {significand : Nat} {exponent : Int}

/-- A value that a double has is rounded to this double. -/
theorem RoundsTo.of_eq (same : v = significand * 2 ^ exponent) :
    RoundsTo v significand exponent := by
  have parts : v / 2 ^ (exponent - 2) = 4 * significand := by
    have shift := zpow_quarters 0 exponent
    rw [Int.zero_add] at shift
    rw [same, shift, div_eq_iff (quarter_pos exponent).ne']
    norm_num
    ring
  obtain ⟨least, -⟩ := quartersBelow_bounds significand exponent
  constructor
  · rw [parts]
    linarith
  · rw [parts]
    linarith
  · intro _
    rw [parts]
    constructor <;> linarith

namespace RoundsTo

/-- A value that is rounded to something is at least a quarter of a last place. -/
theorem least (some : significand ≠ 0) (rounds : RoundsTo v significand exponent) :
    (2 : ℚ) ^ (exponent - 2) ≤ v := by
  have one : (1 : ℚ) ≤ significand := Nat.one_le_cast.mpr (Nat.one_le_iff_ne_zero.mpr some)
  obtain ⟨-, few⟩ := quartersBelow_bounds significand exponent
  have low := rounds.low
  have quarter : 1 ≤ v / 2 ^ (exponent - 2) := by linarith
  rwa [le_div_iff₀ (quarter_pos exponent), one_mul] at quarter

theorem most (canonical : IsCanonical significand exponent)
    (rounds : RoundsTo v significand exponent) : v < 2 ^ (53 + exponent) := by
  have few : (significand : ℚ) + 1 ≤ 2 ^ 53 := by
    rw [← powerOfTwo_cast]
    exact_mod_cast canonical.1
  have top : (2 : ℚ) ^ ((53 : Int) + 2) = 4 * 2 ^ 53 := by norm_num
  rw [zpow_quarters, ← div_lt_iff₀ (quarter_pos exponent), top]
  have high := rounds.high
  linarith

/-- The value has the place of the double, unless it lies below a power of two that it is rounded up
to. -/
theorem placed (canonical : IsCanonical significand exponent)
    (rounds : RoundsTo v significand exponent) :
    (2 ^ (52 + exponent) ≤ v ∨ exponent = leastExponent) ∨
    significand = powerOfTwo 52 ∧ leastExponent < exponent ∧ IsPlaced v (exponent - 1) := by
  by_cases large : 2 ^ (52 + exponent) ≤ v
  · exact .inl (.inl large)
  by_cases lowest : exponent = leastExponent
  · exact .inl (.inr lowest)
  obtain ⟨-, least, -, full⟩ := canonical
  have full := full.resolve_right lowest
  have above : leastExponent < exponent := by omega
  have low := rounds.low
  have top : (2 : ℚ) ^ ((52 : Int) + 2) = 4 * 2 ^ 52 := by norm_num
  have below : v / 2 ^ (exponent - 2) < 4 * 2 ^ 52 := by
    rw [zpow_quarters, top, ← le_div_iff₀ (quarter_pos exponent)] at large
    exact not_le.mp large
  have same : significand = powerOfTwo 52 := by
    obtain ⟨-, few⟩ := quartersBelow_bounds significand exponent
    refine Nat.le_antisymm (Nat.le_of_lt_succ ?_) full
    have less : (significand : ℚ) < 2 ^ 52 + 1 := by linarith
    rw [← powerOfTwo_cast] at less
    exact_mod_cast less
  refine .inr ⟨same, above, ?_, ?_⟩
  · have quarter : quartersBelow significand exponent = 1 := if_pos ⟨same, above⟩
    have shift : 52 + (exponent - 1) = 51 + exponent := by omega
    have half : (2 : ℚ) ^ ((51 : Int) + 2) = 2 * 2 ^ 52 := by norm_num
    rw [quarter, same, powerOfTwo_cast, Nat.cast_one] at low
    rw [shift, zpow_quarters, half, ← le_div_iff₀ (quarter_pos exponent)]
    linarith
  · have shift : 53 + (exponent - 1) = 52 + exponent := by omega
    rw [shift]
    exact not_le.mp large

theorem nearest (rounds : RoundsTo v significand exponent) :
    IsNearest (v / 2 ^ exponent) significand := by
  have parts : v / 2 ^ exponent = v / 2 ^ (exponent - 2) / 4 := by
    have shift := zpow_quarters 0 exponent
    rw [Int.zero_add] at shift
    rw [shift, div_div, mul_comm]
    norm_num
  obtain ⟨low, high, tied⟩ := rounds
  obtain ⟨-, few⟩ := quartersBelow_bounds significand exponent
  constructor
  · linarith
  · linarith
  · intro odd
    obtain ⟨low, high⟩ := tied odd
    constructor <;> linarith

/-- A value below a power of two is rounded up to it where the power has all places of the next
exponent. -/
theorem nearest_full (rounds : RoundsTo v significand exponent)
    (full : significand = powerOfTwo 52) (above : leastExponent < exponent)
    (placed : IsPlaced v (exponent - 1)) :
    IsNearest (v / 2 ^ (exponent - 1)) (powerOfTwo 53) := by
  have parts : v / 2 ^ (exponent - 1) = v / 2 ^ (exponent - 2) / 2 := by
    have shift := zpow_quarters (-1) exponent
    have place : -1 + exponent = exponent - 1 := by omega
    rw [place] at shift
    rw [shift, div_div, mul_comm]
    norm_num
  have low := rounds.low
  have quarter : quartersBelow significand exponent = 1 := if_pos ⟨full, above⟩
  rw [quarter, full, powerOfTwo_cast, Nat.cast_one] at low
  have most := placed.most
  rw [zpow_add₀ two_ne_zero, ← div_lt_iff₀ (by positivity), parts] at most
  have top : (2 : ℚ) ^ (53 : Int) = 2 ^ 53 := by norm_num
  rw [top] at most
  constructor
  · rw [parts, powerOfTwo_cast]
    linarith
  · rw [parts, powerOfTwo_cast]
    linarith
  · intro odd
    exact absurd odd (by decide)

/-- A quotient of such a value is rounded to the double. -/
theorem ofQuotient_eq {n s : Nat} (canonical : IsCanonical significand exponent)
    (some : significand ≠ 0) (positive : 0 < s) (rounds : RoundsTo (n / s) significand exponent)
    (negative : Bool) :
    ofQuotient negative n s = finite negative significand exponent canonical := by
  have nonzero : n ≠ 0 := by
    rintro rfl
    have least := rounds.least some
    rw [Nat.cast_zero, zero_div] at least
    exact absurd least (not_le.mpr (quarter_pos exponent))
  obtain ⟨k, place, filled⟩ := exists_lastPlace nonzero positive.ne'
  unfold ofQuotient
  rw [if_neg nonzero]
  dsimp only
  rcases rounds.placed canonical with here | ⟨full, above, lower⟩
  · have most := rounds.most canonical
    have found : lastPlace n s = exponent := by
      rw [place]
      obtain ⟨-, least, -⟩ := canonical
      rcases here with large | lowest
      · rw [filled.unique ⟨large, most⟩]
        exact max_eq_left least
      · -- The quotient lies below all that fills the places, so the least exponent is taken.
        have below : 52 + k < 53 + exponent :=
          (zpow_lt_zpow_iff_right₀ one_lt_two).mp (filled.least.trans_lt most)
        omega
    have rounded : roundQuotient (descale n s exponent).1 (descale n s exponent).2 =
        significand := by
      refine IsNearest.roundQuotient_eq (descale_positive positive exponent) ?_
      rw [descale_div positive]
      exact rounds.nearest
    have short : significand ≠ powerOfTwo precision := canonical.1.ne
    rw [found, rounded, if_neg short, ofParts, dif_pos canonical]
  · have found : lastPlace n s = exponent - 1 := by
      rw [place, filled.unique lower]
      exact max_eq_left (by omega)
    have rounded : roundQuotient (descale n s (exponent - 1)).1 (descale n s (exponent - 1)).2 =
        powerOfTwo precision := by
      refine IsNearest.roundQuotient_eq (descale_positive positive _) ?_
      rw [descale_div positive]
      exact rounds.nearest_full full above lower
    subst full
    rw [found, rounded, if_pos rfl, Int.sub_add_cancel, ofParts, dif_pos canonical]

end RoundsTo

/-! ### Decimals that are rounded to a double -/

/-- What is rounded to a finite double is below the power of two behind the greatest double, and not
far below the least double. -/
theorem RoundsTo.bounds (canonical : IsCanonical significand exponent) (some : significand ≠ 0)
    (rounds : RoundsTo v significand exponent) :
    (2 : ℚ) ^ (leastExponent - 2) ≤ v ∧ v < 2 ^ (53 + greatestExponent) := by
  have low := rounds.least some
  have high := rounds.most canonical
  obtain ⟨-, least, greatest, -⟩ := canonical
  constructor
  · exact (zpow_le_zpow_right₀ one_le_two (by omega)).trans low
  · exact high.trans_le (zpow_le_zpow_right₀ one_le_two (by omega))

end

/-- Four hundred decimal places are more than doubles have binary ones. -/
theorem places_le : (2 : ℚ) ^ (1200 : Int) ≤ 10 ^ (400 : Int) := by
  calc (2 : ℚ) ^ (1200 : Int) = 2 ^ (3 * 400) := zpow_natCast 2 1200
    _ = (2 ^ 3) ^ 400 := pow_mul 2 3 400
    _ ≤ 10 ^ 400 := pow_le_pow_left₀ (by norm_num) (by norm_num) 400
    _ = 10 ^ (400 : Int) := (zpow_natCast 10 400).symm

/-- An exponent beyond four hundred is beyond all doubles. -/
theorem decimal_large {coefficient : Nat} {exponent : Int} (some : coefficient ≠ 0)
    (large : 400 < exponent) : (2 : ℚ) ^ (53 + greatestExponent) ≤ coefficient * 10 ^ exponent := by
  have one : (1 : ℚ) ≤ coefficient := Nat.one_le_cast.mpr (Nat.one_le_iff_ne_zero.mpr some)
  calc (2 : ℚ) ^ (53 + greatestExponent) ≤ 2 ^ (1200 : Int) :=
        zpow_le_zpow_right₀ one_le_two (by decide)
    _ ≤ 10 ^ (400 : Int) := places_le
    _ ≤ 10 ^ exponent := zpow_le_zpow_right₀ (by norm_num) large.le
    _ = 1 * 10 ^ exponent := (one_mul _).symm
    _ ≤ coefficient * 10 ^ exponent := by gcongr

/-- A coefficient takes a decimal place for three binary ones, so that a number may be known to be
below all doubles by its length. -/
theorem decimal_small {coefficient : Nat} {exponent : Int}
    (small : exponent + (coefficient.log2 / 3 + 1 : Nat) < -400) :
    (coefficient * 10 ^ exponent : ℚ) < 2 ^ (leastExponent - 2) := by
  have short : (coefficient : ℚ) ≤ 10 ^ ((coefficient.log2 / 3 + 1 : Nat) : Int) := by
    have below : coefficient < 2 ^ (coefficient.log2 + 1) := Nat.lt_log2_self
    have blocks : 2 ^ (coefficient.log2 + 1) ≤ 2 ^ (3 * (coefficient.log2 / 3 + 1)) :=
      Nat.pow_le_pow_right (by decide) (by omega)
    have eights : 2 ^ (3 * (coefficient.log2 / 3 + 1)) ≤ 10 ^ (coefficient.log2 / 3 + 1) := by
      rw [Nat.pow_mul]
      exact Nat.pow_le_pow_left (by decide) _
    have chain := (below.le.trans blocks).trans eights
    rw [zpow_natCast]
    exact_mod_cast chain
  have ten : (10 : ℚ) ≠ 0 := by norm_num
  calc (coefficient : ℚ) * 10 ^ exponent
      ≤ 10 ^ ((coefficient.log2 / 3 + 1 : Nat) : Int) * 10 ^ exponent := by gcongr
    _ = 10 ^ (exponent + (coefficient.log2 / 3 + 1 : Nat)) := by
        rw [← zpow_add₀ ten, Int.add_comm]
    _ ≤ 10 ^ (-400 : Int) := zpow_le_zpow_right₀ (by norm_num) small.le
    _ ≤ 2 ^ (-1200 : Int) := by
        rw [zpow_neg, zpow_neg]
        exact inv_anti₀ (by positivity) places_le
    _ < 2 ^ (leastExponent - 2) := zpow_lt_zpow_right₀ one_lt_two (by decide)

/-- A decimal is read as the double that its value is rounded to. -/
theorem RoundsTo.ofDecimal_eq {coefficient significand : Nat} {exponent place : Int}
    (canonical : IsCanonical significand place) (some : significand ≠ 0)
    (rounds : RoundsTo (coefficient * 10 ^ exponent) significand place) (negative : Bool) :
    ofDecimal negative coefficient exponent = finite negative significand place canonical := by
  obtain ⟨least, most⟩ := rounds.bounds canonical some
  have present : coefficient ≠ 0 := by
    rintro rfl
    rw [Nat.cast_zero, zero_mul] at least
    exact absurd least (not_le.mpr (quarter_pos leastExponent))
  have near : ¬ 400 < exponent := fun large =>
    absurd (decimal_large present large) (not_le.mpr most)
  have wide : ¬ exponent + (coefficient.log2 / 3 + 1 : Nat) < -400 := fun small =>
    absurd (decimal_small small) (not_lt.mpr least)
  unfold ofDecimal
  rw [if_neg present, if_neg near, if_neg wide]
  split
  next below =>
    have positive : 0 < powerOfTen exponent.natAbs := Nat.pow_pos (by decide)
    refine RoundsTo.ofQuotient_eq canonical some positive ?_ negative
    rwa [powerOfTen_cast, ← mul_one_div, ← zpow_of_neg below]
  next above =>
    refine RoundsTo.ofQuotient_eq canonical some Nat.one_pos ?_ negative
    rwa [Nat.cast_mul, powerOfTen_cast, ← zpow_of_nonneg above, Nat.cast_one, div_one]

/-- The double nearest to a decimal has its value if any double has. -/
theorem value_ofDecimal {negative : Bool} {coefficient : Nat} {exponent : Int} {x : Binary64}
    (same : x.value = (Decimal.finite negative coefficient exponent).value) :
    (ofDecimal negative coefficient exponent).isFinite ∧
      (ofDecimal negative coefficient exponent).value = x.value := by
  by_cases none : coefficient = 0
  · have zero : ofDecimal negative coefficient exponent = zero negative := if_pos none
    rw [zero, same, none, Decimal.value_none]
    exact ⟨rfl, by cases negative <;> simp [Binary64.zero, value, signedSignificand]⟩
  · have size : |(Decimal.finite negative coefficient exponent).value| =
        coefficient * 10 ^ exponent := by
      have unit : (0 : ℚ) < 10 ^ exponent := by positivity
      rw [Decimal.value, abs_mul, abs_signedSignificand, abs_of_pos unit]
    have filled : (coefficient * 10 ^ exponent : ℚ) ≠ 0 :=
      mul_ne_zero (Nat.cast_ne_zero.mpr none) (by positivity)
    cases x with
    | infinite | nan =>
      rw [← same] at size
      change |(0 : ℚ)| = _ at size
      rw [abs_zero] at size
      exact absurd size.symm filled
    | finite sign significand place canonical =>
      have unit : (0 : ℚ) < 2 ^ place := by positivity
      rw [← same, value, abs_mul, abs_signedSignificand, abs_of_pos unit] at size
      have some : significand ≠ 0 := by
        rintro rfl
        rw [Nat.cast_zero, zero_mul] at size
        exact filled size.symm
      rw [(RoundsTo.of_eq size.symm).ofDecimal_eq canonical some negative, same]
      refine ⟨rfl, ?_⟩
      cases negative <;> simp [value, Decimal.value, signedSignificand, size]

/-! ### The shortest decimal -/

/-- How many points of the neighbourhood of a double make a quarter of its last place. -/
def pointsPerQuarter (exponent : Int) : Nat :=
  if exponent - 2 < 0 then powerOfFive (exponent - 2).natAbs else powerOfTwo (exponent - 2).natAbs

theorem pointsPerQuarter_pos (exponent : Int) : 0 < pointsPerQuarter exponent := by
  unfold pointsPerQuarter
  split
  next => exact Nat.pow_pos (by decide)
  next => exact powerOfTwo_pos _

/-- The points are counted in units of a power of ten. -/
theorem quarter_points (exponent : Int) :
    (pointsPerQuarter exponent : ℚ) * 10 ^ min (exponent - 2) 0 = 2 ^ (exponent - 2) := by
  unfold pointsPerQuarter
  split
  next below =>
    have ten : (10 : ℚ) = 5 * 2 := by norm_num
    have five : (5 : ℚ) ^ (exponent - 2) = 1 / 5 ^ (exponent - 2).natAbs := zpow_of_neg below
    have some : (5 : ℚ) ^ (exponent - 2).natAbs ≠ 0 := by positivity
    rw [min_eq_left below.le, powerOfFive_cast, ten, mul_zpow, five, ← mul_assoc, mul_one_div,
      div_self some, one_mul]
  next above =>
    rw [min_eq_right (Int.not_lt.mp above), powerOfTwo_cast, zpow_zero, mul_one,
      zpow_of_nonneg above]

theorem neighbourhood_eq (significand : Nat) (exponent : Int) :
    neighbourhood significand exponent =
      { low := (4 * significand - quartersBelow significand exponent) * pointsPerQuarter exponent
        centre := 4 * significand * pointsPerQuarter exponent
        high := (4 * significand + 2) * pointsPerQuarter exponent
        exponent := min (exponent - 2) 0
        closed := significand % 2 = 0 } := rfl

section
variable {significand point : Nat} {exponent : Int}

/-- Whatever lies in the neighbourhood of a double is rounded to the double. -/
theorem rounds_of_contains (some : significand ≠ 0)
    (inside : (neighbourhood significand exponent).contains point = true) :
    RoundsTo (point * 10 ^ (neighbourhood significand exponent).exponent) significand exponent := by
  have ten : (10 : ℚ) ^ min (exponent - 2) 0 ≠ 0 := by positivity
  have wide : (0 : ℚ) < pointsPerQuarter exponent :=
    Nat.cast_pos.mpr (pointsPerQuarter_pos exponent)
  have measured : (point * 10 ^ min (exponent - 2) 0 : ℚ) / 2 ^ (exponent - 2) =
      point / pointsPerQuarter exponent := by
    rw [← quarter_points, mul_div_mul_right _ _ ten]
  obtain ⟨-, few⟩ := quartersBelow_bounds significand exponent
  have few : quartersBelow significand exponent ≤ 2 := by exact_mod_cast few
  have below : ((4 * significand - quartersBelow significand exponent : Nat) : ℚ) =
      4 * significand - quartersBelow significand exponent := by
    rw [Nat.cast_sub (by omega), Nat.cast_mul, Nat.cast_ofNat]
  have above : ((4 * significand + 2 : Nat) : ℚ) = 4 * significand + 2 := by
    rw [Nat.cast_add, Nat.cast_mul, Nat.cast_ofNat, Nat.cast_ofNat]
  show RoundsTo (point * 10 ^ min (exponent - 2) 0) _ _
  rw [neighbourhood_eq, Neighbourhood.contains] at inside
  by_cases even : significand % 2 = 0
  · simp only [even, decide_true, if_true, Bool.and_eq_true, decide_eq_true_eq] at inside
    constructor
    · rw [measured, ← below, le_div_iff₀ wide]
      exact_mod_cast inside.1
    · rw [measured, ← above, div_le_iff₀ wide]
      exact_mod_cast inside.2
    · intro odd
      omega
  · simp only [even, decide_false, Bool.false_eq_true, if_false, Bool.and_eq_true,
      decide_eq_true_eq] at inside
    have strict : (4 * significand - quartersBelow significand exponent : ℚ) <
        point / pointsPerQuarter exponent ∧
        (point / pointsPerQuarter exponent : ℚ) < 4 * significand + 2 := by
      rw [← below, ← above, lt_div_iff₀ wide, div_lt_iff₀ wide]
      exact ⟨by exact_mod_cast inside.1, by exact_mod_cast inside.2⟩
    rw [← measured] at strict
    exact ⟨strict.1.le, strict.2.le, fun _ => strict⟩

theorem contains_centre (some : significand ≠ 0) (exponent : Int) :
    (neighbourhood significand exponent).contains (neighbourhood significand exponent).centre =
      true := by
  have positive := pointsPerQuarter_pos exponent
  obtain ⟨one, -⟩ := quartersBelow_bounds significand exponent
  have one : 1 ≤ quartersBelow significand exponent := by exact_mod_cast one
  have low : (4 * significand - quartersBelow significand exponent) * pointsPerQuarter exponent <
      4 * significand * pointsPerQuarter exponent :=
    Nat.mul_lt_mul_of_pos_right (by omega) positive
  have high : 4 * significand * pointsPerQuarter exponent <
      (4 * significand + 2) * pointsPerQuarter exponent :=
    Nat.mul_lt_mul_of_pos_right (by omega) positive
  rw [neighbourhood_eq, Neighbourhood.contains]
  simp [low, high, low.le, high.le]

namespace Neighbourhood

variable {n : Neighbourhood}

theorem contains_onGrid {step : Nat} (found : n.onGrid? step = some point) :
    n.contains (point * step) = true := by
  unfold onGrid? at found
  dsimp only at found
  split at found
  next first =>
    split at found
    next second =>
      split at found
      next =>
        cases found
        exact first
      next =>
        cases found
        exact second
    next =>
      cases found
      exact first
  next =>
    split at found
    next second =>
      cases found
      exact second
    next => cases found

/-- What the search ends with lies in the neighbourhood. -/
theorem contains_search (centred : n.contains n.centre = true) (dropped : Nat) :
    ∃ places : Nat, (n.search dropped).2 = n.exponent + places ∧
      n.contains ((n.search dropped).1 * powerOfTen places) = true := by
  induction dropped with
  | zero =>
    refine ⟨0, (Int.add_zero _).symm, ?_⟩
    show n.contains (n.centre * 1) = true
    rwa [Nat.mul_one]
  | succ dropped ih =>
    unfold search
    split
    next point found => exact ⟨dropped + 1, rfl, contains_onGrid found⟩
    next => exact ih

end Neighbourhood

theorem stripZeros_value (fuel coefficient : Nat) (exponent : Int) :
    ((stripZeros fuel coefficient exponent).1 : ℚ) *
      10 ^ (stripZeros fuel coefficient exponent).2 = coefficient * 10 ^ exponent := by
  induction fuel generalizing coefficient exponent with
  | zero => rfl
  | succ fuel ih =>
    unfold stripZeros
    split
    next round =>
      have whole : ((coefficient / 10 : Nat) : ℚ) * 10 = coefficient := by
        exact_mod_cast Nat.div_mul_cancel (Nat.dvd_of_mod_eq_zero round.2)
      rw [ih, zpow_add_one₀ (by norm_num), mul_comm (10 ^ exponent), ← mul_assoc, whole]
    next => rfl

/-- The shortest digits of a double make a number that is rounded to the double. -/
theorem shortestDigits_rounds (some : significand ≠ 0) (exponent : Int) :
    ∃ coefficient power, shortestDigits significand exponent = (Text.ofNat coefficient, power) ∧
      RoundsTo (coefficient * 10 ^ power) significand exponent := by
  obtain ⟨places, place, inside⟩ := Neighbourhood.contains_search (contains_centre some exponent)
    (Decimal.length (neighbourhood significand exponent).centre - 1)
  refine ⟨_, _, rfl, ?_⟩
  have ten : (10 : ℚ) ≠ 0 := by norm_num
  have rounds := rounds_of_contains some inside
  rw [Nat.cast_mul, powerOfTen_cast, mul_assoc, ← zpow_natCast, ← zpow_add₀ ten, Int.add_comm,
    ← place] at rounds
  rwa [stripZeros_value]

end

end Binary64

end Outreach
