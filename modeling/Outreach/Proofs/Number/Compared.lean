import Mathlib.Order.Compare
import Outreach.Number.Decimal
import Outreach.Proofs.Number.Quotient
import Outreach.Store.Stamp

/-! Decimal numbers are compared by their exact values. The place of the leading digit settles most
comparisons, and it agrees with the values because digits fill their places. -/

namespace Outreach

@[simp] theorem powerOfTen_cast (n : Nat) : ((powerOfTen n : Nat) : ℚ) = 10 ^ n :=
  Nat.cast_pow 10 n

@[simp] theorem powerOfFive_cast (n : Nat) : ((powerOfFive n : Nat) : ℚ) = 5 ^ n :=
  Nat.cast_pow 5 n

namespace Decimal

/-- The exact value of a finite decimal. -/
def value : Decimal → ℚ
  | finite negative coefficient exponent =>
      Binary64.signedSignificand negative coefficient * 10 ^ exponent
  | _ => 0

/-! ### The place of the leading digit -/

theorem lt_length (n : Nat) : n < powerOfTen (length n) := by
  unfold length
  induction n using Nat.strongRecOn with
  | ind n ih =>
    rw [Text.digits]
    split
    next small => exact small
    next large =>
      have fewer := ih (n / 10) (by omega)
      rw [List.length_append, List.length_singleton, powerOfTen_succ]
      omega

theorem length_le {n : Nat} (some : n ≠ 0) : powerOfTen (length n) ≤ 10 * n := by
  unfold length
  induction n using Nat.strongRecOn with
  | ind n ih =>
    rw [Text.digits]
    split
    next small =>
      show powerOfTen 1 ≤ 10 * n
      have ten : powerOfTen 1 = 10 := rfl
      omega
    next large =>
      have fewer := ih (n / 10) (by omega) (by omega)
      rw [List.length_append, List.length_singleton, powerOfTen_succ]
      omega

/-! ### Positive magnitudes -/

theorem compare_scaled (a b : Nat) {unit : ℚ} (positive : 0 < unit) :
    compare ((a : ℚ) * unit) (b * unit) = compare a b := by
  rcases lt_trichotomy a b with less | same | greater
  · rw [compare_lt_iff_lt.mpr less, compare_lt_iff_lt]
    exact mul_lt_mul_of_pos_right (Nat.cast_lt.mpr less) positive
  · rw [same, compare_eq_iff_eq.mpr rfl, compare_eq_iff_eq.mpr rfl]
  · rw [compare_gt_iff_gt.mpr greater, compare_gt_iff_gt]
    exact mul_lt_mul_of_pos_right (Nat.cast_lt.mpr greater) positive

variable {c d : Nat} {e f : Int}

theorem lt_of_place (some : d ≠ 0) (lower : e + length c < f + length d) :
    (c : ℚ) * 10 ^ e < d * 10 ^ f := by
  have top : (c : ℚ) < 10 ^ length c := by
    rw [← powerOfTen_cast]
    exact_mod_cast lt_length c
  have bottom : (10 : ℚ) ^ length d ≤ 10 * d := by
    rw [← powerOfTen_cast]
    exact_mod_cast length_le some
  have ten : (0 : ℚ) < 10 := by norm_num
  calc (c : ℚ) * 10 ^ e < 10 ^ length c * 10 ^ e :=
        mul_lt_mul_of_pos_right top (zpow_pos ten e)
    _ = 10 ^ ((length c : Int) + e) := by rw [zpow_add₀ ten.ne', zpow_natCast]
    _ ≤ 10 ^ ((length d : Int) + f - 1) := zpow_le_zpow_right₀ (by norm_num) (by omega)
    _ = 10 ^ length d * 10 ^ f / 10 := by
        rw [zpow_sub_one₀ ten.ne', zpow_add₀ ten.ne', zpow_natCast, div_eq_mul_inv]
    _ ≤ 10 * d * 10 ^ f / 10 := by gcongr
    _ = d * 10 ^ f := by ring

theorem zpow_shift {low high : Int} (ordered : low ≤ high) (n : Nat) :
    (n : ℚ) * 10 ^ high = (n * powerOfTen (high - low).natAbs : Nat) * 10 ^ low := by
  have apart : high = ((high - low).natAbs : Int) + low := by omega
  rw [Nat.cast_mul, powerOfTen_cast, mul_assoc, ← zpow_natCast,
    ← zpow_add₀ (by norm_num : (10 : ℚ) ≠ 0), ← apart]

theorem comparePositive_eq (left : c ≠ 0) (right : d ≠ 0) :
    comparePositive c e d f = compare ((c : ℚ) * 10 ^ e) (d * 10 ^ f) := by
  have ten : (0 : ℚ) < 10 := by norm_num
  unfold comparePositive
  dsimp only
  split
  next lower => exact (compare_lt_iff_lt.mpr (lt_of_place right lower)).symm
  split
  next higher => exact (compare_gt_iff_gt.mpr (lt_of_place left higher)).symm
  split
  next ordered => rw [zpow_shift ordered, compare_scaled _ _ (zpow_pos ten f)]
  next ordered => rw [zpow_shift (by omega : e ≤ f), compare_scaled _ _ (zpow_pos ten e)]

/-! ### All finite numbers -/

theorem value_positive (e : Int) (some : c ≠ 0) : 0 < (finite false c e).value :=
  mul_pos (Int.cast_pos.mpr (Int.natCast_pos.mpr (Nat.pos_of_ne_zero some)))
    (zpow_pos (by norm_num) e)

theorem value_negative (e : Int) (some : c ≠ 0) : (finite true c e).value < 0 := by
  have positive := value_positive e some
  have opposite : (finite true c e).value = -(finite false c e).value := by
    simp [value, Binary64.signedSignificand]
  rw [opposite]
  exact neg_lt_zero.mpr positive

theorem value_none (negative : Bool) (e : Int) : (finite negative 0 e).value = 0 := by
  cases negative <;> simp [value, Binary64.signedSignificand]

theorem compareMagnitude_eq (left : c ≠ 0) (right : d ≠ 0) :
    compareMagnitude c e d f =
      compare (finite false c e).value (finite false d f).value := by
  rw [compareMagnitude, if_neg left, if_neg right, comparePositive_eq left right]
  rfl

theorem compare_opposites (x y : ℚ) : compare (-x) (-y) = compare y x := by
  rcases lt_trichotomy x y with less | same | greater
  · rw [compare_gt_iff_gt.mpr less, compare_gt_iff_gt]
    exact neg_lt_neg less
  · rw [same, compare_eq_iff_eq.mpr rfl, compare_eq_iff_eq.mpr rfl]
  · rw [compare_lt_iff_lt.mpr greater, compare_lt_iff_lt]
    exact neg_lt_neg greater

/-- Finite numbers are compared by exact value. -/
theorem compare?_finite (a b : Bool) (c d : Nat) (e f : Int) :
    compare? (finite a c e) (finite b d f) =
      some (compare (finite a c e).value (finite b d f).value) := by
  have opposite (n : Nat) (i : Int) : (finite true n i).value = -(finite false n i).value := by
    simp [value, Binary64.signedSignificand]
  unfold compare?
  dsimp only
  by_cases left : c = 0
  · by_cases right : d = 0
    · rw [if_pos ⟨left, right⟩, left, right, value_none, value_none, compare_eq_iff_eq.mpr rfl]
    · rw [if_neg (right ·.2), if_pos left, left, value_none]
      cases b with
      | false => rw [compare_lt_iff_lt.mpr (value_positive f right)]; rfl
      | true => rw [compare_gt_iff_gt.mpr (value_negative f right)]; rfl
  · rw [if_neg (left ·.1), if_neg left]
    by_cases right : d = 0
    · rw [if_pos right, right, value_none]
      cases a with
      | false => rw [compare_gt_iff_gt.mpr (value_positive e left)]; rfl
      | true => rw [compare_lt_iff_lt.mpr (value_negative e left)]; rfl
    · rw [if_neg right]
      cases a with
      | false =>
        cases b with
        | false => exact congrArg some (compareMagnitude_eq left right)
        | true =>
          have below := (value_negative f right).trans (value_positive e left)
          exact congrArg some (compare_gt_iff_gt.mpr below).symm
      | true =>
        cases b with
        | false =>
          have below := (value_negative e left).trans (value_positive f right)
          exact congrArg some (compare_lt_iff_lt.mpr below).symm
        | true =>
          refine congrArg some ((compareMagnitude_eq right left).trans ?_)
          rw [opposite, opposite, compare_opposites]

theorem compare?_of_finite {x y : Decimal} (left : x.isFinite) (right : y.isFinite) :
    compare? x y = some (compare x.value y.value) := by
  cases x with
  | infinite | nan => cases left
  | finite a c e =>
    cases y with
    | infinite | nan => cases right
    | finite b d f => exact compare?_finite a b c d e f

end Decimal

namespace Binary64

theorem signedSignificand_mul (negative : Bool) (m n : Nat) :
    signedSignificand negative (m * n) = signedSignificand negative m * n := by
  unfold signedSignificand
  split
  · rw [Nat.cast_mul, Int.neg_mul]
  · exact Nat.cast_mul m n

/-- A double is a decimal of the same value. -/
theorem value_ofBinary64 (x : Binary64) : (Decimal.ofBinary64 x).value = x.value := by
  cases x with
  | infinite | nan => rfl
  | finite negative significand exponent canonical =>
    unfold Decimal.ofBinary64
    dsimp only
    split
    next below =>
      unfold Decimal.value value
      dsimp only
      have ten : (10 : ℚ) ^ exponent.natAbs = 2 ^ exponent.natAbs * 5 ^ exponent.natAbs := by
        rw [← mul_pow]
        norm_num
      rw [signedSignificand_mul, zpow_of_neg below, zpow_of_neg below, ten]
      push_cast
      field_simp
      rw [powerOfFive_cast]
    next above =>
      unfold Decimal.value value
      dsimp only
      rw [signedSignificand_mul, zpow_of_nonneg above]
      push_cast
      simp

theorem isFinite_ofBinary64 (x : Binary64) : (Decimal.ofBinary64 x).isFinite = x.isFinite := by
  cases x with
  | infinite | nan => rfl
  | finite negative significand exponent canonical =>
    unfold Decimal.ofBinary64
    dsimp only
    split <;> rfl

/-! ### Numbers at zero or above -/

/-- A double at zero or above among the rational numbers, an infinite one above all of them. -/
def magnitude (x : Binary64) : WithTop ℚ := if x.isFinite then (x.value : ℚ) else ⊤

theorem infinite_of_isNonnegative {x : Binary64} (above : x.isNonnegative)
    (infinite : ¬ x.isFinite) : x = .infinite false := by
  cases x with
  | finite => exact absurd rfl infinite
  | nan => cases above
  | infinite negative =>
    cases negative with
    | true => cases above
    | false => rfl

/-- Doubles at zero or above stand in the order of their exact values. -/
theorem atMost_iff {x y : Binary64} (left : x.isNonnegative) (right : y.isNonnegative) :
    x.atMost y ↔ x.magnitude ≤ y.magnitude := by
  unfold atMost magnitude
  by_cases first : x.isFinite
  · by_cases second : y.isFinite
    · rw [Decimal.compare?_of_finite ((isFinite_ofBinary64 x).trans first)
        ((isFinite_ofBinary64 y).trans second), value_ofBinary64, value_ofBinary64, if_pos first,
        if_pos second, WithTop.coe_le_coe]
      rcases lt_trichotomy x.value y.value with less | same | greater
      · rw [compare_lt_iff_lt.mpr less]
        exact iff_of_true rfl less.le
      · rw [same, compare_eq_iff_eq.mpr rfl]
        exact iff_of_true rfl le_rfl
      · rw [compare_gt_iff_gt.mpr greater]
        exact iff_of_false (by simp) (not_le.mpr greater)
    · obtain rfl := infinite_of_isNonnegative right second
      have below := isFinite_ofBinary64 x
      rw [first] at below
      rw [if_neg second]
      refine iff_of_true ?_ le_top
      cases named : Decimal.ofBinary64 x with
      | finite => rfl
      | infinite | nan => rw [named] at below; cases below
  · obtain rfl := infinite_of_isNonnegative left first
    rw [if_neg first]
    by_cases second : y.isFinite
    · have above := isFinite_ofBinary64 y
      rw [second] at above
      rw [if_pos second]
      refine iff_of_false ?_ (not_le.mpr (WithTop.coe_lt_top _))
      cases named : Decimal.ofBinary64 y with
      | finite => exact Bool.false_ne_true
      | infinite | nan => rw [named] at above; cases above
    · obtain rfl := infinite_of_isNonnegative right second
      rw [if_neg second]
      exact iff_of_true rfl le_rfl

end Binary64

end Outreach
