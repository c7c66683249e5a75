/-!
Double-precision numbers as exact dyadic fractions. A finite number is a sign, a whole significand
and a power of two; every operation computes its exact result and rounds it once, to the nearest
double, a tie going to the even significand.
-/

namespace Outreach

/-! ### Powers of the bases in which numbers are written and kept -/

def powerOfTwo (n : Nat) : Nat := Nat.pow 2 n

def powerOfFive (n : Nat) : Nat := Nat.pow 5 n

def powerOfTen (n : Nat) : Nat := Nat.pow 10 n

theorem powerOfTwo_succ (n : Nat) : powerOfTwo (n + 1) = powerOfTwo n * 2 := rfl

theorem powerOfFive_succ (n : Nat) : powerOfFive (n + 1) = powerOfFive n * 5 := rfl

theorem powerOfTen_succ (n : Nat) : powerOfTen (n + 1) = powerOfTen n * 10 := rfl

/-! ### Doubles -/

/-- Doubles keep this many binary places. -/
def Binary64.precision : Nat := 53

/-- No double has a last place below `2 ^ leastExponent`. -/
def Binary64.leastExponent : Int := -1074

/-- No finite double has a last place above `2 ^ greatestExponent`. -/
def Binary64.greatestExponent : Int := 971

/-- The one form in which a double is kept: all places are used unless the exponent is the least. -/
def Binary64.IsCanonical (significand : Nat) (exponent : Int) : Prop :=
  significand < powerOfTwo 53 ∧ leastExponent ≤ exponent ∧ exponent ≤ greatestExponent ∧
    (powerOfTwo 52 ≤ significand ∨ exponent = leastExponent)

instance (significand : Nat) (exponent : Int) :
    Decidable (Binary64.IsCanonical significand exponent) :=
  inferInstanceAs (Decidable (_ ∧ _ ∧ _ ∧ (_ ∨ _)))

/-- A double-precision number: finite ones stand for `± significand · 2 ^ exponent`. -/
inductive Binary64 where
  | finite (negative : Bool) (significand : Nat) (exponent : Int)
      (canonical : Binary64.IsCanonical significand exponent)
  | infinite (negative : Bool)
  | nan
deriving DecidableEq, Repr

namespace Binary64

/-- Zero with the given sign. -/
def zero (negative : Bool) : Binary64 := finite negative 0 leastExponent (by decide)

instance : Inhabited Binary64 := ⟨zero false⟩

/-- The finite double with the given parts; parts that no double has stand for an infinite one. -/
def ofParts (negative : Bool) (significand : Nat) (exponent : Int) : Binary64 :=
  if canonical : IsCanonical significand exponent then
    finite negative significand exponent canonical
  else infinite negative

/-- A quotient rounded to a whole number, a half going to the even neighbour. -/
def roundQuotient (numerator denominator : Nat) : Nat :=
  let quotient := numerator / denominator
  let rest := numerator % denominator
  if denominator < 2 * rest ∨ (2 * rest = denominator ∧ quotient % 2 = 1) then quotient + 1
  else quotient

/-- A quotient divided by a power of two, again as a quotient. -/
def descale (numerator denominator : Nat) (exponent : Int) : Nat × Nat :=
  if exponent < 0 then (numerator * powerOfTwo exponent.natAbs, denominator)
  else (numerator, denominator * powerOfTwo exponent.natAbs)

/-- The exponent of the last place that a double near the quotient keeps. -/
def lastPlace (numerator denominator : Nat) : Int :=
  let guess : Int := numerator.log2 - denominator.log2 - 52
  let (top, bottom) := descale numerator denominator guess
  max (if top < powerOfTwo 52 * bottom then guess - 1 else guess) leastExponent

/-- The double nearest to a quotient. -/
def ofQuotient (negative : Bool) (numerator denominator : Nat) : Binary64 :=
  if numerator = 0 then zero negative
  else
    let exponent := lastPlace numerator denominator
    let (top, bottom) := descale numerator denominator exponent
    let rounded := roundQuotient top bottom
    if rounded = powerOfTwo precision then ofParts negative (powerOfTwo 52) (exponent + 1)
    else ofParts negative rounded exponent

/-- The double nearest to `± coefficient · 2 ^ exponent`. -/
def ofScaled (negative : Bool) (coefficient : Nat) (exponent : Int) : Binary64 :=
  if exponent < 0 then ofQuotient negative coefficient (powerOfTwo exponent.natAbs)
  else ofQuotient negative (coefficient * powerOfTwo exponent.natAbs) 1

/-- The double nearest to `± coefficient · 10 ^ exponent`. Exponents far outside the range of
doubles are settled by the number of digits alone. -/
def ofDecimal (negative : Bool) (coefficient : Nat) (exponent : Int) : Binary64 :=
  if coefficient = 0 then zero negative
  else if 400 < exponent then infinite negative
  else if exponent + (coefficient.log2 / 3 + 1 : Nat) < -400 then zero negative
  else if exponent < 0 then ofQuotient negative coefficient (powerOfTen exponent.natAbs)
  else ofQuotient negative (coefficient * powerOfTen exponent.natAbs) 1

def ofInt (n : Int) : Binary64 := ofQuotient (n < 0) n.natAbs 1

def isFinite : Binary64 → Bool
  | finite .. => true
  | _ => false

/-- The significand with its sign. -/
def signedSignificand (negative : Bool) (significand : Nat) : Int :=
  if negative then -significand else significand

/-- The sum, rounded once. Zeros of different signs, and numbers that cancel, give plain zero. -/
def add : Binary64 → Binary64 → Binary64
  | nan, _ => nan
  | _, nan => nan
  | infinite a, infinite b => if a = b then infinite a else nan
  | infinite a, finite .. => infinite a
  | finite .., infinite b => infinite b
  | finite a m e _, finite b n f _ =>
      let least := min e f
      let sum := signedSignificand a m * powerOfTwo (e - least).natAbs +
        signedSignificand b n * powerOfTwo (f - least).natAbs
      if sum = 0 then zero (a && b)
      else ofScaled (sum < 0) sum.natAbs least

/-- The product with a whole number, rounded once. -/
def scale (factor : Nat) : Binary64 → Binary64
  | finite negative significand exponent _ => ofScaled negative (significand * factor) exponent
  | x => x

/-- The whole number that is left of a finite double without its fraction. -/
def truncate? : Binary64 → Option Int
  | finite negative significand exponent _ =>
      some (signedSignificand negative
        (if exponent < 0 then significand / powerOfTwo exponent.natAbs
          else significand * powerOfTwo exponent.natAbs))
  | _ => none

/-- The number of the opposite sign. -/
def negate : Binary64 → Binary64
  | finite negative significand exponent canonical =>
      finite (!negative) significand exponent canonical
  | infinite negative => infinite !negative
  | nan => nan

/-- The number divided by a whole number, rounded once. -/
def dividedBy (divisor : Nat) : Binary64 → Binary64
  | finite negative significand exponent _ =>
      if exponent < 0 then
        ofQuotient negative significand (divisor * powerOfTwo exponent.natAbs)
      else ofQuotient negative (significand * powerOfTwo exponent.natAbs) divisor
  | x => x

/-- A whole number divided by a positive double, rounded once. -/
def quotient (n : Nat) : Binary64 → Binary64
  | finite _ significand exponent _ =>
      if exponent < 0 then ofQuotient false (n * powerOfTwo exponent.natAbs) significand
      else ofQuotient false n (significand * powerOfTwo exponent.natAbs)
  | infinite _ => zero false
  | nan => nan

/-- A finite double as a quotient of a whole number and a power of two. -/
def ratio : Binary64 → Int × Nat
  | finite negative significand exponent _ =>
      let signed := signedSignificand negative significand
      if exponent < 0 then (signed, powerOfTwo exponent.natAbs)
      else (signed * powerOfTwo exponent.natAbs, 1)
  | _ => (0, 1)

/-- The greatest whole number that is not above a finite double. -/
def floor (x : Binary64) : Int := x.ratio.1 / x.ratio.2

/-- The least whole number that is not below a finite double. -/
def ceiling (x : Binary64) : Int := -(-x.ratio.1 / x.ratio.2)

/-- What follows the point of a finite double, without its sign. -/
def fraction (x : Binary64) : Binary64 := ofQuotient false (x.ratio.1.natAbs % x.ratio.2) x.ratio.2

/-- A double that is not negative, rounded to a whole number, a half going up. -/
def roundAway (x : Binary64) : Nat := (2 * x.ratio.1.natAbs + x.ratio.2) / (2 * x.ratio.2)

/-- Whether the number is zero or above; not-a-number is neither. -/
def isNonnegative : Binary64 → Bool
  | finite negative significand _ _ => !negative || significand = 0
  | infinite negative => !negative
  | nan => false

/-- The whole number that a finite double without fraction stands for. -/
def toInt? : Binary64 → Option Int
  | finite negative significand exponent _ =>
      if exponent < 0 then
        let unit := powerOfTwo exponent.natAbs
        if significand % unit = 0 then some (signedSignificand negative (significand / unit))
        else none
      else some (signedSignificand negative (significand * powerOfTwo exponent.natAbs))
  | _ => none

end Binary64

end Outreach
