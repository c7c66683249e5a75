import Outreach.Number.Binary64
import Outreach.Number.Decimal

/-!
The shortest decimal text of a double: the fewest digits that read back as the same double, and of
those the ones nearest to its exact value. Only the layout is a choice of the format, and it is
kept in one record.
-/

namespace Outreach

namespace Binary64

/-- The decimals that read back as a double, as whole multiples of `10 ^ exponent`: the double
itself, and the two ends of the interval that rounds to it. -/
structure Neighbourhood where
  low : Nat
  centre : Nat
  high : Nat
  exponent : Int
  /-- The ends belong to the interval exactly when the significand is even. -/
  closed : Bool

/-- The neighbourhood of a positive finite double. Below a power of two the spacing halves. -/
def neighbourhood (significand : Nat) (exponent : Int) : Neighbourhood :=
  let quarter := exponent - 2
  let scale := if quarter < 0 then powerOfFive quarter.natAbs else powerOfTwo quarter.natAbs
  let below := if significand = powerOfTwo 52 ∧ leastExponent < exponent then 1 else 2
  { low := (4 * significand - below) * scale
    centre := 4 * significand * scale
    high := (4 * significand + 2) * scale
    exponent := min quarter 0
    closed := significand % 2 = 0 }

def Neighbourhood.contains (n : Neighbourhood) (point : Nat) : Bool :=
  if n.closed then n.low ≤ point && point ≤ n.high else n.low < point && point < n.high

/-- The points with a given step on both sides of the centre that read back; the nearer first, of
two equally near ones the even. -/
def Neighbourhood.onGrid? (n : Neighbourhood) (step : Nat) : Option Nat :=
  let below := n.centre / step
  let above := below + 1
  let first := below * step
  let second := above * step
  if n.contains first then
    if n.contains second then
      let before := n.centre - first
      let after := second - n.centre
      if before < after ∨ (before = after ∧ below % 2 = 0) then some below else some above
    else some below
  else if n.contains second then some above
  else none

/-- Looks for a point on ever finer grids, beginning with the given number of dropped digits. -/
def Neighbourhood.search (n : Neighbourhood) : Nat → Nat × Int
  | 0 => (n.centre, n.exponent)
  | dropped + 1 =>
      match n.onGrid? (powerOfTen (dropped + 1)) with
      | some point => (point, n.exponent + (dropped + 1 : Nat))
      | none => n.search dropped

/-- Coefficient and exponent without the zeros at the coefficient's end. -/
def stripZeros : (fuel coefficient : Nat) → Int → Nat × Int
  | 0, coefficient, exponent => (coefficient, exponent)
  | fuel + 1, coefficient, exponent =>
      if coefficient ≠ 0 ∧ coefficient % 10 = 0 then
        stripZeros fuel (coefficient / 10) (exponent + 1)
      else (coefficient, exponent)

/-- The digits of the shortest decimal that reads back, and its exponent. -/
def shortestDigits (significand : Nat) (exponent : Int) : List Char × Int :=
  let around := neighbourhood significand exponent
  let length := Decimal.length around.centre
  let (coefficient, power) := around.search (length - 1)
  let (coefficient, power) := stripZeros length coefficient power
  (Text.ofNat coefficient, power)

/-- How digits are laid out as text. -/
structure Layout where
  /-- The least place of the leading digit that is written without exponent. -/
  leastPlace : Int
  /-- The greatest such place. -/
  greatestPlace : Int
  /-- The least number of digits of an exponent. -/
  exponentWidth : Nat

/-- Numbers from `0.0001` up to below `10 ^ 16` are written without exponent. -/
def layout : Layout := ⟨-3, 16, 2⟩

/-- Lays out digits that stand for `0.digits · 10 ^ place`. -/
def Layout.write (format : Layout) (digits : List Char) (place : Int) : List Char :=
  if format.leastPlace ≤ place ∧ place ≤ format.greatestPlace then
    let text := Decimal.pointed digits place
    if digits.length ≤ place then text ++ ['.', '0'] else text
  else
    let tail := match digits with
      | [] => []
      | [d] => [d]
      | d :: rest => d :: '.' :: rest
    let exponent := place - 1
    tail ++ 'e' :: (if exponent < 0 then '-' else '+') ::
      Text.padded format.exponentWidth exponent.natAbs

/-- The shortest text of a double. -/
def toText : Binary64 → List Char
  | nan => "nan".toList
  | infinite negative => Decimal.signText negative ++ "inf".toList
  | finite negative significand exponent _ =>
      Decimal.signText negative ++
        (if significand = 0 then "0.0".toList
        else
          let (digits, power) := shortestDigits significand exponent
          layout.write digits (power + digits.length))

/-- Reads a decimal numeral as the nearest double; the words for the special values are read too. -/
def ofText? (text : List Char) : Option Binary64 :=
  let (negative, rest) := Decimal.splitSign text
  match Decimal.readNumeral rest with
  | some (coefficient, exponent) => some (ofDecimal negative coefficient exponent)
  | none =>
      let word := rest.map Char.toLower
      if word = "inf".toList ∨ word = "infinity".toList then some (infinite negative)
      else if word = "nan".toList then some nan
      else none

end Binary64

end Outreach
