import Outreach.Number.Binary64
import Outreach.Text.Digit
import Outreach.Text.Parts

/-!
Exact decimal numbers: a sign, a coefficient and a power of ten, of unbounded length. Integers and
doubles embed without loss, so numbers of all three kinds are compared by exact value. The text
form keeps trailing zeros and the exponent.
-/

namespace Outreach

/-- A decimal number: finite ones stand for `± coefficient · 10 ^ exponent`. -/
inductive Decimal where
  | finite (negative : Bool) (coefficient : Nat) (exponent : Int)
  | infinite (negative : Bool)
  | nan (negative signaling : Bool) (payload : Nat)
deriving DecidableEq, Repr, Inhabited

namespace Decimal

def isFinite : Decimal → Bool
  | finite .. => true
  | _ => false

def ofInt (n : Int) : Decimal := finite (n < 0) n.natAbs 0

/-- The exact decimal value of a double. -/
def ofBinary64 : Binary64 → Decimal
  | .finite negative significand exponent _ =>
      if exponent < 0 then finite negative (significand * powerOfFive exponent.natAbs) exponent
      else finite negative (significand * powerOfTwo exponent.natAbs) 0
  | .infinite negative => infinite negative
  | .nan => nan false false 0

/-- The double nearest to a decimal; a signaling one has none. -/
def toBinary64? : Decimal → Option Binary64
  | .finite negative coefficient exponent => some (Binary64.ofDecimal negative coefficient exponent)
  | .infinite negative => some (.infinite negative)
  | .nan _ signaling _ => if signaling then none else some .nan

/-- The number of decimal digits of a coefficient. -/
def length (coefficient : Nat) : Nat := (Text.digits coefficient).length

/-- Compares two positive magnitudes. The place of the leading digit decides; only magnitudes that
agree in it are brought to a common exponent. -/
def comparePositive (c : Nat) (e : Int) (d : Nat) (f : Int) : Ordering :=
  let place := e + length c
  let other := f + length d
  if place < other then .lt
  else if other < place then .gt
  else if f ≤ e then compare (c * powerOfTen (e - f).natAbs) d
  else compare c (d * powerOfTen (f - e).natAbs)

def compareMagnitude (c : Nat) (e : Int) (d : Nat) (f : Int) : Ordering :=
  if c = 0 then (if d = 0 then .eq else .lt)
  else if d = 0 then .gt
  else comparePositive c e d f

/-- Compares two numbers by exact value; not-a-number has no order. -/
def compare? : Decimal → Decimal → Option Ordering
  | nan .., _ => none
  | _, nan .. => none
  | infinite a, infinite b => some (compare b a)
  | infinite a, finite .. => some (if a then .lt else .gt)
  | finite .., infinite b => some (if b then .gt else .lt)
  | finite a c e, finite b d f =>
      if c = 0 ∧ d = 0 then some .eq
      else if c = 0 then some (if b then .gt else .lt)
      else if d = 0 then some (if a then .lt else .gt)
      else match a, b with
        | false, true => some .gt
        | true, false => some .lt
        | false, false => some (compareMagnitude c e d f)
        | true, true => some (compareMagnitude d f c e)

/-- Whether comparing with the number is refused: not-a-number of the signaling kind. -/
def isSignaling : Decimal → Bool
  | nan _ signaling _ => signaling
  | _ => false

/-! ### Text form -/

/-- The exponent part, written only when it is not zero. -/
def exponentText (exponent : Int) : List Char :=
  if exponent = 0 then []
  else 'E' :: (if exponent < 0 then '-' else '+') :: Text.ofNat exponent.natAbs

/-- Digits with a point after the given number of places, filled with zeros where needed. -/
def pointed (digits : List Char) (point : Int) : List Char :=
  if point ≤ 0 then '0' :: '.' :: List.replicate point.natAbs '0' ++ digits
  else if digits.length ≤ point.natAbs then
    digits ++ List.replicate (point.natAbs - digits.length) '0'
  else digits.take point.natAbs ++ '.' :: digits.drop point.natAbs

def signText (negative : Bool) : List Char := if negative then ['-'] else []

/-- The text of a decimal: positional while the exponent is not positive and at most five zeros
follow the point before the first digit, otherwise one digit before the point and an exponent. -/
def toText : Decimal → List Char
  | finite negative coefficient exponent =>
      let digits := Text.ofNat coefficient
      let point := exponent + digits.length
      let shown := if exponent ≤ 0 ∧ -6 < point then point else 1
      signText negative ++ pointed digits shown ++ exponentText (point - shown)
  | infinite negative => signText negative ++ "Infinity".toList
  | nan negative signaling payload =>
      signText negative ++ (if signaling then "sNaN".toList else "NaN".toList) ++
        (if payload = 0 then [] else Text.ofNat payload)

/-! ### Reading -/

/-- The greatest place a leading digit may have. -/
def greatestPlace : Int := 999999999999999999

/-- The least exponent a coefficient may have. -/
def leastExponent : Int := -1999999999999999997

/-- A finite decimal inside the range of exponents. -/
def bounded? (negative : Bool) (coefficient : Nat) (exponent : Int) : Option Decimal :=
  if exponent + length coefficient - 1 ≤ greatestPlace ∧ leastExponent ≤ exponent then
    some (finite negative coefficient exponent)
  else none

/-- A sign in front of a number. -/
def splitSign : List Char → Bool × List Char
  | '-' :: rest => (true, rest)
  | '+' :: rest => (false, rest)
  | rest => (false, rest)

/-- The digits at the start of a text, and what follows them. -/
def splitDigits (text : List Char) : List Nat × List Char :=
  ((text.takeWhile Char.isDigit).map fun c => c.toNat - 48, text.dropWhile Char.isDigit)

/-- An exponent that ends the text; an empty text is exponent zero. -/
def readExponent : List Char → Option Int
  | [] => some 0
  | c :: rest =>
      if c = 'e' ∨ c = 'E' then
        let (negative, rest) := splitSign rest
        match splitDigits rest with
        | ([], _) => none
        | (digits, []) =>
            let value : Int := Text.ofDigits digits
            some (if negative then -value else value)
        | (_, _ :: _) => none
      else none

/-- The coefficient and the exponent of a numeral: digits with an optional point and an optional
exponent, at least one digit before the exponent. -/
def readNumeral (text : List Char) : Option (Nat × Int) := do
  let (whole, rest) := splitDigits text
  let (fraction, rest) := match rest with
    | '.' :: rest => splitDigits rest
    | rest => ([], rest)
  if whole = [] ∧ fraction = [] then none
  else
    let exponent ← readExponent rest
    some (Text.ofDigits (whole ++ fraction), exponent - fraction.length)

/-- The words for infinity and for not-a-number, the latter with optional digits. -/
def readSpecial (negative : Bool) (text : List Char) : Option Decimal :=
  let lower := text.map Char.toLower
  if lower = "inf".toList ∨ lower = "infinity".toList then some (infinite negative)
  else
    let (signaling, rest) := match lower with
      | 's' :: rest => (true, rest)
      | rest => (false, rest)
    match rest with
    | 'n' :: 'a' :: 'n' :: rest =>
        match splitDigits rest with
        | (digits, []) => some (nan negative signaling (Text.ofDigits digits))
        | _ => none
    | _ => none

/-- Digits of all scripts as ASCII digits; a character beyond ASCII that is none is refused. -/
def plainDigits? (text : List Char) : Option (List Char) :=
  text.mapM fun c =>
    if 0 < c.toNat ∧ c.toNat < 128 then some c
    else (Text.digitValue? c).map Text.digitChar

/-- Reads a decimal. Blanks around it and underscores anywhere do not count. -/
def ofText? (text : List Char) : Option Decimal := do
  let plain ← plainDigits? ((Text.trim text).filter (· ≠ '_'))
  let (negative, rest) := splitSign plain
  match readNumeral rest with
  | some (coefficient, exponent) => bounded? negative coefficient exponent
  | none => readSpecial negative rest

end Decimal

end Outreach
