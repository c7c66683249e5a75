import Outreach.Number.Shortest
import Outreach.Schema.Checked
import Outreach.Text.Parts

/-!
Numbers and truth values in data, read generously: whole numbers may come as numbers without
fraction or as text, truth values count as one and zero, and the usual words stand for truth
values.
-/

namespace Outreach

namespace Text

/-- White space, which the information separators are not. -/
def isWhiteSpace (c : Char) : Bool := isBlank c && !(0x1c ≤ c.toNat && c.toNat ≤ 0x1f)

end Text

namespace Schema

/-- Text without underscores, each of which has to stand between other characters. -/
def withoutUnderscores? (text : List Char) : Option (List Char) :=
  let doubled := (text.zip (text.drop 1)).any fun (a, b) => a = '_' && b = '_'
  if text.head? = some '_' ∨ text.getLast? = some '_' ∨ doubled then none
  else some (text.filter (· ≠ '_'))

/-- What is left of a whole number without its leading zeros, among which underscores may stand. A
digit ends them, or a minus sign, or the point, before which one zero stays. -/
def withoutLeadingZeros? : List Char → Option (List Char)
  | [] => none
  | c :: rest =>
      if c = '-' ∨ (c.isDigit ∧ c ≠ '0') then some (c :: rest)
      else if c = '0' then
        let zeros := rest.takeWhile fun c => c = '0' || c = '_'
        match rest.drop zeros.length with
        | [] => some [(c :: zeros).getLast (by simp)]
        | next :: rest =>
            if next = '.' then some ((c :: zeros).getLast (by simp) :: next :: rest)
            else if next = '-' ∨ next.isDigit then some (next :: rest)
            else none
      else none

/-- A whole number without a point that zeros, and at least one, follow to the end. -/
def withoutZeroFraction (text : List Char) : List Char :=
  let whole := text.takeWhile (· ≠ '.')
  let fraction := (text.drop whole.length).drop 1
  if fraction ≠ [] ∧ fraction.all (· = '0') then whole else text

/-- The digits of a whole number without its sign as they are read. -/
def cleanDigits? (text : List Char) : Option (List Char) := do
  withoutUnderscores? (withoutZeroFraction (← withoutLeadingZeros? text))

/-- The digits of a whole number as they are read, with a minus sign where there is one. A plus
sign does not count, but no minus sign may follow it. -/
def cleanInteger? (text : List Char) : Option (List Char) :=
  match Text.trimBy Text.isWhiteSpace text with
  | '+' :: '-' :: _ => none
  | '+' :: rest => cleanDigits? rest
  | '-' :: rest => (cleanDigits? rest).map ('-' :: ·)
  | rest => cleanDigits? rest

/-- Digits without leading zeros. -/
def canonicalDigits? (digits : List Char) : Option Nat :=
  if digits = [] ∨ digits.any (fun c => !c.isDigit) ∨ (1 < digits.length ∧ digits.head? = some '0')
  then none
  else some (Text.ofDigits (digits.map fun c => c.toNat - 48))

/-- A whole number in its plain form. -/
def canonicalInteger? : List Char → Option Int
  | '-' :: digits => (canonicalDigits? digits).map fun n => -n
  | digits => (canonicalDigits? digits).map fun n => n

/-- The most digits of a whole number that are read. -/
def maxDigits : Nat := 4300

/-- Whether a text begins, after a minus sign that it may have, with more digits than are read. -/
def isOversized (text : List Char) : Bool :=
  let digits := (if text.head? = some '-' then text.drop 1 else text).takeWhile Char.isDigit
  digits.head? ≠ some '0' && maxDigits < digits.length

/-- Reads a whole number: as it stands, or cleaned. -/
def integerOfText (text : String) : Checked Int :=
  if isOversized text.toList then .refuse .oversizedInteger
  else
    match cleanInteger? text.toList with
    | none => .refuse .unreadableInteger
    | some clean =>
        if isOversized clean then .refuse .oversizedInteger
        else
          match canonicalInteger? clean with
          | some n => .accepted n
          | none => .refuse .unreadableInteger

/-- The whole number that a double stands for. -/
def integerOfFloat (x : Binary64) : Checked Int :=
  if !x.isFinite then .refuse .notFinite
  else match x.toInt? with
    | none => .refuse .fractionalInteger
    | some n => if n.natAbs < powerOfTwo 63 then .accepted n else .refuse .oversizedInteger

def integerOfDecimal : Decimal → Checked Int
  | .finite negative coefficient exponent =>
      let sign : Int := if negative then -1 else 1
      if 0 ≤ exponent then .accepted (sign * (coefficient * powerOfTen exponent.natAbs : Nat))
      else
        let unit := powerOfTen exponent.natAbs
        if coefficient % unit = 0 then .accepted (sign * (coefficient / unit : Nat))
        else .refuse .fractionalInteger
  | _ => .refuse .notFinite

/-- Reads data that is text, or bytes that are the encoding of a text; bytes that are not are
as unreadable as a text may be. -/
def fromText {α : Type} (read : String → Checked α) (unreadable foreign : Issue.Cause) : Reader α
  | .bytes bytes =>
      match String.fromUTF8? bytes.toByteArray with
      | some text => read text
      | none => .refuse unreadable
  | value =>
      match value.asText? with
      | some text => (wholeText text).andThen read
      | none => .refuse foreign

def integer : Reader Int := fun value =>
  match value with
  | .int n => .accepted n
  | .bool b => .accepted (if b then 1 else 0)
  | .float x => integerOfFloat x
  | .decimal d => integerOfDecimal d
  | value => fromText integerOfText .unreadableInteger .notInteger value

/-- A whole number with a least value. -/
def integerFrom (least : Int) : Reader Int := fun value =>
  (integer value).andThen fun n => if n < least then .refuse (.below least) else .accepted n

/-- A whole number between two bounds. -/
def integerBetween (least most : Int) : Reader Int := fun value =>
  (integer value).andThen fun n =>
    if most < n then .refuse (.above most)
    else if n < least then .refuse (.below least)
    else .accepted n

/-- Reads a double. -/
def numberOfText (text : String) : Checked Binary64 :=
  match Binary64.ofText? (Text.trimBy Text.isWhiteSpace text.toList) with
  | some x => .accepted x
  | none =>
      match (withoutUnderscores? text.toList).bind Binary64.ofText? with
      | some x => .accepted x
      | none => .refuse .unreadableNumber

def number : Reader Binary64 := fun value =>
  match value with
  | .float x => .accepted x
  | .bool b => .accepted (Binary64.ofInt (if b then 1 else 0))
  | .int n =>
      let x := Binary64.ofInt n
      if x.isFinite then .accepted x else .refuse .notNumber
  | .decimal d =>
      match Decimal.toBinary64? d with
      | some x => .accepted x
      | none => .refuse .notNumber
  | value => fromText numberOfText .unreadableNumber .notNumber value

/-- A number that is zero or above. -/
def amount : Reader Binary64 := fun value =>
  (number value).andThen fun x => if x.isNonnegative then .accepted x else .refuse (.below 0)

def falseWords : List String := ["0", "off", "f", "false", "n", "no"]

def trueWords : List String := ["1", "on", "t", "true", "y", "yes"]

def booleanOfInt (n : Int) : Checked Bool :=
  if n = 0 then .accepted false
  else if n = 1 then .accepted true
  else .refuse .unreadableBoolean

/-- A double stands for a truth value if it is a whole number; beyond the range of 64 bits none
is told. -/
def booleanOfFloat (x : Binary64) : Checked Bool :=
  match x.toInt? with
  | some n => if n.natAbs < powerOfTwo 63 then booleanOfInt n else .refuse .notBoolean
  | none => .refuse .notBoolean

def booleanOfText (text : String) : Checked Bool :=
  let word := String.ofList (text.toList.map Char.toLower)
  if falseWords.contains word then .accepted false
  else if trueWords.contains word then .accepted true
  else .refuse .unreadableBoolean

def boolean : Reader Bool := fun value =>
  match value with
  | .bool b => .accepted b
  | .int n =>
      if n.natAbs < powerOfTwo 63 then booleanOfInt n else booleanOfFloat (Binary64.ofInt n)
  | .float x => booleanOfFloat x
  | .decimal d =>
      match d.toBinary64? with
      | some x => booleanOfFloat x
      | none => .refuse .notBoolean
  | value => fromText booleanOfText .unreadableBoolean .notBoolean value

end Schema

end Outreach
