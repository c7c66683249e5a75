import Outreach.Text.Hex

/-!
Tables of characters: sets that are kept by the code points at which they begin and end, and values
that are kept by the code points at which they change. Tables are written as lines that list their
numbers in hexadecimal digits.
-/

namespace Outreach.Text

/-- One more character of a line that lists numbers: the numbers so far, the last first, and the
one that is being read. -/
def listStep (read : List Nat × Option Nat) (c : Char) : List Nat × Option Nat :=
  match hexValue? c with
  | some digit => (read.1, some (16 * read.2.getD 0 + digit))
  | none => (read.2.toList ++ read.1, none)

/-- The numbers that a line lists, with blanks between them. -/
def numbersOf (line : String) : List Nat :=
  let (numbers, last) := line.toList.foldl listStep ([], none)
  (last.toList ++ numbers).reverse

/-- The numbers that some lines list. -/
def listed (lines : List String) : List Nat := lines.flatMap numbersOf

def pairs : List Nat → List (Nat × Nat)
  | a :: b :: rest => (a, b) :: pairs rest
  | _ => []

def triples : List Nat → List (Nat × Nat × Nat)
  | a :: b :: c :: rest => (a, b, c) :: triples rest
  | _ => []

/-- The parts of a list between its zeros. -/
def groups : List Nat → List (List Nat)
  | [] => [[]]
  | n :: rest =>
      if n = 0 then [] :: groups rest
      else match groups rest with
        | [] => [[n]]
        | group :: others => (n :: group) :: others

/-- Whether a character belongs to the set that has the given boundaries: those at which it begins
and ends in turn. -/
def isWithin (boundaries : List Nat) (c : Char) : Bool :=
  boundaries.countP (· ≤ c.toNat) % 2 == 1

/-- The value of a character, zero before the first change. -/
def valueAt (changes : List (Nat × Nat)) (c : Char) : Nat :=
  (((changes.takeWhile (·.1 ≤ c.toNat)).getLast?).map (·.2)).getD 0

end Outreach.Text
