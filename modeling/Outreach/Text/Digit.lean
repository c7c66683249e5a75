import Outreach.Text.Parts

/-!
Decimal digits of all scripts. Every script's ten digits are consecutive code points, so a digit's
value is its distance from the zero of its script.

Whole numbers in text: digits of any script with an optional sign, blanks around them, and single
underscores between digits.
-/

namespace Outreach.Text

/-- The zeros of the scripts that write numbers with ten digits. -/
def scriptZeros : List Nat := [
  0x30, 0x660, 0x6f0, 0x7c0, 0x966, 0x9e6, 0xa66, 0xae6, 0xb66, 0xbe6, 0xc66, 0xce6, 0xd66,
  0xde6, 0xe50, 0xed0, 0xf20, 0x1040, 0x1090, 0x17e0, 0x1810, 0x1946, 0x19d0, 0x1a80, 0x1a90,
  0x1b50, 0x1bb0, 0x1c40, 0x1c50, 0xa620, 0xa8d0, 0xa900, 0xa9d0, 0xa9f0, 0xaa50, 0xabf0, 0xff10,
  0x104a0, 0x10d30, 0x11066, 0x110f0, 0x11136, 0x111d0, 0x112f0, 0x11450, 0x114d0, 0x11650,
  0x116c0, 0x11730, 0x118e0, 0x11950, 0x11c50, 0x11d50, 0x11da0, 0x16a60, 0x16ac0, 0x16b50,
  0x1d7ce, 0x1d7d8, 0x1d7e2, 0x1d7ec, 0x1d7f6, 0x1e140, 0x1e2f0, 0x1e950, 0x1fbf0]

/-- The value of a decimal digit of any script. -/
def digitValue? (c : Char) : Option Nat :=
  (scriptZeros.find? fun first => first ≤ c.toNat && c.toNat < first + 10).map (c.toNat - ·)

/-- The digit character of a number below ten. -/
def digitChar (n : Nat) : Char := Char.ofNat (48 + n % 10)

/-- The number that a list of digits writes, most significant first. -/
def ofDigits (digits : List Nat) : Nat := digits.foldl (fun n d => 10 * n + d) 0

theorem ofDigits_nil : ofDigits [] = 0 := rfl

theorem ofDigits_append_singleton (digits : List Nat) (d : Nat) :
    ofDigits (digits ++ [d]) = 10 * ofDigits digits + d := by
  simp [ofDigits, List.foldl_append]

/-- The digits of a number, most significant first; zero has the one digit 0. -/
def digits (n : Nat) : List Nat :=
  if n < 10 then [n] else digits (n / 10) ++ [n % 10]

theorem digits_ne_nil (n : Nat) : digits n ≠ [] := by
  rw [digits]; split <;> simp

theorem ofDigits_digits (n : Nat) : ofDigits (digits n) = n := by
  induction n using Nat.strongRecOn with
  | ind n ih =>
      rw [digits]
      split
      · simp [ofDigits]
      · rw [ofDigits_append_singleton, ih (n / 10) (by omega)]
        omega

theorem digits_lt (n : Nat) : ∀ d ∈ digits n, d < 10 := by
  induction n using Nat.strongRecOn with
  | ind n ih =>
      rw [digits]
      split
      · intro d member
        simp only [List.mem_singleton] at member
        omega
      · intro d member
        rcases List.mem_append.mp member with inner | last
        · exact ih (n / 10) (by omega) d inner
        · simp only [List.mem_singleton] at last
          omega

/-- The decimal text of a number, without leading zeros. -/
def ofNat (n : Nat) : List Char := (digits n).map digitChar

/-- The decimal text of an integer. -/
def ofInt (n : Int) : List Char :=
  if n < 0 then '-' :: ofNat n.natAbs else ofNat n.natAbs

/-- The decimal text of a number, filled with zeros on the left up to the width. -/
def padded (width n : Nat) : List Char :=
  let text := ofNat n
  List.replicate (width - text.length) '0' ++ text

/-! ### Whole numbers -/

/-- The digits of a text in which single underscores may stand between digits. -/
def groupedDigits? : (afterDigit : Bool) → List Char → Option (List Nat)
  | afterDigit, [] => if afterDigit then some [] else none
  | afterDigit, c :: rest =>
      if c = '_' then (if afterDigit then groupedDigits? false rest else none)
      else do
        let d ← digitValue? c
        let others ← groupedDigits? true rest
        some (d :: others)

/-- The most digits of a whole number that are read. -/
def maxIntegerDigits : Nat := 4300

/-- Reads a whole number. -/
def integer? (text : List Char) : Option Int :=
  let trimmed := trim text
  let (negative, rest) := match trimmed with
    | '-' :: rest => (true, rest)
    | '+' :: rest => (false, rest)
    | rest => (false, rest)
  (groupedDigits? false rest).bind fun digits =>
    if maxIntegerDigits < digits.length then none
    else
      let value : Int := ofDigits digits
      some (if negative then -value else value)

end Outreach.Text
