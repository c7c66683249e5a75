/-!
Bytes as text of 64 characters, with the alphabet that is safe in addresses and without filling at
the end. Reading takes both alphabets and passes over characters of neither.
-/

namespace Outreach.Text.Base64

/-- The character of a number below 64. -/
def digit (n : Nat) : Char :=
  if n < 26 then Char.ofNat (65 + n)
  else if n < 52 then Char.ofNat (71 + n)
  else if n < 62 then Char.ofNat (n - 4)
  else if n = 62 then '-'
  else '_'

/-- The number of a byte that stands for a character of one of the two alphabets. -/
def value? (byte : UInt8) : Option Nat :=
  let n := byte.toNat
  if 65 ≤ n ∧ n ≤ 90 then some (n - 65)
  else if 97 ≤ n ∧ n ≤ 122 then some (n - 71)
  else if 48 ≤ n ∧ n ≤ 57 then some (n + 4)
  else if n = 45 ∨ n = 43 then some 62
  else if n = 95 ∨ n = 47 then some 63
  else none

def encode : List UInt8 → List Char
  | [] => []
  | [a] => [digit (a.toNat / 4), digit (a.toNat % 4 * 16)]
  | [a, b] =>
      [digit (a.toNat / 4), digit (a.toNat % 4 * 16 + b.toNat / 16), digit (b.toNat % 16 * 4)]
  | a :: b :: c :: rest =>
      digit (a.toNat / 4) :: digit (a.toNat % 4 * 16 + b.toNat / 16) ::
        digit (b.toNat % 16 * 4 + c.toNat / 64) :: digit (c.toNat % 64) :: encode rest

/-- How far a group of four characters has been read: how many, the bits carried over, and the
filling seen since the last of them. -/
structure Group where
  read : Nat := 0
  carried : Nat := 0
  filled : Nat := 0

/-- The byte that a group and its next number complete, and the group after it. -/
def Group.take (g : Group) (n : Nat) : Option UInt8 × Group :=
  match g.read with
  | 0 => (none, ⟨1, n, 0⟩)
  | 1 => (some (UInt8.ofNat (g.carried * 4 + n / 16)), ⟨2, n % 16, 0⟩)
  | 2 => (some (UInt8.ofNat (g.carried * 16 + n / 4)), ⟨3, n % 4, 0⟩)
  | _ => (some (UInt8.ofNat (g.carried * 64 + n)), ⟨0, 0, 0⟩)

/-- Reads on inside a group. Filling that completes a group ends the text. -/
def decodeFrom (g : Group) : List UInt8 → Option (List UInt8)
  | [] => if g.read = 0 then some [] else none
  | byte :: rest =>
      if byte = 61 then
        if g.read < 2 then decodeFrom g rest
        else if 4 ≤ g.read + g.filled + 1 then some []
        else decodeFrom { g with filled := g.filled + 1 } rest
      else
        match value? byte with
        | none => decodeFrom g rest
        | some n =>
            let (byte, g) := g.take n
            (decodeFrom g rest).map (byte.toList ++ ·)

/-- Reads a text, filled up to a multiple of four bytes. -/
def decode? (text : List UInt8) : Option (List UInt8) :=
  decodeFrom {} (text ++ List.replicate ((4 - text.length % 4) % 4) 61)

end Outreach.Text.Base64
