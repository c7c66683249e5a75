/-!
Texts as bytes. Every character takes one to four bytes; reading replaces each longest start of a
character that is not completed, and each byte that starts none, by the replacement character.
-/

namespace Outreach.Text.Utf8

def replacement : Char := '\ufffd'

/-- The bytes of a text. -/
def encode (text : List Char) : List UInt8 := text.flatMap String.utf8EncodeChar

/-- A character begun: how many bytes are to come, the bits so far, and the bounds of the next
byte. -/
structure Begun where
  remaining : Nat
  bits : Nat
  low : Nat := 0x80
  high : Nat := 0xbf
deriving DecidableEq, Repr

/-- The character that a first byte begins. The bounds of the second byte keep out characters that
a shorter form has, halves of pairs, and numbers beyond the last character. -/
def begin? (byte : Nat) : Option Begun :=
  if byte < 0xc2 then none
  else if byte < 0xe0 then some { remaining := 1, bits := byte - 0xc0 }
  else if byte < 0xf0 then
    some { remaining := 2
           bits := byte - 0xe0
           low := if byte = 0xe0 then 0xa0 else 0x80
           high := if byte = 0xed then 0x9f else 0xbf }
  else if byte < 0xf5 then
    some { remaining := 3
           bits := byte - 0xf0
           low := if byte = 0xf0 then 0x90 else 0x80
           high := if byte = 0xf4 then 0x8f else 0xbf }
  else none

/-- What a byte that is no part of a begun character gives: a character, or the begin of one. -/
def first (byte : UInt8) : List Char × Option Begun :=
  if byte.toNat < 0x80 then ([Char.ofNat byte.toNat], none)
  else match begin? byte.toNat with
    | some begun => ([], some begun)
    | none => ([replacement], none)

/-- What a byte gives after the begin of a character. -/
def next (begun : Option Begun) (byte : UInt8) : List Char × Option Begun :=
  match begun with
  | none => first byte
  | some b =>
      if b.low ≤ byte.toNat ∧ byte.toNat ≤ b.high then
        let bits := b.bits * 64 + (byte.toNat - 0x80)
        if b.remaining ≤ 1 then ([Char.ofNat bits], none)
        else ([], some { remaining := b.remaining - 1, bits })
      else
        let (characters, begun) := first byte
        (replacement :: characters, begun)

/-- Reads on after the begin of a character. -/
def decodeFrom : Option Begun → List UInt8 → List Char
  | none, [] => []
  | some _, [] => [replacement]
  | begun, byte :: rest =>
      let (characters, begun) := next begun byte
      characters ++ decodeFrom begun rest

/-- The text of some bytes. -/
def decode (bytes : List UInt8) : List Char := decodeFrom none bytes

end Outreach.Text.Utf8
