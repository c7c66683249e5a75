import Outreach.Text.Hex
import Outreach.Text.Utf8

/-!
The form encoding of names and values, as queries of addresses and bodies of forms have it. Letters,
digits and four signs stand for themselves, a plus sign for a space, and a percent sign with two
digits for any other byte; names and values are told apart by signs that the encoding never writes.
-/

namespace Outreach.Form

/-- Whether a byte stands for itself. -/
def isPlain (byte : UInt8) : Bool :=
  let n := byte.toNat
  (0x41 ≤ n && n ≤ 0x5a) || (0x61 ≤ n && n ≤ 0x7a) || (0x30 ≤ n && n ≤ 0x39) ||
    n = 0x5f || n = 0x2e || n = 0x2d || n = 0x7e

/-- The upper-case hexadecimal digit of a number below 16. -/
def hexDigit (n : Nat) : Char := if n < 10 then Char.ofNat (48 + n) else Char.ofNat (55 + n)

def encodeByte (byte : UInt8) : List Char :=
  if isPlain byte then [Char.ofNat byte.toNat]
  else if byte.toNat = 0x20 then ['+']
  else ['%', hexDigit (byte.toNat / 16), hexDigit (byte.toNat % 16)]

/-- A name or a value, encoded. -/
def encodeText (text : List Char) : List Char := (Text.Utf8.encode text).flatMap encodeByte

def encodePair (pair : List Char × List Char) : List Char :=
  encodeText pair.1 ++ '=' :: encodeText pair.2

/-- Names with their values, encoded one after the other. -/
def encode (pairs : List (List Char × List Char)) : List Char :=
  ['&'].intercalate (pairs.map encodePair)

/-- The bytes of an encoded text, in which a percent sign without two digits stands for itself. -/
def percentBytes : List Char → List UInt8
  | [] => []
  | [c] => String.utf8EncodeChar c
  | [c, d] => String.utf8EncodeChar c ++ String.utf8EncodeChar d
  | c :: high :: low :: rest =>
      if c = '%' then
        match Text.hexValue? high, Text.hexValue? low with
        | some h, some l => UInt8.ofNat (h * 16 + l) :: percentBytes rest
        | _, _ => String.utf8EncodeChar c ++ percentBytes (high :: low :: rest)
      else String.utf8EncodeChar c ++ percentBytes (high :: low :: rest)

/-- The text of a percent-encoded one. -/
def percentDecode (text : List Char) : List Char := Text.Utf8.decode (percentBytes text)

/-- The text of an encoded name or value. -/
def decodeText (text : List Char) : List Char :=
  percentDecode (text.map fun c => if c = '+' then ' ' else c)

/-- The parts of a text between the places where a sign stands. -/
def splitAt (sign : Char) : List Char → List (List Char)
  | [] => [[]]
  | c :: rest =>
      if c = sign then [] :: splitAt sign rest
      else match splitAt sign rest with
        | [] => [[c]]
        | part :: others => (c :: part) :: others

/-- The text before the first place where a sign stands, and the text after it. -/
def splitOnce (sign : Char) (text : List Char) : List Char × List Char :=
  let before := text.takeWhile (· ≠ sign)
  (before, text.drop (before.length + 1))

def decodePair (part : List Char) : List Char × List Char :=
  let (name, value) := splitOnce '=' part
  (decodeText name, decodeText value)

/-- The names and values of an encoded text; a name without a value has an empty one. -/
def decode (text : List Char) : List (List Char × List Char) :=
  ((splitAt '&' text).filter (· ≠ [])).map decodePair

end Outreach.Form
