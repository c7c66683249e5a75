import Outreach.Text.Digit
import Outreach.Text.Half
import Outreach.Text.Hex
import Outreach.Text.Printable

/-!
Quoted text, as it stands in messages. The quote mark is a single one unless the text holds single
quotes and no double ones; a character that is not printable is written by its code point.
-/

namespace Outreach.Text

def singleQuote : Char := '\x27'

def doubleQuote : Char := '\x22'

/-- The quote mark that a text is put in. -/
def quoteMark (text : List Char) : Char :=
  if text.contains singleQuote && !text.contains doubleQuote then doubleQuote else singleQuote

/-- One character inside quotes of the given mark. -/
def escaped (mark c : Char) : List Char :=
  if c = '\\' ∨ c = mark then ['\\', c]
  else if c = '\n' then ['\\', 'n']
  else if c = '\r' then ['\\', 'r']
  else if c = '\t' then ['\\', 't']
  else if isPrintable c then [c]
  else if c.toNat < 0x100 then '\\' :: 'x' :: hexPadded 2 c.toNat
  else if c.toNat < 0x10000 then '\\' :: 'u' :: hexPadded 4 c.toNat
  else if let some unit := half? c then '\\' :: 'u' :: hexPadded 4 unit
  else '\\' :: 'U' :: hexPadded 8 c.toNat

/-- A text between quote marks. -/
def quoted (text : List Char) : List Char :=
  let mark := quoteMark text
  mark :: text.flatMap (escaped mark) ++ [mark]

def quotedText (text : List Char) : String := String.ofList (quoted text)

/-- One byte inside quotes of the given mark. -/
def escapedByte (mark : Char) (byte : UInt8) : List Char :=
  let c := Char.ofNat byte.toNat
  if c = '\\' ∨ c = mark then ['\\', c]
  else if c = '\n' then ['\\', 'n']
  else if c = '\r' then ['\\', 'r']
  else if c = '\t' then ['\\', 't']
  else if 0x20 ≤ byte.toNat ∧ byte.toNat < 0x7f then [c]
  else '\\' :: 'x' :: hexPadded 2 byte.toNat

/-- A byte string between quote marks, with the letter that tells it from text. -/
def quotedBytes (bytes : List UInt8) : List Char :=
  let mark := quoteMark (bytes.map fun byte => Char.ofNat byte.toNat)
  'b' :: mark :: bytes.flatMap (escapedByte mark) ++ [mark]

end Outreach.Text
