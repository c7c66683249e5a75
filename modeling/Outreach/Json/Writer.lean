import Outreach.Value.Literal

/-!
Writing JSON without blanks, in ASCII. Characters beyond are written by their code units.
-/

namespace Outreach.Json

def unitText (unit : Nat) : List Char := '\\' :: 'u' :: Text.hexPadded 4 unit

/-- A character inside a string. -/
def escaped (c : Char) : List Char :=
  if c = '\x22' ∨ c = '\\' then ['\\', c]
  else if c = '\n' then ['\\', 'n']
  else if c = '\r' then ['\\', 'r']
  else if c = '\t' then ['\\', 't']
  else if c = '\x0c' then ['\\', 'f']
  else if c = '\x08' then ['\\', 'b']
  else if 0x20 ≤ c.toNat ∧ c.toNat < 0x7f then [c]
  else if c.toNat < 0x10000 then unitText c.toNat
  else if let some unit := Text.half? c then unitText unit
  else
    let rest := c.toNat - 0x10000
    unitText (0xd800 + rest / 0x400) ++ unitText (0xdc00 + rest % 0x400)

def writeText (text : String) : List Char :=
  '\x22' :: text.toList.flatMap escaped ++ ['\x22']

/-- A double; the special values have words of their own. -/
def writeFloat : Binary64 → List Char
  | .nan => "NaN".toList
  | .infinite negative => Decimal.signText negative ++ "Infinity".toList
  | x => x.toText

/-- The text of a whole number, unless it has more digits than are written. -/
def intText? (n : Int) : Option (List Char) :=
  if Text.maxIntegerDigits < (Text.digits n.natAbs).length then none else some (Text.ofInt n)

/-- The text of a key. -/
def keyText? : Value → Option String
  | .null => some "null"
  | .bool b => some (if b then "true" else "false")
  | .int n => (intText? n).map String.ofList
  | .float x => some (String.ofList (writeFloat x))
  | v => v.asText?

mutual

/-- The text of a value, if JSON has values of its kind and no whole number in it is too long. -/
def write? : Value → Option (List Char)
  | .null => some "null".toList
  | .bool b => some (if b then "true".toList else "false".toList)
  | .int n => intText? n
  | .float x => some (writeFloat x)
  | .text s => some (writeText s)
  | .token op => some (writeText op.sign)
  | .list items | .tuple items =>
      (writeItems? items).map fun parts => '[' :: [','].intercalate parts ++ [']']
  | .dict entries =>
      (writeEntries? entries).map fun parts => '\x7b' :: [','].intercalate parts ++ ['\x7d']
  | _ => none

def writeItems? : List Value → Option (List (List Char))
  | [] => some []
  | item :: rest => do
      let text ← write? item
      let others ← writeItems? rest
      some (text :: others)

def writeEntries? : List (Value × Value) → Option (List (List Char))
  | [] => some []
  | (key, item) :: rest => do
      let name ← keyText? key
      let text ← write? item
      let others ← writeEntries? rest
      some ((writeText name ++ ':' :: text) :: others)

end

end Outreach.Json
