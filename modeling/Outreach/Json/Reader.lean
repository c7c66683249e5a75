import Outreach.Text.Half
import Outreach.Text.Hex
import Outreach.Value.Same

/-!
Reading JSON text. Objects keep the order of their keys, the last value of a repeated key wins and
stands in the place of the first; the words for infinities and not-a-number are read; a number is a
whole one unless it has a fraction or an exponent. A text that is no JSON is refused at the place,
counted in characters, where reading could not go on.
-/

namespace Outreach.Json

/-- Why a text was not read. -/
inductive Failure where
  /-- Nothing that JSON allows stands at the place. -/
  | invalid (place : Nat)
  /-- A whole number has more digits than are taken. -/
  | tooManyDigits
  /-- Arrays and objects stand in one another more deeply than is read. -/
  | tooDeep
deriving DecidableEq, Repr

/-- What is left to read, and its place in the whole text. -/
structure Cursor where
  rest : List Char
  place : Nat
deriving Repr

def isBlank (c : Char) : Bool := c = ' ' || c = '\t' || c = '\n' || c = '\r'

namespace Cursor

def skip (c : Cursor) (count : Nat) : Cursor := ⟨c.rest.drop count, c.place + count⟩

def skipBlanks (c : Cursor) : Cursor :=
  ⟨c.rest.dropWhile isBlank, c.place + (c.rest.takeWhile isBlank).length⟩

def fail {α : Type} (c : Cursor) : Except Failure α := .error (.invalid c.place)

end Cursor

def hexUnit? (a b c d : Char) : Option Nat := do
  let a ← Text.hexValue? a
  let b ← Text.hexValue? b
  let c ← Text.hexValue? c
  let d ← Text.hexValue? d
  some (((a * 16 + b) * 16 + c) * 16 + d)

/-- The character that a letter after a backslash stands for. -/
def simpleEscape? (c : Char) : Option Char :=
  if c = '\x22' ∨ c = '\\' ∨ c = '/' then some c
  else if c = 'b' then some '\x08'
  else if c = 'f' then some '\x0c'
  else if c = 'n' then some '\n'
  else if c = 'r' then some '\r'
  else if c = 't' then some '\t'
  else none

/-- A part of a string: a character, or a code unit given by its number. -/
inductive Piece where
  | char (c : Char)
  | unit (n : Nat)

/-- Joins the two halves of a pair of units; a half without its partner stays one. -/
def joinPieces : List Piece → List Char
  | [] => []
  | .char c :: rest => c :: joinPieces rest
  | .unit high :: .unit low :: rest =>
      if Text.isHighUnit high && Text.isLowUnit low then Text.ofPair high low :: joinPieces rest
      else Text.ofUnit high :: joinPieces (.unit low :: rest)
  | .unit n :: rest => Text.ofUnit n :: joinPieces rest

/-- The pieces of a string up to its closing quote. `opening` is the place of the opening one. -/
def stringPieces (opening : Nat) :
    (rest : List Char) → (place : Nat) → Except Failure (List Piece × Cursor)
  | [], _ => .error (.invalid opening)
  | '\\' :: 'u' :: a :: b :: c :: d :: next :: rest, place =>
      match hexUnit? a b c d with
      | some unit => do
          let (pieces, cursor) ← stringPieces opening (next :: rest) (place + 6)
          .ok (.unit unit :: pieces, cursor)
      | none => .error (.invalid (place + 1))
  | '\\' :: 'u' :: _, place => .error (.invalid (place + 1))
  | ['\\'], _ => .error (.invalid opening)
  | '\\' :: c :: rest, place =>
      match simpleEscape? c with
      | some c => do
          let (pieces, cursor) ← stringPieces opening rest (place + 2)
          .ok (.char c :: pieces, cursor)
      | none => .error (.invalid place)
  | c :: rest, place =>
      if c = '\x22' then .ok ([], ⟨rest, place + 1⟩)
      else if c.toNat < 0x20 then .error (.invalid place)
      else do
        let (pieces, cursor) ← stringPieces opening rest (place + 1)
        .ok (.char c :: pieces, cursor)

/-- Reads a string after its opening quote. -/
def readString (c : Cursor) : Except Failure (String × Cursor) := do
  let (pieces, cursor) ← stringPieces (c.place - 1) c.rest c.place
  .ok (String.ofList (joinPieces pieces), cursor)

/-- The digits at the start of a text. -/
def leadingDigits (text : List Char) : List Char := text.takeWhile Char.isDigit

/-- A fraction: a point with at least one digit. -/
def fractionPart : List Char → List Char
  | '.' :: rest => leadingDigits rest
  | _ => []

/-- An exponent and the number of characters it takes; zero characters when there is none. -/
def exponentPart : List Char → Int × Nat
  | c :: rest =>
      if c = 'e' ∨ c = 'E' then
        let (negative, digits, taken) := match rest with
          | '-' :: rest => (true, leadingDigits rest, 2)
          | '+' :: rest => (false, leadingDigits rest, 2)
          | rest => (false, leadingDigits rest, 1)
        if digits = [] then (0, 0)
        else
          let value : Int := Text.ofDigits (digits.map fun c => c.toNat - 48)
          (if negative then -value else value, taken + digits.length)
      else (0, 0)
  | [] => (0, 0)

/-- Whole numbers may have this many digits. -/
def maxDigits : Nat := 4300

/-- Reads a number, without a sign, that begins with a digit. -/
def readNumber (negative : Bool) (c : Cursor) : Except Failure (Value × Cursor) :=
  let whole := match c.rest with
    | '0' :: _ => ['0']
    | rest => leadingDigits rest
  let c := c.skip whole.length
  let fraction := fractionPart c.rest
  let c := if fraction = [] then c else c.skip (fraction.length + 1)
  let (exponent, taken) := exponentPart c.rest
  let coefficient := Text.ofDigits ((whole ++ fraction).map fun c => c.toNat - 48)
  if fraction = [] ∧ taken = 0 then
    if maxDigits < whole.length then .error .tooManyDigits
    else .ok (.int (if negative then -coefficient else coefficient), c)
  else
    .ok (.float (Binary64.ofDecimal negative coefficient (exponent - fraction.length)),
      c.skip taken)

/-- The words that stand for values. -/
def words : List (String × Value) := [
  ("null", .null), ("true", .bool true), ("false", .bool false), ("NaN", .float .nan),
  ("Infinity", .float (.infinite false)), ("-Infinity", .float (.infinite true))]

def wordAt? (c : Cursor) : Option (Value × Cursor) :=
  (words.find? fun word => word.1.toList.isPrefixOf c.rest).map fun word =>
    (word.2, c.skip word.1.length)

/-- Adds an entry to an object. -/
def put (entries : List (Value × Value)) (key : String) (item : Value) : List (Value × Value) :=
  if entries.any fun entry => entry.1.asText? == some key then
    Value.replaceEntry (fun other => other.asText? == some key) item entries
  else entries ++ [(.text key, item)]

mutual

/-- Reads one value that may hold others down to a depth. `levels` bounds the number of steps
within one another and is never used up by a text as long. -/
def readValue : (levels depth : Nat) → Cursor → Except Failure (Value × Cursor)
  | 0, _, c => c.fail
  | levels + 1, depth, c =>
      match c.rest with
      | [] => c.fail
      | '\x22' :: _ => do
          let (text, c) ← readString (c.skip 1)
          .ok (.text text, c)
      | '\x7b' :: _ =>
          if depth = 0 then .error .tooDeep
          else
            let c := (c.skip 1).skipBlanks
            match c.rest with
            | '\x7d' :: _ => .ok (.dict [], c.skip 1)
            | _ => readEntries levels (depth - 1) [] c
      | '[' :: _ =>
          if depth = 0 then .error .tooDeep
          else
            let c := (c.skip 1).skipBlanks
            match c.rest with
            | ']' :: _ => .ok (.list [], c.skip 1)
            | _ => readItems levels (depth - 1) [] c
      | first :: rest =>
          match wordAt? c with
          | some found => .ok found
          | none =>
              if first.isDigit then readNumber false c
              else if first = '-' ∧ (rest.head?).any Char.isDigit then readNumber true (c.skip 1)
              else c.fail

/-- Reads the items of an array up to its closing bracket. -/
def readItems : (levels depth : Nat) → List Value → Cursor → Except Failure (Value × Cursor)
  | 0, _, _, c => c.fail
  | levels + 1, depth, seen, c => do
      let (item, c) ← readValue levels depth c
      let c := c.skipBlanks
      match c.rest with
      | ']' :: _ => .ok (.list (seen ++ [item]), c.skip 1)
      | ',' :: _ => readItems levels depth (seen ++ [item]) (c.skip 1).skipBlanks
      | _ => c.fail

/-- Reads the entries of an object up to its closing brace. -/
def readEntries : (levels depth : Nat) → List (Value × Value) → Cursor →
    Except Failure (Value × Cursor)
  | 0, _, _, c => c.fail
  | levels + 1, depth, seen, c =>
      match c.rest with
      | '\x22' :: _ => do
          let (key, c) ← readString (c.skip 1)
          let c := c.skipBlanks
          match c.rest with
          | ':' :: _ => do
              let (item, c) ← readValue levels depth (c.skip 1).skipBlanks
              let c := c.skipBlanks
              match c.rest with
              | '\x7d' :: _ => .ok (.dict (put seen key item), c.skip 1)
              | ',' :: _ => readEntries levels depth (put seen key item) (c.skip 1).skipBlanks
              | _ => c.fail
          | _ => c.fail
      | _ => c.fail

end

/-- Arrays and objects may stand in one another this deep. -/
def maxDepth : Nat := 950

/-- Reads a text that holds one value and nothing else but blanks. -/
def read (text : List Char) : Except Failure Value := do
  let (value, c) ← readValue (text.length + 1) maxDepth (Cursor.mk text 0).skipBlanks
  let c := c.skipBlanks
  if c.rest = [] then .ok value else c.fail

end Outreach.Json
