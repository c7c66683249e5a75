import Outreach.Number.Shortest
import Outreach.Text.Quoted
import Outreach.Value.Basic

/-!
The two texts of a value in messages: plain, where a text stands for itself, and literal, where it
is quoted. The members of a container are always literal.
-/

namespace Outreach.Value

def commaSeparated (parts : List (List Char)) : List Char := (", ".toList).intercalate parts

/-- An offset as the duration that it is, in whole days downwards and the seconds left over. -/
def durationText (microseconds : Int) : List Char :=
  let days := microseconds / microsecondsPerDay
  let rest := (microseconds % microsecondsPerDay).toNat
  let part (name : String) (n : Int) : List (List Char) :=
    if n = 0 then [] else [name.toList ++ '=' :: Text.ofInt n]
  let parts := part "days" days ++ part "seconds" (rest / microsecondsPerSecond : Nat) ++
    part "microseconds" (rest % microsecondsPerSecond : Nat)
  "datetime.timedelta(".toList ++ (if parts = [] then ['0'] else commaSeparated parts) ++ [')']

def zoneText (offset : Offset) : List Char :=
  "datetime.timezone".toList ++
    (if offset.microseconds = 0 then ".utc".toList
     else '(' :: durationText offset.microseconds ++ [')'])

def dateLiteral (d : Date) : List Char :=
  "datetime.date(".toList ++ commaSeparated ([d.year, d.month, d.day].map Text.ofNat) ++ [')']

/-- Hours and minutes are always given, seconds and microseconds as far as they are not zero. -/
def momentLiteral (m : Moment) : List Char :=
  let parts := [m.date.year, m.date.month, m.date.day, m.time.hour, m.time.minute] ++
    (if m.time.second = 0 ∧ m.time.microsecond = 0 then [] else [m.time.second]) ++
    (if m.time.microsecond = 0 then [] else [m.time.microsecond])
  let zone := match m.offset with
    | none => []
    | some offset => ["tzinfo=".toList ++ zoneText offset]
  "datetime.datetime(".toList ++ commaSeparated (parts.map Text.ofNat ++ zone) ++ [')']

def boolText (b : Bool) : List Char := if b then "True".toList else "False".toList

def tokenLiteral (op : Operator) : List Char :=
  '<' :: op.title.toList ++ [':', ' '] ++ Text.quoted op.sign.toList ++ ['>']

def nameLiteral : FieldName → List Char
  | .word letters => Text.quoted letters.toList
  | .token op => tokenLiteral op

def conditionLiteral (condition : Condition) : List Char :=
  "<Condition.".toList ++ condition.word.toList ++ [':', ' '] ++
    Text.quoted condition.word.toList ++ ['>']

/-- A tuple of literals; a single one is followed by a comma. -/
def tupleText : List (List Char) → List Char
  | [part] => '(' :: part ++ [',', ')']
  | parts => '(' :: commaSeparated parts ++ [')']

/-- What stands for a container inside itself. -/
def recurrence : Shape → List Char
  | .list => "[...]".toList
  | .tuple => "(...)".toList
  | .set => "set(...)".toList
  | .dict => "\x7b...\x7d".toList
  | .leaf | .composite => "...".toList

mutual

/-- The literal text of a value. -/
def literal : Value → List Char
  | null => "None".toList
  | bool b => boolText b
  | int n => Text.ofInt n
  | float x => x.toText
  | decimal d => "Decimal(".toList ++ Text.quoted d.toText ++ [')']
  | text s => Text.quoted s.toList
  | bytes bs => Text.quotedBytes bs
  | date d => dateLiteral d
  | moment m => momentLiteral m
  | list items => '[' :: commaSeparated (literals items) ++ [']']
  | tuple items => tupleText (literals items)
  | set [] => "set()".toList
  | set items => '\x7b' :: commaSeparated (literals items) ++ ['\x7d']
  | dict entries => '\x7b' :: commaSeparated (entryLiterals entries) ++ ['\x7d']
  | token op => tokenLiteral op
  | rule r => ruleLiteral r
  | shared _ => recurrence .dict
  | recurring shape => recurrence shape

def literals : List Value → List (List Char)
  | [] => []
  | item :: rest => literal item :: literals rest

def entryLiterals : List (Value × Value) → List (List Char)
  | [] => []
  | (key, item) :: rest => (literal key ++ ':' :: ' ' :: literal item) :: entryLiterals rest

def ruleLiteral : Rule → List Char
  | .leaf field operator value =>
      "LeafRule(".toList ++ commaSeparated [
        "field=".toList ++ nameLiteral field, "operator=".toList ++ tokenLiteral operator,
        "value=".toList ++ literal value] ++ [')']
  | .composite condition rules =>
      "CompositeRule(".toList ++ commaSeparated [
        "condition=".toList ++ conditionLiteral condition,
        "rules=".toList ++ tupleText (ruleLiterals rules)] ++ [')']

def ruleLiterals : List Rule → List (List Char)
  | [] => []
  | r :: rest => ruleLiteral r :: ruleLiterals rest

end

/-- The plain text of a value. -/
def plain : Value → List Char
  | text s => s.toList
  | decimal d => d.toText
  | date d => Moment.dateText d
  | moment m => m.toText ' '
  | token op => op.title.toList
  | v => literal v

/-- The literal text as a string. -/
def inspect (v : Value) : String := String.ofList v.literal

/-- The plain text as a string. -/
def display (v : Value) : String := String.ofList v.plain

end Outreach.Value
