import Outreach.Calendar.Instant
import Outreach.Schema.Checked
import Outreach.Value.Literal

/-!
Writing records as values. A record is written for programs, with its values as they are, or for
exchange as JSON; with all its fields, or only with those that were given when it was read.
-/

namespace Outreach

/-- How a record is written. -/
structure Style where
  json : Bool := true
  onlyGiven : Bool := false
deriving DecidableEq, Repr

namespace Value

/-- The text that bytes encode, or else the bytes, which then have no form in JSON. -/
def ofEncoded (bs : List UInt8) : Value :=
  match String.fromUTF8? bs.toByteArray with
  | some decoded => text decoded
  | none => bytes bs

mutual

/-- The form of a mapping's key in JSON: a text, the keys of a tuple joined by commas. -/
def keyToJson : Value → Value
  | bool b => text (if b then "true" else "false")
  | float x => text (if x.isFinite then String.ofList x.toText else "None")
  | moment m => text (Instant.toText m)
  | bytes bs => ofEncoded bs
  | token op => text op.sign
  | tuple items => text (",".intercalate (keyTexts items))
  | v => text v.display

def keyTexts : List Value → List String
  | [] => []
  | item :: rest => ((keyToJson item).asText?.getD "") :: keyTexts rest

end

mutual

/-- The form of a value in JSON. Numbers that are not finite have none and become null; bytes that
encode no text and containers inside themselves have none and stay. -/
def toJson : Value → Value
  | float x => if x.isFinite then float x else null
  | decimal d => text (String.ofList d.toText)
  | bytes bs => ofEncoded bs
  | date d => text (String.ofList (Moment.dateText d))
  | moment m => text (Instant.toText m)
  | list items | tuple items | set items => list (toJsonItems items)
  | dict entries => dict (toJsonEntries entries)
  | token op => text op.sign
  | rule r => ruleToJson r
  | v => v

def toJsonItems : List Value → List Value
  | [] => []
  | item :: rest => toJson item :: toJsonItems rest

def toJsonEntries : List (Value × Value) → List (Value × Value)
  | [] => []
  | (key, item) :: rest => (keyToJson key, toJson item) :: toJsonEntries rest

def ruleToJson : Rule → Value
  | .leaf field operator value =>
      record [("field", text field.letters), ("operator", text operator.sign),
        ("value", toJson value)]
  | .composite condition rules =>
      record [("condition", text condition.word), ("rules", list (rulesToJson rules))]

def rulesToJson : List Rule → List Value
  | [] => []
  | r :: rest => ruleToJson r :: rulesToJson rest

end

mutual

/-- A value in which mappings stand for the rules. -/
def spelledOut : Value → Value
  | list items => list (spelledOutItems items)
  | tuple items => tuple (spelledOutItems items)
  | set items => set (spelledOutItems items)
  | dict entries => dict (spelledOutEntries entries)
  | rule r => spelledOutRule r
  | v => v

def spelledOutItems : List Value → List Value
  | [] => []
  | item :: rest => spelledOut item :: spelledOutItems rest

def spelledOutEntries : List (Value × Value) → List (Value × Value)
  | [] => []
  | (key, item) :: rest => (key, spelledOut item) :: spelledOutEntries rest

def spelledOutRule : Rule → Value
  | .leaf field operator value =>
      record [("field", ofFieldName field), ("operator", token operator),
        ("value", spelledOut value)]
  | .composite condition rules =>
      record [("condition", text condition.word), ("rules", tuple (spelledOutRules rules))]

def spelledOutRules : List Rule → List Value
  | [] => []
  | r :: rest => spelledOutRule r :: spelledOutRules rest

end

mutual

/-- Whether a value has bytes in it. -/
def hasBytes : Value → Bool
  | bytes _ => true
  | list items | tuple items | set items => anyHasBytes items
  | dict entries => anyEntryHasBytes entries
  | _ => false

def anyHasBytes : List Value → Bool
  | [] => false
  | item :: rest => hasBytes item || anyHasBytes rest

def anyEntryHasBytes : List (Value × Value) → Bool
  | [] => false
  | (key, item) :: rest => hasBytes key || hasBytes item || anyEntryHasBytes rest

end

end Value

namespace Style

def moment (style : Style) (m : Moment) : Value :=
  if style.json then .text (Instant.toText m) else .moment m

def anything (style : Style) (value : Value) : Value :=
  if style.json then value.toJson else value.spelledOut

/-- A field that may not have been given, with the value that then stands for it. -/
def entry {α : Type} (style : Style) (name : String) (default : Value) (write : α → Value) :
    Entry α → List (String × Value)
  | .absent => if style.onlyGiven then [] else [(name, default)]
  | .given value => [(name, write value)]

end Style

namespace Value

/-- Null, or a written value. -/
def ofOption {α : Type} (write : α → Value) : Option α → Value
  | none => null
  | some value => write value

def ofTexts (texts : List String) : Value := list (texts.map text)

end Value

end Outreach
