import Outreach.Calendar.Moment
import Outreach.Number.Binary64
import Outreach.Number.Decimal
import Outreach.Rule.Operator

/-!
Dynamic values: what a rule compares, what a customer's attributes hold, and what arrives as JSON.
Mappings keep their entries in the order in which they were written, and no two keys of one
mapping are the same.

Rule trees are defined here too, as a rule that has been read can be a value itself: a leaf
compares one attribute of a customer with a value, a composite joins rules by AND or OR.
-/

namespace Outreach

/-- The kinds of containers, as far as they are told apart from outside. -/
inductive Shape where
  | list | tuple | set | dict | leaf | composite
deriving DecidableEq, Repr, Inhabited

mutual

/-- A value of any kind. -/
inductive Value where
  | null
  | bool (b : Bool)
  | int (n : Int)
  | float (x : Binary64)
  | decimal (d : Decimal)
  | text (s : String)
  | bytes (bs : List UInt8)
  | date (d : Date)
  | moment (m : Moment)
  | list (items : List Value)
  | tuple (items : List Value)
  | set (items : List Value)
  | dict (entries : List (Value × Value))
  /-- An operator, which counts as the text of its sign. -/
  | token (op : Operator)
  /-- A rule that has been read. -/
  | rule (rule : Rule)
  /-- A container known by its identity, kept beside the value. -/
  | shared (identity : Nat)
  /-- The place where a container stands inside itself. -/
  | recurring (shape : Shape)

/-- A rule tree. -/
inductive Rule where
  | leaf (field : FieldName) (operator : Operator) (value : Value)
  | composite (condition : Condition) (rules : List Rule)

end

deriving instance Repr for Value, Rule

instance : Inhabited Value := ⟨.null⟩

instance : Inhabited Rule := ⟨.composite default []⟩

/-- The name of the kind of a container. -/
def Shape.kindName : Shape → String
  | list => "list"
  | tuple => "tuple"
  | set => "set"
  | dict => "dict"
  | leaf => "LeafRule"
  | composite => "CompositeRule"

namespace Value

/-- The shape of a container. -/
def shape? : Value → Option Shape
  | list _ => some .list
  | tuple _ => some .tuple
  | set _ => some .set
  | dict _ | shared _ => some .dict
  | rule (.leaf ..) => some .leaf
  | rule (.composite ..) => some .composite
  | recurring shape => some shape
  | _ => none

/-- The name of a value's kind, as messages give it. -/
def kindName : Value → String
  | null => "NoneType"
  | bool _ => "bool"
  | int _ => "int"
  | float _ => "float"
  | decimal _ => "Decimal"
  | text _ => "str"
  | bytes _ => "bytes"
  | date _ => "date"
  | moment _ => "datetime"
  | list _ => Shape.list.kindName
  | tuple _ => Shape.tuple.kindName
  | set _ => Shape.set.kindName
  | dict _ => Shape.dict.kindName
  | token _ => "Operator"
  | rule (.leaf ..) => Shape.leaf.kindName
  | rule (.composite ..) => Shape.composite.kindName
  | shared _ => Shape.dict.kindName
  | recurring shape => shape.kindName

/-- The text of a value that counts as text. -/
def asText? : Value → Option String
  | text s => some s
  | token op => some op.sign
  | _ => none

/-- The name of an attribute that a value that counts as text gives. -/
def asFieldName? : Value → Option FieldName
  | text s => some (.word s)
  | token op => some (.token op)
  | _ => none

/-- The value that gives a name of an attribute. -/
def ofFieldName : FieldName → Value
  | .word letters => text letters
  | .token op => token op

/-- The exact number of a value that counts as a number where values are compared; truth values
count as one and zero. -/
def asNumber? : Value → Option Decimal
  | bool b => some (Decimal.ofInt (if b then 1 else 0))
  | int n => some (Decimal.ofInt n)
  | float x => some (Decimal.ofBinary64 x)
  | decimal d => some d
  | _ => none

/-- Whether a value is a number proper, which a truth value is not. -/
def isNumber : Value → Bool
  | int _ | float _ | decimal _ => true
  | _ => false

/-- The value under a text key. -/
def lookup (entries : List (Value × Value)) (key : String) : Option Value :=
  (entries.find? fun entry => entry.1.asText? == some key).map (·.2)

/-- A mapping with text keys. -/
def record (fields : List (String × Value)) : Value :=
  dict (fields.map fun field => (text field.1, field.2))

mutual

/-- How many containers stand in one another at most. -/
def depth : Value → Nat
  | list items | tuple items | set items => depthOf items + 1
  | dict entries => entryDepth entries + 1
  | rule r => ruleDepth r
  | _ => 0

def depthOf : List Value → Nat
  | [] => 0
  | item :: rest => max (depth item) (depthOf rest)

def entryDepth : List (Value × Value) → Nat
  | [] => 0
  | (key, item) :: rest => max (max (depth key) (depth item)) (entryDepth rest)

def ruleDepth : Rule → Nat
  | .leaf _ _ value => depth value + 1
  | .composite _ rules => rulesDepth rules + 2

def rulesDepth : List Rule → Nat
  | [] => 0
  | r :: rest => max (ruleDepth r) (rulesDepth rest)

end

/-- Whether a value counts as nothing: null, false, zero, or empty. -/
def isEmpty : Value → Bool
  | null => true
  | bool b => !b
  | int n => n = 0
  | float (.finite _ significand _ _) => significand = 0
  | decimal (.finite _ coefficient _) => coefficient = 0
  | text s => s.isEmpty
  | bytes bs => bs.isEmpty
  | list items | tuple items | set items => items.isEmpty
  | dict entries => entries.isEmpty
  | _ => false

/-! ### Attributes

Values that are no mappings have attributes: the parts of which they are made. -/

def dateAttributes (d : Date) : List (String × Value) := [
  ("year", int d.year), ("month", int d.month), ("day", int d.day)]

def clockAttributes (t : ClockTime) : List (String × Value) := [
  ("hour", int t.hour), ("minute", int t.minute), ("second", int t.second),
  ("microsecond", int t.microsecond), ("fold", int 0)]

/-- The attributes of a whole number: it is its own real part and numerator. -/
def integerAttributes (n : Int) : List (String × Value) := [
  ("real", int n), ("imag", int 0), ("numerator", int n), ("denominator", int 1)]

/-- The attributes by which a value tells its parts. -/
def attributes : Value → List (String × Value)
  | bool b => integerAttributes (if b then 1 else 0)
  | int n => integerAttributes n
  | float x => [("real", float x), ("imag", float (Binary64.ofInt 0))]
  | decimal d => [("real", decimal d), ("imag", decimal (Decimal.ofInt 0))]
  | date d => dateAttributes d
  | moment m => dateAttributes m.date ++ clockAttributes m.time
  | token op => [("name", text op.name), ("value", text op.sign)]
  | rule (.leaf field operator value) => [
      ("field", ofFieldName field), ("operator", token operator), ("value", value)]
  | rule (.composite condition rules) => [
      ("condition", text condition.word), ("rules", tuple (rules.map rule))]
  | _ => []

end Value

end Outreach
