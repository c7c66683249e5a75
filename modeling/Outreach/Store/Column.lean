import Outreach.Json.Reader
import Outreach.Json.Writer
import Outreach.Schema.Vocabulary
import Outreach.Store.Stamp

/-!
Values given for the columns of a row. A column that is left out, or given as null, gets its
default where it has one; a column of any JSON keeps a given null.
-/

namespace Outreach

/-- Values by the names of their columns. -/
abbrev Columns := List (String × Value)

namespace Columns

def get (given : Columns) (name : String) : Value := (given.lookup name).getD .null

/-- A text that has to be given. -/
def text? (given : Columns) (name : String) : Option String := (given.get name).asText?

def textOr (given : Columns) (name default : String) : String := (given.text? name).getD default

/-- What a text names, or the default where no text is given. -/
def wordOr? {α : Type} [Vocabulary α] (given : Columns) (name : String) (default : α) : Option α :=
  match given.text? name with
  | some text => Vocabulary.ofWord? text
  | none => some default

def int? (given : Columns) (name : String) : Option Int :=
  match given.get name with
  | .int n => some n
  | .bool b => some (if b then 1 else 0)
  | _ => none

def intOr (given : Columns) (name : String) (default : Int) : Int := (given.int? name).getD default

def number? (given : Columns) (name : String) : Option Binary64 :=
  match given.get name with
  | .float x => some x.stored
  | .int n => some (Binary64.ofInt n).stored
  | _ => none

def moment? (given : Columns) (name : String) : Option Moment :=
  match given.get name with
  | .moment m => some m.wallClock
  | _ => none

def stampOr (given : Columns) (name : String) (now : Moment) : Stamp :=
  match given.get name with
  | .moment m => Stamp.ofMoment m
  | _ => Stamp.automatic now

def momentOr (given : Columns) (name : String) (now : Moment) : Moment :=
  (given.stampOr name now).moment

/-- A value as JSON keeps it. -/
def json (value : Value) : Value :=
  match (Json.write? value).map Json.read with
  | some (.ok value) => value
  | _ => .null

def jsonOr (given : Columns) (name : String) (default : Value) : Value :=
  ((given.lookup name).map json).getD default

end Columns

end Outreach
