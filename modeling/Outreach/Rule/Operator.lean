/-!
The vocabulary of rules: eight operators, each with the sign it is written by and the operator of
the opposite outcome, the names by which rules call attributes, and the two conditions that join
rules.
-/

namespace Outreach

/-- How a leaf compares a customer's attribute with its value. -/
inductive Operator where
  | greater | less | atLeast | atMost | equal | unequal | contains | notContains
deriving DecidableEq, Repr, Inhabited

namespace Operator

/-- All operators, in the order in which they are listed. -/
def all : List Operator :=
  [greater, less, atLeast, atMost, equal, unequal, contains, notContains]

theorem mem_all (op : Operator) : op ∈ all := by cases op <;> decide

/-- The sign that stands for an operator in a written rule. -/
def sign : Operator → String
  | greater => ">"
  | less => "<"
  | atLeast => ">="
  | atMost => "<="
  | equal => "="
  | unequal => "!="
  | contains => "contains"
  | notContains => "not_contains"

/-- The name of an operator. -/
def name : Operator → String
  | greater => "GT"
  | less => "LT"
  | atLeast => "GTE"
  | atMost => "LTE"
  | equal => "EQ"
  | unequal => "NEQ"
  | contains => "CONTAINS"
  | notContains => "NOT_CONTAINS"

/-- The name of an operator as messages show it. -/
def title (op : Operator) : String := "Operator." ++ op.name

/-- The operator with the given sign. -/
def ofSign? (text : String) : Option Operator := all.find? fun op => op.sign = text

theorem ofSign?_sign (op : Operator) : ofSign? op.sign = some op := by cases op <;> decide

theorem sign_of_ofSign? {text : String} {op : Operator} (h : ofSign? text = some op) :
    op.sign = text := by
  simpa using List.find?_some h

/-- The operator with the given name. -/
def ofName? (text : String) : Option Operator := all.find? fun op => op.name = text

/-- The operator whose outcome is the opposite. -/
def complement : Operator → Operator
  | greater => atMost
  | atMost => greater
  | less => atLeast
  | atLeast => less
  | equal => unequal
  | unequal => equal
  | contains => notContains
  | notContains => contains

theorem complement_complement (op : Operator) : op.complement.complement = op := by
  cases op <;> rfl

/-- The three kinds of comparison. -/
inductive Kind where
  | ordering | equality | membership
deriving DecidableEq, Repr

def kind : Operator → Kind
  | greater | less | atLeast | atMost => .ordering
  | equal | unequal => .equality
  | contains | notContains => .membership

theorem kind_complement (op : Operator) : op.complement.kind = op.kind := by cases op <;> rfl

end Operator

/-- What a rule calls an attribute by: a word, or an operator, which counts as its sign but is shown
as the operator that it is. -/
inductive FieldName where
  | word (letters : String)
  | token (op : Operator)
deriving DecidableEq, Repr, Inhabited

namespace FieldName

/-- The letters that are looked up. -/
def letters : FieldName → String
  | word letters => letters
  | token op => op.sign

/-- The name as messages show it. -/
def display : FieldName → String
  | word letters => letters
  | token op => op.title

theorem letters_word (letters : String) : (word letters).letters = letters := rfl

end FieldName

/-- How a composite rule joins its children. -/
inductive Condition where
  | all | any
deriving DecidableEq, Repr, Inhabited

namespace Condition

/-- The word that stands for a condition in a written rule. -/
def word : Condition → String
  | all => "AND"
  | any => "OR"

/-- The condition written exactly by its word. -/
def ofWord? (text : String) : Option Condition :=
  if text = all.word then some all else if text = any.word then some any else none

/-- The condition written by its word in any mixture of cases. -/
def ofWordFolded? (text : String) : Option Condition :=
  ofWord? (String.ofList (text.toList.map Char.toUpper))

theorem ofWord?_word (c : Condition) : ofWord? c.word = some c := by cases c <;> decide

def dual : Condition → Condition
  | all => any
  | any => all

end Condition

end Outreach
