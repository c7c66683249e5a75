import Outreach.Rule.Field
import Outreach.Rule.Parser
import Outreach.Text.Pattern

/-!
Evaluating rules on customers. A leaf reads one attribute, brings both sides to the field's type
and applies its operator; composites go through their children from left to right and stop at the
first that decides. Whatever cannot be compared is an error, never a refusal of the customer.
-/

namespace Outreach

/-- Why an evaluation gave no answer. -/
inductive EvaluationError where
  | rule (e : RuleError)
  /-- The values themselves refused to be compared. -/
  | fault (f : Fault)
deriving Repr

namespace Rule

open RuleError (Cause)

abbrev Answer := Except EvaluationError Bool

/-- The order of two numbers; nothing when one of two doubles is not a number. A decimal refuses
to be ordered against what is not a number. -/
def orderNumbers (a b : Value) : Except Fault (Option Ordering) :=
  match a.asNumber?, b.asNumber? with
  | some x, some y =>
      match Decimal.compare? x y, a, b with
      | some order, _, _ => .ok (some order)
      | none, .decimal _, _ => .error .signalingNumber
      | none, _, .decimal _ => .error .signalingNumber
      | none, _, _ => .ok none
  | _, _ => .ok none

/-- The order of two moments by their instants. -/
def orderMoments (m n : Moment) : Except Fault (Option Ordering) :=
  if m.offset.isSome == n.offset.isSome then .ok (some (compare m.instant n.instant))
  else .error .mixedOffsets

/-- The order of two values that have one: numbers, moments, or texts. -/
def order? (a b : Value) : Option (Except Fault (Option Ordering)) :=
  if a.isNumber && b.isNumber then some (orderNumbers a b)
  else
    match a, b with
    | .moment m, .moment n => some (orderMoments m n)
    | _, _ =>
        match a.asText?, b.asText? with
        | some s, some t => some (.ok (some (compare s t)))
        | _, _ => none

/-- Whether an ordering operator holds for an order. -/
def holds (operator : Operator) (order : Ordering) : Bool :=
  match operator with
  | .greater => order.isGT
  | .less => order.isLT
  | .atLeast => order.isGE
  | .atMost => order.isLE
  | _ => false

/-- Applies an ordering operator. -/
def compareBy (operator : Operator) (field : String) (customer rule : Value) : Answer :=
  match order? customer rule with
  | none =>
      .error (.rule ⟨.unordered operator customer.kindName field rule.kindName, none⟩)
  | some (.error f) => .error (.fault f)
  | some (.ok order) => .ok (order.any (holds operator))

/-- The verdict of a comparison as an answer. -/
def ofVerdict : Value.Verdict → Answer
  | .ok b => .ok b
  | .error f => .error (.fault f)

/-- Whether the customer's text or collection contains the rule's value. -/
def containment (field : String) (customer rule : Value) : Answer :=
  match customer.asText? with
  | some whole =>
      match rule.asText? with
      | some part => .ok (Text.occursIn part.toList whole.toList)
      | none => .error (.rule ⟨.substringOperand field rule.kindName, none⟩)
  | none =>
      match customer with
      | .list items | .tuple items => ofVerdict (Value.memberOf rule items)
      | .set items => ofVerdict (Value.memberOfSet rule items)
      | _ => .error (.rule ⟨.notSearchable field customer.kindName, none⟩)

def negated : Answer → Answer
  | .ok b => .ok !b
  | .error e => .error e

/-- Applies an operator to the two sides of a leaf. -/
def applyOperator (operator : Operator) (field : String) (customer rule : Value) : Answer :=
  match operator with
  | .greater | .less | .atLeast | .atMost => compareBy operator field customer rule
  | .equal => ofVerdict (Value.same false customer rule)
  | .unequal => negated (ofVerdict (Value.same false customer rule))
  | .contains => containment field customer rule
  | .notContains => negated (containment field customer rule)

/-- The rule's side of a leaf: an element for the membership operators, else a value of the
field's type. -/
def operand (field : Field) (operator : Operator) (value : Value) : Field.Outcome :=
  if operator.kind = .membership then .ok value else field.normalize value

/-- Evaluates a leaf. -/
def evaluateLeaf (registry : Registry) (name : FieldName) (operator : Operator) (value : Value)
    (subject : Subject) : Answer :=
  match registry.resolve (.ofFieldName name) with
  | .error e => .error (.rule e)
  | .ok field =>
      match field.read subject with
      | .error e => .error (.rule e)
      | .ok customer =>
          match operand field operator value with
          | .error e => .error (.rule e)
          | .ok rule => applyOperator operator name.display customer rule

mutual

/-- Evaluates a rule tree. -/
def evaluate (registry : Registry) (subject : Subject) : Rule → Answer
  | leaf field operator value => evaluateLeaf registry field operator value subject
  | composite .all rules => evaluateAll registry subject rules
  | composite .any rules => evaluateAny registry subject rules

/-- True when all rules are; the first that is false, or fails, decides. -/
def evaluateAll (registry : Registry) (subject : Subject) : List Rule → Answer
  | [] => .ok true
  | rule :: rest =>
      match evaluate registry subject rule with
      | .ok true => evaluateAll registry subject rest
      | answer => answer

/-- True when one rule is; the first that is true, or fails, decides. -/
def evaluateAny (registry : Registry) (subject : Subject) : List Rule → Answer
  | [] => .ok false
  | rule :: rest =>
      match evaluate registry subject rule with
      | .ok false => evaluateAny registry subject rest
      | answer => answer

end

/-- Reads a written rule and evaluates it. The whole rule is read before anything is evaluated. -/
def matchesWritten (registry : Registry) (store : ValueStore) (written : Value)
    (subject : Subject) : Answer :=
  match parseShared store written rootPath with
  | .ok rule => evaluate registry subject rule
  | .error e => .error (.rule e)

end Rule

end Outreach
