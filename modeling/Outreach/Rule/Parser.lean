import Outreach.Rule.Basic
import Outreach.Rule.Error
import Outreach.Value.Shared

/-!
Reading written rules. A node is checked where it stands, before its children and they from left to
right, so the first error in that order is the one reported, with the place where it was found.

Written rules may share mappings, and a mapping may enclose itself. Reading follows only rule lists,
knows the mappings that enclose the present node, and stops at the depth limit, so it ends on every
store.
-/

namespace Outreach

namespace Rule

/-- Composites may be nested this deep in written rules. -/
def maxDepth : Nat := 32

/-- What a value is as a node of a written rule. -/
inductive Node where
  | ready (rule : Rule)
  /-- A mapping, with its identity if it has one. -/
  | mapping (identity : Option Nat) (entries : List (Value × Value))
  | other (kind : String)

def node (store : ValueStore) (value : Value) : Node :=
  match value.resolve store with
  | .rule rule => .ready rule
  | .dict entries =>
      .mapping (match value with
        | .shared identity => some identity
        | _ => none) entries
  | other => .other other.kindName

/-- The operator that a value names: an operator itself, or the text of a sign. -/
def operatorOf (path : Option String) (value : Value) : Except RuleError Operator :=
  match value.asText?.bind Operator.ofSign? with
  | some operator => .ok operator
  | none => .error ⟨.unsupportedOperator value, path⟩

/-- The condition that a value names, in any mixture of cases. -/
def conditionOf? (value : Value) : Option Condition := value.asText?.bind Condition.ofWordFolded?

def leafKeys : List String := ["field", "operator", "value"]

/-- Reads a node without condition as a leaf. -/
def parseLeaf (store : ValueStore) (entries : List (Value × Value)) (path : String) :
    Except RuleError Rule :=
  match Value.lookup entries "field", Value.lookup entries "operator",
    Value.lookup entries "value" with
  | some field, some operator, some value =>
      match field.asFieldName? with
      | some name =>
          if name.letters.isEmpty then .error ⟨.emptyField, some path⟩
          else
            match operatorOf (some path) (operator.exposed store) with
            | .ok operator => .ok (.leaf name operator value)
            | .error e => .error e
      | none => .error ⟨.emptyField, some path⟩
  | _, _, _ =>
      let missing := leafKeys.filter fun key => (Value.lookup entries key).isNone
      .error ⟨.missingKeys missing, some path⟩

/-- The members of a rule list. -/
def ruleList? (store : ValueStore) (value : Option Value) : Option (List Value) :=
  match value.map (Value.resolve store) with
  | some (.list items) | some (.tuple items) => some items
  | _ => none

/-- The place of a child. -/
def childPath (path : String) (index : Nat) : String := path ++ ".rules[" ++ toString index ++ "]"

/-- Reads children from left to right, from the given index on, up to the first error. -/
def parseEach (parse : Value → String → Except RuleError Rule) (path : String) :
    Nat → List Value → Except RuleError (List Rule)
  | _, [] => .ok []
  | index, child :: rest =>
      match parse child (childPath path index) with
      | .error e => .error e
      | .ok rule =>
          match parseEach parse path (index + 1) rest with
          | .error e => .error e
          | .ok rules => .ok (rule :: rules)

/-- Reads a node with `levels` levels of composites left below and at it. -/
def parseNode (store : ValueStore) :
    (levels : Nat) → (ancestors : List Nat) → Value → (path : String) → Except RuleError Rule
  | levels, ancestors, value, path =>
      match node store value with
      | .ready rule => .ok rule
      | .other kind => .error ⟨.notAnObject kind, some path⟩
      | .mapping identity entries =>
          if identity.any (ancestors.contains ·) then .error ⟨.cyclic, some path⟩
          else
            match Value.lookup entries "condition" with
            | none => parseLeaf store entries path
            | some word =>
                match conditionOf? word with
                | none => .error ⟨.badCondition (word.exposed store), some path⟩
                | some condition =>
                    match ruleList? store (Value.lookup entries "rules") with
                    | none => .error ⟨.noRuleList, some path⟩
                    | some children =>
                        match levels with
                        | 0 => .error ⟨.tooDeep maxDepth, some path⟩
                        | levels + 1 =>
                            match parseEach
                              (parseNode store levels (identity.toList ++ ancestors)) path 0
                              children with
                            | .error e => .error e
                            | .ok rules => .ok (.composite condition rules)

/-- The place that errors name for the whole rule unless another is given. -/
def rootPath : String := "rules"

/-- Reads a written rule; the values of its leaves still refer to the store. -/
def parseReferring (store : ValueStore) (value : Value) (path : String) : Except RuleError Rule :=
  parseNode store maxDepth [] value path

mutual

/-- A rule whose leaves have their values without references. -/
def exposed (store : ValueStore) : Rule → Rule
  | leaf field operator value => leaf field operator (value.exposed store)
  | composite condition rules => composite condition (exposedAll store rules)

def exposedAll (store : ValueStore) : List Rule → List Rule
  | [] => []
  | rule :: rest => exposed store rule :: exposedAll store rest

end

/-- Reads a written rule whose shared containers are in the store. -/
def parseShared (store : ValueStore) (value : Value) (path : String) : Except RuleError Rule :=
  (parseReferring store value path).map (exposed store)

/-- Reads a written rule. -/
def parse (value : Value) (path : String) : Except RuleError Rule := parseShared [] value path

/-! ### Building rules directly -/

/-- A leaf from its parts. The field is checked before the operator, and errors name no place. -/
def makeLeaf (field operator value : Value) : Except RuleError Rule :=
  match field.asFieldName? with
  | some name =>
      if name.letters.isEmpty then .error ⟨.emptyField, none⟩
      else
        match operatorOf none operator with
        | .ok operator => .ok (.leaf name operator value)
        | .error e => .error e
  | none => .error ⟨.emptyField, none⟩

/-- What stands among the children of a composite built from parts. -/
inductive Child where
  | rule (rule : Rule)
  | other (kind : String)

def gather : List Child → Except RuleError (List Rule)
  | [] => .ok []
  | .rule rule :: rest =>
      match gather rest with
      | .ok rules => .ok (rule :: rules)
      | .error e => .error e
  | .other kind :: _ => .error ⟨.unexpectedChild kind, none⟩

/-- The condition that a value names exactly. -/
def exactConditionOf (value : Value) : Except RuleError Condition :=
  match value.asText?.bind Condition.ofWord? with
  | some condition => .ok condition
  | none => .error ⟨.unknownCondition value, none⟩

/-- The members that a value has where it is gone through; nothing for a value without members. -/
def members? : Value → Option (List Value)
  | .list items | .tuple items | .set items => some items
  | .dict entries => some (entries.map (·.1))
  | .text s => some (s.toList.map fun c => .text (String.ofList [c]))
  | .token op => some (op.sign.toList.map fun c => .text (String.ofList [c]))
  | .bytes bs => some (bs.map fun byte => .int byte.toNat)
  | _ => none

def child (store : ValueStore) (value : Value) : Child :=
  match value.resolve store with
  | .rule rule => .rule rule
  | other => .other other.kindName

end Rule

end Outreach
