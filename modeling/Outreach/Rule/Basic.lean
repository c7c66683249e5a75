import Outreach.Value.Same

/-!
Rule trees. A rule is written as a mapping; `Rule.toValue` gives the written form.
-/

namespace Outreach.Rule

/-- The leaf with the complementary operator. -/
def negate : Rule → Rule
  | leaf field operator value => leaf field operator.complement value
  | rule => rule

mutual

/-- The written form of a rule. -/
def toValue : Rule → Value
  | leaf field operator value =>
      .record [("field", .ofFieldName field), ("operator", .text operator.sign), ("value", value)]
  | composite condition rules =>
      .record [("condition", .text condition.word), ("rules", .list (toValues rules))]

def toValues : List Rule → List Value
  | [] => []
  | rule :: rest => toValue rule :: toValues rest

end

mutual

/-- The names of the leaves, from left to right. -/
def names : Rule → List FieldName
  | leaf field _ _ => [field]
  | composite _ rules => namesOf rules

def namesOf : List Rule → List FieldName
  | [] => []
  | rule :: rest => names rule ++ namesOf rest

end

/-- The field names of the leaves in letters, from left to right. -/
def fields (rule : Rule) : List String := rule.names.map FieldName.letters

mutual

/-- How many composites are nested in one another at most. -/
def depth : Rule → Nat
  | leaf .. => 0
  | composite _ rules => depthOf rules + 1

def depthOf : List Rule → Nat
  | [] => 0
  | rule :: rest => max (depth rule) (depthOf rest)

end

end Outreach.Rule
