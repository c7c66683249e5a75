import Outreach.Proofs.Rule.Reading

/-! The first offence. A rule is refused for the first of its nodes in pre-order that fails the local
check; the proof goes down the levels that are left, with the children of a node read in a row. -/

namespace Outreach.Rule
open RuleError (Kind)

/-- Every node of a rule that stands below the given number of composites passes its check. -/
def AllWellFormed (store : ValueStore) (ancestors : Nat) (value : Value) : Prop :=
  ∀ address node, Reaches store value address node →
    WellFormed store (ancestors + address.length) node

theorem AllWellFormed.of_leaf {store : ValueStore} {ancestors : Nat} {value : Value}
    (root : WellFormed store ancestors value)
    (leaf : ∀ children, ¬HasChildren store value children) :
    AllWellFormed store ancestors value := by
  intro address node reached
  cases reached with
  | root => exact root
  | child composite => exact absurd composite (leaf _)

def visitsLeaf (sign : String) : Value :=
  .record [("field", .text "visits"), ("operator", .text sign), ("value", .int 3)]

end Outreach.Rule
