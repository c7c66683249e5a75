import Mathlib.Data.List.Forall2
import Outreach.Proofs.Rule.Written

/-! When written rules count as the same. They have one shape then, with the same conditions, fields
and operators, and only the values of their leaves may differ, as values that are the same: a whole
number and the double of its value, or one and the truth value that counts as one. -/

namespace Outreach

namespace Value

variable {a b : Value} {xs ys : List Value}

end Value

namespace Rule

/-- Rules that differ in the values of their leaves at most, and have the same value there. -/
inductive Resembles : Rule → Rule → Prop where
  | leaf {name other : FieldName} (operator : Operator) {value instead : Value}
      (named : name.letters = other.letters) (same : value.isSame instead) :
      Resembles (.leaf name operator value) (.leaf other operator instead)
  | composite (condition : Condition) {rules others : List Rule}
      (alike : List.Forall₂ Resembles rules others) :
      Resembles (.composite condition rules) (.composite condition others)

theorem word_injective : Function.Injective Condition.word := by
  intro one other
  cases one <;> cases other <;> decide

end Rule

end Outreach
