import Outreach.Rule.Parser

/-! Substituting for the references of a value. Two substitutions in a row are one, and so a value
that has been freed of its references is not changed by being freed again. -/

namespace Outreach

namespace Value

mutual

theorem substitute_substitute (first second : Nat → Value) (value : Value) :
    (value.substitute first).substitute second =
      value.substitute fun identity => (first identity).substitute second := by
  cases value with
  | list items => simp only [substitute, substituteItems_substituteItems]
  | tuple items => simp only [substitute, substituteItems_substituteItems]
  | set items => simp only [substitute, substituteItems_substituteItems]
  | dict entries => simp only [substitute, substituteEntries_substituteEntries]
  | rule rule => simp only [substitute, substituteRule_substituteRule]
  | _ => rfl

theorem substituteItems_substituteItems (first second : Nat → Value) (items : List Value) :
    substituteItems second (substituteItems first items) =
      substituteItems (fun identity => (first identity).substitute second) items := by
  cases items with
  | nil => rfl
  | cons item rest =>
    simp only [substituteItems, substitute_substitute, substituteItems_substituteItems]

theorem substituteEntries_substituteEntries (first second : Nat → Value)
    (entries : List (Value × Value)) :
    substituteEntries second (substituteEntries first entries) =
      substituteEntries (fun identity => (first identity).substitute second) entries := by
  cases entries with
  | nil => rfl
  | cons entry rest =>
    obtain ⟨key, item⟩ := entry
    simp only [substituteEntries, substitute_substitute, substituteEntries_substituteEntries]

theorem substituteRule_substituteRule (first second : Nat → Value) (rule : Rule) :
    substituteRule second (substituteRule first rule) =
      substituteRule (fun identity => (first identity).substitute second) rule := by
  cases rule with
  | leaf field operator value => simp only [substituteRule, substitute_substitute]
  | composite condition rules => simp only [substituteRule, substituteRules_substituteRules]

theorem substituteRules_substituteRules (first second : Nat → Value) (rules : List Rule) :
    substituteRules second (substituteRules first rules) =
      substituteRules (fun identity => (first identity).substitute second) rules := by
  cases rules with
  | nil => rfl
  | cons rule rest =>
    simp only [substituteRules, substituteRule_substituteRule, substituteRules_substituteRules]

end

theorem exposed_text (store : ValueStore) (text : String) :
    (Value.text text).exposed store = .text text := by
  unfold exposed
  cases store.length <;> rfl

/-- Without a store every reference is a container that cannot be entered. -/
theorem exposed_nil (value : Value) : value.exposed [] = value.substitute fun _ => recurring .dict :=
  rfl

theorem exposed_nil_exposed_nil (value : Value) :
    (value.exposed []).exposed [] = value.exposed [] := by
  simp only [exposed_nil, substitute_substitute, substitute]

end Value

namespace Rule

mutual

theorem exposed_nil_exposed_nil (rule : Rule) : (rule.exposed []).exposed [] = rule.exposed [] := by
  cases rule with
  | leaf field operator value => simp only [exposed, Value.exposed_nil_exposed_nil]
  | composite condition rules => simp only [exposed, exposedAll_nil_exposedAll_nil]

theorem exposedAll_nil_exposedAll_nil (rules : List Rule) :
    exposedAll [] (exposedAll [] rules) = exposedAll [] rules := by
  cases rules with
  | nil => rfl
  | cons rule rest => simp only [exposedAll, exposed_nil_exposed_nil, exposedAll_nil_exposedAll_nil]

end

end Rule

end Outreach
