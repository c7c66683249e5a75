import Outreach.Rule.Field
import Outreach.Rule.Parser

/-!
The normal form of a written rule: the rule read, its field names checked against the registry of
customer fields, and written again. Stored segments hold rules in this form.
-/

namespace Outreach.Rule

/-- The first of some names that the registry does not know. -/
def unknownField? (registry : Registry) (names : List FieldName) : Option FieldName :=
  names.find? fun name => (List.lookup name.letters registry).isNone

/-- Reads a written rule and writes it again, if all its fields are known. -/
def normalForm (store : ValueStore) (written : Value) : Except RuleError Value :=
  match parseShared store written rootPath with
  | .error e => .error e
  | .ok rule =>
      match unknownField? Registry.standard rule.names with
      | some name => .error ⟨.unknownField (.ofFieldName name), none⟩
      | none => .ok rule.toValue

end Outreach.Rule
