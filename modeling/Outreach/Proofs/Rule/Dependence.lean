import Outreach.Proofs.Rule.Declared

/-! What an evaluation depends on: the fields that the leaves of a rule name, and of a customer what
these fields read. A field that is named and known can still be missed at a customer. The error then
names the field by its own name, which the registry need not know. -/

namespace Outreach.Rule

variable {registry : Registry}

theorem HasLeaf.mem_fields {name : FieldName} {operator : Operator} {value : Value} {rule : Rule}
    (held : HasLeaf name operator value rule) : name.letters ∈ rule.fields :=
  List.mem_map_of_mem held.name_mem

theorem resolve_letters {name : FieldName} {field : Field} :
    registry.resolve (.ofFieldName name) = .ok field ↔
      registry.resolve (.text name.letters) = .ok field := by
  have word := @resolve_eq_ok_iff registry (.word name.letters) field
  exact resolve_eq_ok_iff.trans word.symm

/-! ### What is read -/

/-- The fields that a rule names read the same from both customers. -/
def ReadAlike (registry : Registry) (rule : Rule) (first second : Subject) : Prop :=
  ∀ name ∈ rule.fields, ∀ field, registry.resolve (.text name) = .ok field →
    field.read first = field.read second

theorem evaluateLeaf_congr {name : FieldName} {first second : Subject}
    (alike : ∀ field, registry.resolve (.ofFieldName name) = .ok field →
      field.read first = field.read second) (operator : Operator) (value : Value) :
    evaluateLeaf registry name operator value first =
      evaluateLeaf registry name operator value second := by
  unfold evaluateLeaf
  cases resolved : registry.resolve (.ofFieldName name) with
  | error e => rfl
  | ok field => simp only [alike field resolved]

/-- Where every leaf has one answer for two customers, so has the tree. -/
theorem evaluate_congr {rule : Rule} {first second : Subject}
    (alike : ∀ name operator value, HasLeaf name operator value rule →
      evaluateLeaf registry name operator value first =
        evaluateLeaf registry name operator value second) :
    evaluate registry first rule = evaluate registry second rule := by
  induction rule using treeInduction with
  | leaf name operator value => exact alike name operator value .here
  | composite condition rules ih =>
    rw [evaluate_composite, evaluate_composite]
    congr 1
    refine List.map_congr_left fun part member => ih part member ?_
    exact fun name operator value held => alike name operator value (.inside member held)

theorem ReadAlike.evaluate {rule : Rule} {first second : Subject}
    (alike : ReadAlike registry rule first second) :
    Rule.evaluate registry first rule = Rule.evaluate registry second rule :=
  evaluate_congr fun _ operator value held => evaluateLeaf_congr
    (fun field resolved => alike _ held.mem_fields field (resolve_letters.mp resolved))
    operator value

/-! ### What is missing -/

theorem read_unknown {field : Field} {subject : Subject} {name : Value} {path : Option String}
    (refused : field.read subject = .error ⟨.unknownField name, path⟩) :
    name = .text field.name ∧ path = none ∧ field.raw? subject = none := by
  unfold Field.read at refused
  split at refused
  next => cases normalize_kind refused
  next missing =>
    cases refused
    exact ⟨rfl, rfl, missing⟩

/-- A leaf of a known field says that a field is unknown only where the customer lacks it. -/
theorem evaluateLeaf_unknown {name : FieldName} {operator : Operator} {value : Value}
    {subject : Subject} {field : Field} {missing : Value} {path : Option String}
    (resolved : registry.resolve (.ofFieldName name) = .ok field)
    (refused : evaluateLeaf registry name operator value subject =
      .error (.rule ⟨.unknownField missing, path⟩)) :
    missing = .text field.name ∧ path = none ∧ field.raw? subject = none := by
  rcases evaluateLeaf_error resolved refused with unread | unfit | ⟨customer, rule, refused⟩
  · exact read_unknown unread
  · cases operand_kind unfit
  · cases applyOperator_kind refused

/-- Two customers from which the fields that a rule names read the same have the same outcome. Where
all these names are known, a field that is said to be unknown is one that some name of the rule calls
and that the customer lacks. It is said by its own name, which the registry knows unless the rule
calls the field by another one. -/
theorem matchesWritten_dependence {registry : Registry} {store : ValueStore} {written : Value}
    {rule : Rule} (read : parseShared store written rootPath = .ok rule) :
    (∀ first second, ReadAlike registry rule first second →
      matchesWritten registry store written first = matchesWritten registry store written second) ∧
    ((∀ name ∈ rule.fields, ∃ field, registry.resolve (.text name) = .ok field) →
      ∀ subject missing path,
        matchesWritten registry store written subject =
          .error (.rule ⟨.unknownField missing, path⟩) →
        ∃ name ∈ rule.fields, ∃ field, registry.resolve (.text name) = .ok field ∧
          field.raw? subject = none ∧ missing = .text field.name ∧ path = none ∧
          ((∃ own, registry.resolve missing = .ok own) ∨ field.name ≠ name)) := by
  constructor
  · intro first second alike
    rw [matchesWritten_of_ok read, matchesWritten_of_ok read]
    exact alike.evaluate
  · intro known subject missing path refused
    rw [matchesWritten_of_ok read] at refused
    obtain ⟨name, operator, value, held, culprit⟩ := evaluate_error refused
    obtain ⟨field, resolved⟩ := known name.letters held.mem_fields
    obtain ⟨rfl, rfl, absent⟩ := evaluateLeaf_unknown (resolve_letters.mpr resolved) culprit
    refine ⟨name.letters, held.mem_fields, field, resolved, absent, rfl, rfl, ?_⟩
    by_cases own : field.name = name.letters
    · exact .inl ⟨field, own ▸ resolved⟩
    · exact .inr own

/-- The spending under a name of the registry's own. -/
def renamed : Registry :=
  [("name", ⟨"name", "name", .text, ""⟩), ("spend", ⟨"totalSpend", "total_spend", .number, ""⟩)]

/-- Customers of a name or of some spending. -/
def spender : Rule := .composite .any [
  .leaf (.word "name") .contains (.text "Grace"), .leaf (.word "spend") .greater (.int 0)]

/-- Ada, who spent five. -/
def buyer (visits : Int) : Subject := .mapping [
  (.text "name", .text "Ada"), (.text "total_spend", .int 5), (.text "visits", .int visits)]

theorem mem_spender_fields {name : String} :
    name ∈ spender.fields ↔ name = "name" ∨ name = "spend" := by
  simp [spender, fields, names, namesOf, FieldName.letters]

theorem spender_known :
    ∀ name ∈ spender.fields, ∃ field, renamed.resolve (.text name) = .ok field := by
  intro name member
  rcases mem_spender_fields.mp member with rfl | rfl
  · exact ⟨_, rfl⟩
  · exact ⟨_, rfl⟩

/-- Visits do not count for a rule on names and spending, and where there is no spending it is missed
by its own name. -/
theorem spender_depends :
    ReadAlike renamed spender (buyer 1) (buyer 2) ∧
    matchesWritten renamed [] (.rule spender) (buyer 1) = .ok true ∧
    matchesWritten renamed [] (.rule spender) (buyer 1) =
      matchesWritten renamed [] (.rule spender) (buyer 2) ∧
    ∃ name ∈ spender.fields, ∃ field, renamed.resolve (.text name) = .ok field ∧
      field.raw? (.mapping [(.text "name", .text "Ada")]) = none ∧
      Value.text "totalSpend" = .text field.name := by
  have read : parseShared [] (.rule spender) rootPath = .ok spender := rfl
  have alike : ReadAlike renamed spender (buyer 1) (buyer 2) := by
    intro name member field resolved
    rcases mem_spender_fields.mp member with rfl | rfl
    · cases resolved
      rfl
    · cases resolved
      rfl
  obtain ⟨name, member, field, resolved, absent, missing, -⟩ :=
    (matchesWritten_dependence read).2 spender_known (.mapping [(.text "name", .text "Ada")])
      (.text "totalSpend") none rfl
  exact ⟨alike, rfl, (matchesWritten_dependence read).1 _ _ alike,
    name, member, field, resolved, absent, missing⟩

/-- The registry knows all names of the rule, and not the name by which a field is missed. -/
theorem spender_unknown :
    (∀ name ∈ spender.fields, ∃ field, renamed.resolve (.text name) = .ok field) ∧
    matchesWritten renamed [] (.rule spender) (.mapping [(.text "name", .text "Ada")]) =
      .error (.rule ⟨.unknownField (.text "totalSpend"), none⟩) ∧
    ¬∃ own, renamed.resolve (.text "totalSpend") = .ok own := by
  refine ⟨spender_known, rfl, ?_⟩
  rintro ⟨own, found⟩
  cases found

end Outreach.Rule
