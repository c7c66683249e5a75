import Outreach.Customer.Profile
import Outreach.Proofs.Rule.Written

/-! Rules of known fields, written in JSON, on customers whose attributes have their declared types.
Such a rule comes to a verdict, or says that two types do not go together, and to nothing else. -/

namespace Outreach

/-- Texts; an operator counts as its sign. -/
def Value.IsText (value : Value) : Prop := (∃ s, value = .text s) ∨ ∃ op, value = .token op

/-- Whole numbers; truth values count as one and zero. -/
def Value.IsWholeNumber (value : Value) : Prop :=
  (∃ n, value = .int n) ∨ ∃ b, value = .bool b

def Value.IsMoment (value : Value) : Prop := ∃ m, value = .moment m

/-- A customer each of whose attributes is of the type that is declared for it. -/
structure Profile.IsDeclared (profile : Profile) : Prop where
  id : profile.id = .null ∨ profile.id.IsWholeNumber
  name : profile.name = .null ∨ profile.name.IsText
  email : profile.email = .null ∨ profile.email.IsText
  phone : profile.phone = .null ∨ profile.phone.IsText
  totalSpend : profile.totalSpend.IsWholeNumber ∨ ∃ x, profile.totalSpend = .float x
  visits : profile.visits.IsWholeNumber
  lastVisit : profile.lastVisit = .null ∨ profile.lastVisit.IsMoment
  tags : ∃ items, profile.tags = .tuple items ∧ ∀ item ∈ items, item.IsText
  createdAt : profile.createdAt = .null ∨ profile.createdAt.IsMoment
  updatedAt : profile.updatedAt = .null ∨ profile.updatedAt.IsMoment

namespace Rule

/-! ### Kinds of errors -/

theorem toNumber_kind {name : String} {value : Value} {e : RuleError}
    (refused : Field.toNumber name value = .error e) : e.kind = .typeMismatch := by
  unfold Field.toNumber Field.mismatch at refused
  repeat' split at refused
  all_goals
    cases refused
    try rfl

theorem toMoment_kind {name : String} {value : Value} {e : RuleError}
    (refused : Field.toMoment name value = .error e) : e.kind = .typeMismatch := by
  unfold Field.toMoment Field.mismatch at refused
  repeat' split at refused
  all_goals
    cases refused
    try rfl

theorem normalize_kind {field : Field} {value : Value} {e : RuleError}
    (refused : field.normalize value = .error e) : e.kind = .typeMismatch := by
  unfold Field.normalize at refused
  split at refused
  next => cases refused
  next =>
    split at refused
    next => exact toNumber_kind refused
    next => cases refused
    next => exact toMoment_kind refused
    next => cases refused

theorem operand_kind {field : Field} {operator : Operator} {value : Value} {e : RuleError}
    (refused : operand field operator value = .error e) : e.kind = .typeMismatch := by
  unfold operand at refused
  split at refused
  next => cases refused
  next => exact normalize_kind refused

theorem ofVerdict_not_rule {verdict : Value.Verdict} {e : RuleError} :
    ofVerdict verdict ≠ .error (.rule e) := by
  cases verdict <;> simp [ofVerdict]

/-- The errors of operators: two sides that have no order, a part that is no text, and a whole that
has no parts. -/
inductive OperandsError (operator : Operator) (field : String) (customer rule : Value) :
    RuleError → Prop where
  | unordered : OperandsError operator field customer rule
      ⟨.unordered operator customer.kindName field rule.kindName, none⟩
  | substring : OperandsError operator field customer rule
      ⟨.substringOperand field rule.kindName, none⟩
  | notSearchable : OperandsError operator field customer rule
      ⟨.notSearchable field customer.kindName, none⟩

section
variable {operator : Operator} {field : String} {customer rule : Value} {e : RuleError}

theorem compareBy_refused (refused : compareBy operator field customer rule = .error (.rule e)) :
    OperandsError operator field customer rule e := by
  unfold compareBy at refused
  split at refused
  next =>
    cases refused
    exact .unordered
  next => cases refused
  next => cases refused

theorem containment_refused (refused : containment field customer rule = .error (.rule e)) :
    OperandsError operator field customer rule e := by
  unfold containment at refused
  split at refused
  next =>
    split at refused
    next => cases refused
    next =>
      cases refused
      exact .substring
  next =>
    split at refused
    next => exact absurd refused ofVerdict_not_rule
    next => exact absurd refused ofVerdict_not_rule
    next => exact absurd refused ofVerdict_not_rule
    next =>
      cases refused
      exact .notSearchable

theorem applyOperator_refused
    (refused : applyOperator operator field customer rule = .error (.rule e)) :
    OperandsError operator field customer rule e := by
  cases operator with
  | greater | less | atLeast | atMost => exact compareBy_refused refused
  | equal => exact absurd refused ofVerdict_not_rule
  | unequal => exact absurd (negated_error refused) ofVerdict_not_rule
  | contains => exact containment_refused refused
  | notContains => exact containment_refused (negated_error refused)

/-- Operators know no error of the rule engine but that types do not go together. -/
theorem applyOperator_kind
    (refused : applyOperator operator field customer rule = .error (.rule e)) :
    e.kind = .typeMismatch := by
  cases applyOperator_refused refused <;> rfl

end

/-! ### Values on which no operator breaks down -/

/-- What fields of texts and lists read from declared attributes. -/
inductive IsPlain : Value → Prop where
  | null : IsPlain .null
  | text (s : String) : IsPlain (.text s)
  | token (op : Operator) : IsPlain (.token op)
  | tags {items : List Value} (each : ∀ item ∈ items, item.IsText) : IsPlain (.tuple items)

theorem IsPlain.of_text {value : Value} (letters : value.IsText) : IsPlain value := by
  rcases letters with ⟨s, rfl⟩ | ⟨op, rfl⟩
  · exact .text s
  · exact .token op

theorem IsPlain.member {item customer : Value} (plain : IsPlain customer)
    (held : Value.HasMember item customer) : IsPlain item := by
  cases plain with
  | null => cases held
  | text s => cases held
  | token op => cases held
  | tags each =>
    cases held with
    | tuple among => exact .of_text (each item among)

theorem IsPlain.not_decimal {customer : Value} (plain : IsPlain customer) (number : Decimal) :
    ¬Value.IsPart (.decimal number) customer := by
  intro held
  induction held with
  | whole => cases plain
  | inside member below ih => exact ih (plain.member member)

theorem IsPlain.ends {customer : Value} (plain : IsPlain customer) :
    customer.isEndless = false := by
  cases plain with
  | null => rfl
  | text s => rfl
  | token op => rfl
  | @tags items each =>
    rw [Value.isEndless]
    induction items with
    | nil => rfl
    | cons item rest ih =>
      rw [List.forall_mem_cons] at each
      have here : item.isEndless = false := by
        rcases each.1 with ⟨s, rfl⟩ | ⟨op, rfl⟩ <;> rfl
      rw [Value.anyEndless, here, ih each.2]
      rfl

/-- There is no decimal in the value. -/
def IsExactless (value : Value) : Prop := ∀ number, ¬Value.IsPart (.decimal number) value

theorem IsPlain.comparable {customer rule : Value} {fault : Fault} (plain : IsPlain customer)
    (inexact : IsExactless rule) : ¬customer.Incomparable rule fault := by
  rintro (⟨-, held | held⟩ | ⟨endless, -⟩)
  · exact plain.not_decimal _ held
  · exact inexact _ held
  · rw [plain.ends] at endless
    cases endless

theorem IsPlain.not_clash {operator : Operator} {customer rule : Value} {fault : Fault}
    (plain : IsPlain customer) (inexact : IsExactless rule) :
    ¬Clash operator customer rule fault := by
  intro clash
  cases clash with
  | equality kind clash => exact plain.comparable inexact clash
  | unorderedNumbers kind left => cases plain <;> cases left
  | mixedOffsets => cases plain
  | unhashable => cases plain
  | membership kind held clash => exact (plain.member held).comparable inexact clash

theorem json_exactless {value : Value} (json : IsJson value) : IsExactless value := by
  intro number held
  cases json.part held

theorem toTuple_exactless {value : Value} (json : IsJson value) :
    IsExactless (Field.toTuple value) := by
  cases json with
  | @list items each =>
    intro number held
    cases held with
    | inside member below =>
      cases member with
      | tuple among => cases (each _ among).part below
  | null => exact json_exactless .null
  | bool b => exact json_exactless (.bool b)
  | int n => exact json_exactless (.int n)
  | float x => exact json_exactless (.float x)
  | text letters => exact json_exactless (.text letters)
  | dict keys each => exact json_exactless (.dict keys each)

theorem operand_exactless {field : Field} {operator : Operator} {value rule : Value}
    (loose : field.type = .text ∨ field.type = .list) (json : IsJson value)
    (side : operand field operator value = .ok rule) : IsExactless rule := by
  unfold operand at side
  split at side
  next =>
    cases side
    exact json_exactless json
  next =>
    unfold Field.normalize at side
    split at side
    next =>
      cases side
      exact json_exactless .null
    next =>
      rcases loose with type | type
      · rw [type] at side
        cases side
        exact json_exactless json
      · rw [type] at side
        cases side
        exact toTuple_exactless json

/-! ### Fields of customers -/

theorem mem_of_lookup {registry : Registry} {name : String} {field : Field}
    (found : List.lookup name registry = some field) : ∃ entry ∈ registry, entry.2 = field := by
  induction registry with
  | nil => cases found
  | cons entry rest ih =>
    rw [List.lookup_cons] at found
    split at found
    next =>
      cases found
      exact ⟨entry, List.mem_cons_self .., rfl⟩
    next =>
      obtain ⟨other, member, same⟩ := ih found
      exact ⟨other, List.mem_cons_of_mem _ member, same⟩

theorem standard_field {name : String} {field : Field}
    (found : List.lookup name Registry.standard = some field) :
    field ∈ Registry.customerFields := by
  obtain ⟨entry, member, rfl⟩ := mem_of_lookup found
  have all : ∀ entry ∈ Registry.standard, entry.2 ∈ Registry.customerFields := by decide
  exact all entry member

/-- Every field of customers finds an attribute in a declared profile, and those of texts and lists
find plain ones. -/
theorem declared_raw {profile : Profile} (declared : profile.IsDeclared) {field : Field}
    (member : field ∈ Registry.customerFields) :
    ∃ raw, field.raw? profile.subject = some raw ∧
      (field.type = .text ∨ field.type = .list → IsPlain raw) := by
  have letters {value : Value} (typed : value = .null ∨ value.IsText) : IsPlain value := by
    rcases typed with rfl | text
    · exact .null
    · exact .of_text text
  have tags : IsPlain profile.tags := by
    obtain ⟨items, same, each⟩ := declared.tags
    rw [same]
    exact .tags each
  revert field
  simp only [Registry.customerFields, List.forall_mem_cons]
  refine ⟨⟨profile.id, rfl, by simp⟩, ⟨profile.name, rfl, fun _ => letters declared.name⟩,
    ⟨profile.email, rfl, fun _ => letters declared.email⟩,
    ⟨profile.phone, rfl, fun _ => letters declared.phone⟩, ⟨profile.totalSpend, rfl, by simp⟩,
    ⟨profile.visits, rfl, by simp⟩, ⟨profile.lastVisit, rfl, by simp⟩,
    ⟨profile.tags, rfl, fun _ => tags⟩, ⟨profile.createdAt, rfl, by simp⟩,
    ⟨profile.updatedAt, rfl, by simp⟩, by simp⟩

theorem normalize_plain {field : Field} {raw customer : Value}
    (loose : field.type = .text ∨ field.type = .list) (plain : IsPlain raw)
    (brought : field.normalize raw = .ok customer) : IsPlain customer := by
  unfold Field.normalize at brought
  split at brought
  next =>
    cases brought
    exact .null
  next =>
    rcases loose with type | type
    · rw [type] at brought
      cases brought
      exact plain
    · rw [type] at brought
      cases brought
      cases plain with
      | null => exact .null
      | text s => exact .text s
      | token op => exact .token op
      | tags each => exact .tags each

/-- A verdict, or the error that two types do not go together. -/
def IsTyped (answer : Answer) : Prop :=
  (∃ verdict, answer = .ok verdict) ∨ ∃ e, answer = .error (.rule e) ∧ e.kind = .typeMismatch

theorem evaluateLeaf_typed {profile : Profile} (declared : profile.IsDeclared) {name : FieldName}
    {field : Field} (resolved : Registry.standard.resolve (.ofFieldName name) = .ok field)
    (operator : Operator) {value : Value} (json : IsJson value) :
    IsTyped (evaluateLeaf Registry.standard name operator value profile.subject) := by
  obtain ⟨raw, found, plain⟩ := declared_raw declared (standard_field (resolve_eq_ok_iff.mp resolved))
  have read : field.read profile.subject = field.normalize raw := by rw [Field.read, found]
  cases answer : evaluateLeaf Registry.standard name operator value profile.subject with
  | ok verdict => exact .inl ⟨verdict, rfl⟩
  | error e =>
    cases e with
    | fault fault =>
      obtain ⟨_, customer, rule, resolved', loose, brought, side, clash⟩ := evaluateLeaf_fault answer
      obtain rfl := Except.ok.inj (resolved.symm.trans resolved')
      have customer_plain := normalize_plain loose (plain loose) (read.symm.trans brought)
      exact absurd clash (customer_plain.not_clash (operand_exactless loose json side))
    | rule e =>
      refine .inr ⟨e, rfl, ?_⟩
      rcases evaluateLeaf_error resolved answer with unread | unfit | ⟨customer, rule, refused⟩
      · exact normalize_kind (read.symm.trans unread)
      · exact operand_kind unfit
      · exact applyOperator_kind refused

/-- On a declared customer a rule of known fields, with JSON in its leaves, has a verdict or says
that types do not go together. -/
theorem evaluate_typed {profile : Profile} (declared : profile.IsDeclared) {rule : Rule}
    (known : ∀ name ∈ rule.names, ∃ field, Registry.standard.resolve (.ofFieldName name) = .ok field)
    (json : ∀ name operator value, HasLeaf name operator value rule → IsJson value) :
    IsTyped (evaluate Registry.standard profile.subject rule) := by
  cases answer : evaluate Registry.standard profile.subject rule with
  | ok verdict => exact .inl ⟨verdict, rfl⟩
  | error e =>
    obtain ⟨name, operator, value, held, culprit⟩ := evaluate_error answer
    obtain ⟨field, resolved⟩ := known name held.name_mem
    rw [← culprit]
    exact evaluateLeaf_typed declared resolved operator (json name operator value held)

theorem matchesWritten_typed {written normal : Value} (json : IsJson written)
    (accepted : normalForm [] written = .ok normal) {profile : Profile}
    (declared : profile.IsDeclared) :
    IsTyped (matchesWritten Registry.standard [] written profile.subject) := by
  obtain ⟨rule, read, normal⟩ := normalForm_ok (json_unread json) accepted
  rw [matchesWritten_of_ok read]
  exact evaluate_typed declared normal.known fun _ _ _ => parse_json_leaves json read

end Rule

end Outreach
