import Outreach.Proofs.Number.Compared
import Outreach.Proofs.Rule.Evaluation
import Outreach.Proofs.Value.Sameness

/-! What an evaluation can end in. Besides a verdict and an error of the rule engine there is the
fault of two values that refuse to be compared. It arises at a single leaf, and only where the field
leaves the customer's value as it is: fields of numbers and of dates bring both sides to a form in
which every comparison has an answer. -/

namespace Outreach.Rule

/-- Every rule is a leaf or a composite of rules for which the property holds already. -/
@[elab_as_elim]
theorem treeInduction {motive : Rule → Prop}
    (leaf : ∀ field operator value, motive (.leaf field operator value))
    (composite : ∀ condition rules, (∀ rule ∈ rules, motive rule) →
      motive (.composite condition rules)) (rule : Rule) : motive rule :=
  match rule with
  | .leaf field operator value => leaf field operator value
  | .composite condition rules =>
    composite condition rules fun part _ => treeInduction leaf composite part
termination_by sizeOf rule

/-- A leaf of a rule tree, at any depth. -/
inductive HasLeaf (name : FieldName) (operator : Operator) (value : Value) : Rule → Prop where
  | here : HasLeaf name operator value (.leaf name operator value)
  | inside {condition : Condition} {rules : List Rule} {rule : Rule} (member : rule ∈ rules)
      (held : HasLeaf name operator value rule) :
      HasLeaf name operator value (.composite condition rules)

/-- The two sides of a leaf on which its operator breaks down, with the fault that results. -/
inductive Clash (operator : Operator) : (customer rule : Value) → Fault → Prop where
  | equality {customer rule : Value} {fault : Fault} (kind : operator.kind = .equality)
      (clash : customer.Incomparable rule fault) : Clash operator customer rule fault
  /-- A decimal is ordered against what is not a number, or is none itself. -/
  | unorderedNumbers {customer rule : Value} {x y : Decimal} (kind : operator.kind = .ordering)
      (left : customer.asNumber? = some x) (right : rule.asNumber? = some y)
      (unordered : Decimal.compare? x y = none)
      (exact : customer = .decimal x ∨ rule = .decimal y) :
      Clash operator customer rule .signalingNumber
  /-- A moment with an offset is ordered against one without. -/
  | mixedOffsets {m n : Moment} (kind : operator.kind = .ordering)
      (mixed : m.offset.isSome ≠ n.offset.isSome) :
      Clash operator (.moment m) (.moment n) .mixedOffsets
  /-- A value that can change is looked up in a set. -/
  | unhashable {items : List Value} {rule : Value} (kind : operator.kind = .membership)
      (changeable : rule.isHashable = false) : Clash operator (.set items) rule .unhashable
  /-- A member of the customer's collection cannot be compared with the rule's value. -/
  | membership {customer item rule : Value} {fault : Fault} (kind : operator.kind = .membership)
      (held : Value.HasMember item customer) (clash : item.Incomparable rule fault) :
      Clash operator customer rule fault

/-! ### Operators -/

theorem ofVerdict_fault {verdict : Value.Verdict} {fault : Fault}
    (refused : ofVerdict verdict = .error (.fault fault)) : verdict = .error fault := by
  cases verdict with
  | ok b => cases refused
  | error other =>
    cases refused
    rfl

theorem negated_error {answer : Answer} {e : EvaluationError} (refused : negated answer = .error e) :
    answer = .error e := by
  cases answer with
  | ok b => cases refused
  | error other =>
    cases refused
    rfl

theorem orderNumbers_error {customer rule : Value} {fault : Fault}
    (refused : orderNumbers customer rule = .error fault) :
    fault = .signalingNumber ∧ ∃ x y, customer.asNumber? = some x ∧ rule.asNumber? = some y ∧
      Decimal.compare? x y = none ∧ (customer = .decimal x ∨ rule = .decimal y) := by
  unfold orderNumbers at refused
  split at refused
  next x y left right =>
    split at refused
    next => cases refused
    next d unordered =>
      cases refused
      exact ⟨rfl, x, y, left, right, unordered, .inl (by rw [← Option.some.inj left])⟩
    next d unordered _ =>
      cases refused
      exact ⟨rfl, x, y, left, right, unordered, .inr (by rw [← Option.some.inj right])⟩
    next => cases refused
  next => cases refused

theorem orderMoments_error {m n : Moment} {fault : Fault}
    (refused : orderMoments m n = .error fault) :
    fault = .mixedOffsets ∧ m.offset.isSome ≠ n.offset.isSome := by
  unfold orderMoments at refused
  split at refused
  next => cases refused
  next mixed =>
    cases refused
    exact ⟨rfl, by simpa using mixed⟩

theorem compareBy_fault {operator : Operator} (kind : operator.kind = .ordering) {field : String}
    {customer rule : Value} {fault : Fault}
    (refused : compareBy operator field customer rule = .error (.fault fault)) :
    Clash operator customer rule fault := by
  unfold compareBy at refused
  split at refused
  next => cases refused
  next found =>
    cases refused
    unfold order? at found
    split at found
    next =>
      obtain ⟨rfl, x, y, left, right, unordered, exact⟩ := orderNumbers_error (Option.some.inj found)
      exact .unorderedNumbers kind left right unordered exact
    next =>
      split at found
      next m n =>
        obtain ⟨rfl, mixed⟩ := orderMoments_error (Option.some.inj found)
        exact .mixedOffsets kind mixed
      next => split at found <;> cases found
  next => cases refused

theorem containment_fault {operator : Operator} (kind : operator.kind = .membership)
    {field : String} {customer rule : Value} {fault : Fault}
    (refused : containment field customer rule = .error (.fault fault)) :
    Clash operator customer rule fault := by
  have among {items : List Value} (each : ∀ item ∈ items, Value.HasMember item customer)
      (lost : Value.memberOf rule items = .error fault) : Clash operator customer rule fault := by
    obtain ⟨item, member, clash⟩ := Value.anyMember_error lost
    exact .membership kind (each item member) (Value.same_error false item rule fault clash)
  unfold containment at refused
  split at refused
  next => split at refused <;> cases refused
  next =>
    split at refused
    next items => exact among (fun item => .list) (ofVerdict_fault refused)
    next items => exact among (fun item => .tuple) (ofVerdict_fault refused)
    next items =>
      have lost := ofVerdict_fault refused
      unfold Value.memberOfSet at lost
      split at lost
      next => exact among (fun item => .set) lost
      next =>
        split at lost
        next => exact among (fun item => .set) lost
        next changeable =>
          cases lost
          exact .unhashable kind (by simpa using changeable)
    next => cases refused

theorem applyOperator_fault {operator : Operator} {field : String} {customer rule : Value}
    {fault : Fault} (refused : applyOperator operator field customer rule = .error (.fault fault)) :
    Clash operator customer rule fault := by
  cases operator with
  | greater | less | atLeast | atMost => exact compareBy_fault rfl refused
  | equal => exact .equality rfl (Value.same_error false customer rule fault (ofVerdict_fault refused))
  | unequal =>
    have lost := ofVerdict_fault (negated_error refused)
    exact .equality rfl (Value.same_error false customer rule fault lost)
  | contains => exact containment_fault rfl refused
  | notContains => exact containment_fault rfl (negated_error refused)

/-! ### Fields that bring both sides to one form -/

/-- The values to which a field of numbers or dates brings what is not null. -/
inductive IsSettled : FieldType → Value → Prop where
  | null (type : FieldType) : IsSettled type .null
  | int (n : Int) : IsSettled .number (.int n)
  | float {x : Binary64} (finite : x.isFinite) : IsSettled .number (.float x)
  | decimal {d : Decimal} (finite : d.isFinite) : IsSettled .number (.decimal d)
  | moment {m : Moment} (placed : m.offset.isSome) : IsSettled .date (.moment m)

theorem toNumber_settled {name : String} {value result : Value}
    (brought : Field.toNumber name value = .ok result) : IsSettled .number result := by
  unfold Field.toNumber Field.mismatch at brought
  split at brought
  next => cases brought
  next n =>
    cases brought
    exact .int n
  next x =>
    split at brought
    next finite =>
      cases brought
      exact .float finite
    next => cases brought
  next d =>
    split at brought
    next finite =>
      cases brought
      exact .decimal finite
    next => cases brought
  next =>
    split at brought
    next => cases brought
    next s _ =>
      split at brought
      next => cases brought
      next d _ =>
        split at brought
        next finite =>
          cases brought
          exact .decimal finite
        next => cases brought

theorem toMoment_settled {name : String} {value result : Value}
    (brought : Field.toMoment name value = .ok result) : IsSettled .date result := by
  have placed (m : Moment) : IsSettled .date (.moment m.inUniversalTime) := .moment rfl
  unfold Field.toMoment Field.mismatch at brought
  split at brought
  next m =>
    cases brought
    exact placed m
  next d =>
    cases brought
    exact placed (.ofDate d)
  next =>
    split at brought
    next => cases brought
    next s _ =>
      split at brought
      next => cases brought
      next m _ =>
        cases brought
        exact placed m

theorem normalize_settled {field : Field} {value result : Value}
    (exact : field.type = .number ∨ field.type = .date)
    (brought : field.normalize value = .ok result) : IsSettled field.type result := by
  unfold Field.normalize at brought
  split at brought
  next =>
    cases brought
    exact .null field.type
  next =>
    rcases exact with type | type
    · rw [type] at brought ⊢
      exact toNumber_settled brought
    · rw [type] at brought ⊢
      exact toMoment_settled brought

theorem read_settled {field : Field} {subject : Subject} {customer : Value}
    (exact : field.type = .number ∨ field.type = .date)
    (read : field.read subject = .ok customer) : IsSettled field.type customer := by
  unfold Field.read at read
  split at read
  next => exact normalize_settled exact read
  next => cases read

theorem IsSettled.part {type : FieldType} {value part : Value} (settled : IsSettled type value)
    (held : Value.IsPart part value) : part = value := by
  cases held with
  | whole => rfl
  | inside member => cases settled <;> cases member

theorem IsSettled.comparable {type : FieldType} {customer rule : Value} {fault : Fault}
    (left : IsSettled type customer) (right : IsSettled type rule) :
    ¬customer.Incomparable rule fault := by
  have sound {value : Value} {number : Decimal} (settled : IsSettled type value)
      (held : Value.IsPart (.decimal number) value) : ¬number.isSignaling := by
    cases settled.part held
    cases settled with
    | decimal finite => cases number <;> simp_all [Decimal.isFinite, Decimal.isSignaling]
  rintro (⟨signaling, held | held⟩ | ⟨endless, -⟩)
  · exact sound left held signaling
  · exact sound right held signaling
  · cases left <;> cases endless

theorem IsSettled.asNumber? {type : FieldType} {value : Value} {number : Decimal}
    (settled : IsSettled type value) (reads : value.asNumber? = some number) : number.isFinite := by
  cases settled with
  | null => cases reads
  | int n =>
    cases reads
    rfl
  | float finite =>
    cases reads
    exact (Binary64.isFinite_ofBinary64 _).trans finite
  | decimal finite =>
    cases reads
    exact finite
  | moment => cases reads

/-- Fields of numbers and dates leave no operator anything to break down on. -/
theorem IsSettled.not_clash {type : FieldType} {operator : Operator} {customer rule : Value}
    {fault : Fault} (left : IsSettled type customer)
    (right : operator.kind ≠ .membership → IsSettled type rule) :
    ¬Clash operator customer rule fault := by
  intro clash
  cases clash with
  | equality kind clash => exact left.comparable (right (by simp [kind])) clash
  | unorderedNumbers kind first second unordered =>
    have settled := right (by simp [kind])
    have ordered := Decimal.compare?_of_finite (left.asNumber? first) (settled.asNumber? second)
    cases unordered.symm.trans ordered
  | mixedOffsets kind mixed =>
    cases left with
    | moment placed =>
      cases right (by simp [kind]) with
      | moment other => exact mixed (by rw [placed, other])
  | unhashable => cases left
  | membership kind held => cases left <;> cases held

/-! ### Leaves and trees -/

/-- A leaf whose two sides, brought to the type of the field that it names, clash. -/
def Clashes (registry : Registry) (subject : Subject) (name : FieldName) (operator : Operator)
    (value : Value) (fault : Fault) : Prop :=
  ∃ field customer rule, registry.resolve (.ofFieldName name) = .ok field ∧
    (field.type = .text ∨ field.type = .list) ∧ field.read subject = .ok customer ∧
    operand field operator value = .ok rule ∧ Clash operator customer rule fault

/-- What a leaf does: an error of the rule engine from its field or one of its sides, or its operator
on the two sides. -/
theorem evaluateLeaf_cases (registry : Registry) (name : FieldName) (operator : Operator)
    (value : Value) (subject : Subject) :
    (∃ e, evaluateLeaf registry name operator value subject = .error (.rule e)) ∨
    ∃ field customer rule, registry.resolve (.ofFieldName name) = .ok field ∧
      field.read subject = .ok customer ∧ operand field operator value = .ok rule ∧
      evaluateLeaf registry name operator value subject =
        applyOperator operator name.display customer rule := by
  unfold evaluateLeaf
  cases resolved : registry.resolve (.ofFieldName name) with
  | error e => exact .inl ⟨e, rfl⟩
  | ok field =>
    cases read : field.read subject with
    | error e => exact .inl ⟨e, by simp only [read]⟩
    | ok customer =>
      cases side : operand field operator value with
      | error e => exact .inl ⟨e, by simp only [read, side]⟩
      | ok rule => exact .inr ⟨field, customer, rule, rfl, read, side, by simp only [read, side]⟩

/-- What a leaf of a known field is refused for: the customer's side, its own side, or the two
together. -/
theorem evaluateLeaf_error {registry : Registry} {name : FieldName} {operator : Operator}
    {value : Value} {subject : Subject} {field : Field} {e : RuleError}
    (resolved : registry.resolve (.ofFieldName name) = .ok field)
    (refused : evaluateLeaf registry name operator value subject = .error (.rule e)) :
    field.read subject = .error e ∨ operand field operator value = .error e ∨
      ∃ customer rule, applyOperator operator name.display customer rule = .error (.rule e) := by
  unfold evaluateLeaf at refused
  simp only [resolved] at refused
  split at refused
  next unread =>
    cases refused
    exact .inl unread
  next =>
    split at refused
    next unfit =>
      cases refused
      exact .inr (.inl unfit)
    next => exact .inr (.inr ⟨_, _, refused⟩)

theorem evaluateLeaf_fault {registry : Registry} {name : FieldName} {operator : Operator}
    {value : Value} {subject : Subject} {fault : Fault}
    (refused : evaluateLeaf registry name operator value subject = .error (.fault fault)) :
    Clashes registry subject name operator value fault := by
  rcases evaluateLeaf_cases registry name operator value subject with
    ⟨e, other⟩ | ⟨field, customer, rule, resolved, read, side, applied⟩
  · cases refused.symm.trans other
  · have clash := applyOperator_fault (applied.symm.trans refused)
    have inexact : ¬(field.type = .number ∨ field.type = .date) := by
      intro exact
      refine IsSettled.not_clash (read_settled exact read) ?_ clash
      intro compared
      rw [operand, if_neg compared] at side
      exact normalize_settled exact side
    refine ⟨field, customer, rule, resolved, ?_, read, side, clash⟩
    cases type : field.type <;> simp_all

/-- The error of a rule tree is the error of one of its leaves. -/
theorem evaluate_error {registry : Registry} {subject : Subject} {rule : Rule} {e : EvaluationError}
    (refused : evaluate registry subject rule = .error e) :
    ∃ name operator value, HasLeaf name operator value rule ∧
      evaluateLeaf registry name operator value subject = .error e := by
  induction rule using treeInduction with
  | leaf name operator value =>
    rw [evaluate] at refused
    exact ⟨name, operator, value, .here, refused⟩
  | composite condition rules ih =>
    rw [evaluate_composite, sequence_eq_iff (by simp)] at refused
    obtain ⟨before, part, after, rfl, decides, -⟩ := refused
    have member : part ∈ before ++ part :: after := by simp
    obtain ⟨name, operator, value, held, culprit⟩ := ih part member decides
    exact ⟨name, operator, value, .inside member held, culprit⟩

end Outreach.Rule
