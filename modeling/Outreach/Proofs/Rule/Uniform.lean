import Outreach.Proofs.Rule.Declared
import Outreach.Proofs.Rule.Exact

/-! Whether a leaf can be evaluated. On customers of declared types that have the attribute it hangs
on three things alone: the type of the field, the kind of the operator and the leaf's own value. So a
leaf comes to a verdict for all such customers, or fails for all of them in one way. -/

namespace Outreach

/-- A customer of declared types whose numbers are finite. A truth value is no number of a field of
numbers. -/
structure Profile.IsFinite (profile : Profile) : Prop extends profile.IsDeclared where
  finite : ∀ x, profile.totalSpend = .float x → x.isFinite
  proper : ∀ number ∈ [profile.id, profile.totalSpend, profile.visits],
    number = .null ∨ number.isNumber

namespace Rule

/-- What a field of a type makes of an attribute that is not null. -/
inductive IsOf : FieldType → Value → Prop where
  | int (n : Int) : IsOf .number (.int n)
  | float {x : Binary64} (finite : x.isFinite) : IsOf .number (.float x)
  | text {value : Value} (letters : value.IsText) : IsOf .text value
  | moment {m : Moment} (placed : m.offset.isSome) : IsOf .date (.moment m)
  | tags {items : List Value} (each : ∀ item ∈ items, item.IsText) : IsOf .list (.tuple items)

/-- Whether a value is a moment. -/
def isMoment : Value → Bool
  | .moment _ => true
  | _ => false

/-- Whether an operator of some kind goes with a field of some type and the rule's side of a leaf. -/
def accepts (type : FieldType) (kind : Operator.Kind) (rule : Value) : Bool :=
  match kind, type with
  | .ordering, .number => rule.isNumber
  | .ordering, .date => isMoment rule
  | .ordering, .text | .membership, .text => rule.asText?.isSome
  | .ordering, .list | .membership, .number | .membership, .date => false
  | .equality, _ | .membership, .list => true

/-- A verdict if the leaf is accepted, and otherwise the error that two types do not go together. -/
inductive Answers : Bool → Answer → Prop where
  | verdict (b : Bool) : Answers true (.ok b)
  | mismatch {e : RuleError} (kind : e.kind = .typeMismatch) : Answers false (.error (.rule e))

/-- Two verdicts, whatever they are, or two errors of one class. -/
inductive Kindred : Answer → Answer → Prop where
  | verdicts (b c : Bool) : Kindred (.ok b) (.ok c)
  | errors {e other : EvaluationError} (alike : e.Alike other) : Kindred (.error e) (.error other)

theorem Answers.kindred {accepted : Bool} {first second : Answer} (left : Answers accepted first)
    (right : Answers accepted second) : Kindred first second := by
  cases left with
  | verdict b =>
    cases right with
    | verdict c => exact .verdicts b c
  | mismatch kind =>
    cases right with
    | mismatch other => exact .errors (kind.trans other.symm)

theorem Answers.negated {accepted : Bool} {answer : Answer} (answers : Answers accepted answer) :
    Answers accepted (negated answer) := by
  cases answers with
  | verdict b => exact .verdict !b
  | mismatch kind => exact .mismatch kind

theorem answers_ofVerdict {verdict : Value.Verdict} (told : ∃ b, verdict = .ok b) :
    Answers true (ofVerdict verdict) := by
  obtain ⟨b, rfl⟩ := told
  exact .verdict b

/-! ### Sameness with texts -/

/-- A text is compared with any value whatever. -/
theorem same_text {letters : Value} (text : letters.IsText) (value : Value) :
    ∃ b, Value.same false letters value = .ok b := by
  rcases text with ⟨s, rfl⟩ | ⟨op, rfl⟩ <;>
    cases value <;> simp [Value.same, Value.sameScalar, Value.asNumber?, Value.asText?,
      Value.sameRecurring, Value.shape?]

theorem sameItems_texts {items : List Value} (each : ∀ item ∈ items, item.IsText)
    (others : List Value) : ∃ b, Value.sameItems false items others = .ok b := by
  induction items generalizing others with
  | nil => cases others <;> simp [Value.sameItems]
  | cons item rest ih =>
    obtain ⟨here, later⟩ := List.forall_mem_cons.mp each
    cases others with
    | nil => simp [Value.sameItems]
    | cons other others =>
      obtain ⟨b, same⟩ := same_text here other
      rw [Value.sameItems, same]
      cases b with
      | true => exact ih later others
      | false => exact ⟨false, rfl⟩

theorem same_tags {items : List Value} (each : ∀ item ∈ items, item.IsText) (value : Value) :
    ∃ b, Value.same false (.tuple items) value = .ok b := by
  have ends : (Value.tuple items).isEndless = false := (IsPlain.tags each).ends
  cases value with
  | tuple others =>
    rw [Value.same]
    exact sameItems_texts each others
  | recurring shape => exact ⟨false, by simp [Value.same, Value.sameRecurring, ends]⟩
  | _ => exact ⟨false, by simp [Value.same, Value.sameScalar, Value.asNumber?, Value.asText?]⟩

/-! ### Operators -/

section
variable {type : FieldType} {operator : Operator} {customer rule : Value}

theorem IsOf.settled (typed : IsOf type customer) (exact : type = .number ∨ type = .date) :
    IsSettled type customer := by
  cases typed with
  | int n => exact .int n
  | float finite => exact .float finite
  | moment placed => exact .moment placed
  | text | tags => simp at exact

theorem IsSettled.exactly (settled : IsSettled type rule) (proper : rule.isNumber) :
    ∃ p, rule.IsExactly p := by
  obtain ⟨d, reads⟩ := Value.exists_asNumber? proper
  exact ⟨d.value, proper, d, reads, settled.asNumber? reads, rfl⟩

theorem order?_number (typed : IsOf .number customer) (settled : IsSettled .number rule) :
    if rule.isNumber then ∃ order, order? customer rule = some (.ok (some order))
    else order? customer rule = none := by
  have proper : customer.isNumber := by cases typed <;> rfl
  split
  next number =>
    obtain ⟨p, left⟩ := (typed.settled (.inl rfl)).exactly proper
    obtain ⟨q, right⟩ := settled.exactly number
    exact ⟨_, left.order? right⟩
  next other =>
    cases settled with
    | null => cases typed <;> rfl
    | int | float | decimal => exact absurd rfl other

theorem order?_moment (typed : IsOf .date customer) (settled : IsSettled .date rule) :
    if isMoment rule then ∃ order, order? customer rule = some (.ok (some order))
    else order? customer rule = none := by
  cases typed with
  | @moment m placed =>
    cases settled with
    | null => rfl
    | @moment n other =>
      exact ⟨compare m.instant n.instant, by
        simp [order?, Value.isNumber, orderMoments, placed, other]⟩

theorem order?_text (typed : IsOf .text customer) (rule : Value) :
    if rule.asText?.isSome then ∃ order, order? customer rule = some (.ok (some order))
    else order? customer rule = none := by
  cases typed with
  | text letters =>
    rcases letters with ⟨s, rfl⟩ | ⟨op, rfl⟩ <;> cases rule <;>
      simp [order?, Value.isNumber, Value.asText?]

theorem order?_tags (typed : IsOf .list customer) (rule : Value) : order? customer rule = none := by
  cases typed with
  | tags => cases rule <;> rfl

theorem compareBy_answers (typed : IsOf type customer)
    (settled : type = .number ∨ type = .date → IsSettled type rule) (name : String) :
    Answers (accepts type .ordering rule) (compareBy operator name customer rule) := by
  have told {accepted : Bool}
      (order : if accepted then ∃ order, order? customer rule = some (.ok (some order))
        else order? customer rule = none) :
      Answers accepted (compareBy operator name customer rule) := by
    unfold compareBy
    cases accepted with
    | true =>
      obtain ⟨order, found⟩ := order
      rw [found]
      exact .verdict _
    | false =>
      have none : order? customer rule = none := order
      rw [none]
      exact .mismatch rfl
  cases type with
  | number => exact told (order?_number typed (settled (.inl rfl)))
  | date => exact told (order?_moment typed (settled (.inr rfl)))
  | text => exact told (order?_text typed rule)
  | list => exact told (order?_tags typed rule)

theorem same_answers (typed : IsOf type customer)
    (settled : type = .number ∨ type = .date → IsSettled type rule) :
    ∃ b, Value.same false customer rule = .ok b := by
  have exact_side (exact : type = .number ∨ type = .date) :
      ∃ b, Value.same false customer rule = .ok b := by
    cases same : Value.same false customer rule with
    | ok b => exact ⟨b, rfl⟩
    | error fault =>
      exact absurd (Value.same_error false customer rule fault same)
        ((typed.settled exact).comparable (settled exact))
  cases typed with
  | int | float => exact exact_side (.inl rfl)
  | moment => exact exact_side (.inr rfl)
  | text letters => exact same_text letters rule
  | tags each => exact same_tags each rule

theorem memberOf_texts {items : List Value} (each : ∀ item ∈ items, item.IsText) (rule : Value) :
    ∃ b, Value.memberOf rule items = .ok b := by
  cases among : Value.memberOf rule items with
  | ok b => exact ⟨b, rfl⟩
  | error fault =>
    obtain ⟨item, member, lost⟩ := Value.anyMember_error among
    obtain ⟨b, same⟩ := same_text (each item member) rule
    cases same.symm.trans lost

theorem containment_answers (typed : IsOf type customer) (rule : Value) (name : String) :
    Answers (accepts type .membership rule) (containment name customer rule) := by
  cases typed with
  | int | float | moment => exact .mismatch rfl
  | tags each => exact answers_ofVerdict (memberOf_texts each rule)
  | text letters =>
    have whole : ∃ s, customer.asText? = some s := by
      rcases letters with ⟨s, rfl⟩ | ⟨op, rfl⟩ <;> exact ⟨_, rfl⟩
    obtain ⟨s, reads⟩ := whole
    unfold containment accepts
    rw [reads]
    cases rule.asText? with
    | some part => exact .verdict _
    | none => exact .mismatch rfl

/-- An operator on the two sides of a leaf, the customer's brought to the type of the field. -/
theorem applyOperator_answers (typed : IsOf type customer)
    (settled : operator.kind ≠ .membership → type = .number ∨ type = .date → IsSettled type rule)
    (name : String) :
    Answers (accepts type operator.kind rule) (applyOperator operator name customer rule) := by
  have equality (compared : operator.kind ≠ .membership) :
      Answers true (ofVerdict (Value.same false customer rule)) :=
    answers_ofVerdict (same_answers typed (settled compared))
  cases operator with
  | greater | less | atLeast | atMost => exact compareBy_answers typed (settled (by decide)) name
  | equal => exact equality (by decide)
  | unequal => exact (equality (by decide)).negated
  | contains => exact containment_answers typed rule name
  | notContains => exact (containment_answers typed rule name).negated

end

/-! ### Leaves -/

section
variable {subject : Subject} {field : Field} {value : Value}

theorem read_of_raw {customer : Value} (found : field.raw? subject = some value)
    (brought : field.normalize value = .ok customer) (typed : IsOf field.type customer) :
    ∃ customer, field.read subject = .ok customer ∧ IsOf field.type customer := by
  refine ⟨customer, ?_, typed⟩
  rw [Field.read, found]
  exact brought

theorem read_whole (type : field.type = .number) (found : field.raw? subject = some value)
    (typed : value = .null ∨ value.IsWholeNumber) (proper : value = .null ∨ value.isNumber)
    (held : field.raw? subject ≠ some .null) :
    ∃ customer, field.read subject = .ok customer ∧ IsOf field.type customer := by
  have filled : value ≠ .null := by rwa [found, ne_eq, Option.some.injEq] at held
  have number := proper.resolve_left filled
  rcases typed.resolve_left filled with ⟨n, rfl⟩ | ⟨b, rfl⟩
  · have brought : field.normalize (.int n) = .ok (.int n) := by
      simp only [Field.normalize, type, Field.toNumber]
    apply read_of_raw found brought
    rw [type]
    exact .int n
  · cases number

theorem read_float (type : field.type = .number) {x : Binary64}
    (found : field.raw? subject = some (.float x)) (finite : x.isFinite) :
    ∃ customer, field.read subject = .ok customer ∧ IsOf field.type customer := by
  have brought : field.normalize (.float x) = .ok (.float x) := by
    simp only [Field.normalize, type, Field.toNumber, finite, if_true]
  apply read_of_raw found brought
  rw [type]
  exact .float finite

theorem read_text (type : field.type = .text) (found : field.raw? subject = some value)
    (typed : value = .null ∨ value.IsText) (held : field.raw? subject ≠ some .null) :
    ∃ customer, field.read subject = .ok customer ∧ IsOf field.type customer := by
  have filled : value ≠ .null := by rwa [found, ne_eq, Option.some.injEq] at held
  have letters := typed.resolve_left filled
  have brought : field.normalize value = .ok value := by
    rcases letters with ⟨s, rfl⟩ | ⟨op, rfl⟩ <;> simp only [Field.normalize, type]
  apply read_of_raw found brought
  rw [type]
  exact .text letters

theorem read_moment (type : field.type = .date) (found : field.raw? subject = some value)
    (typed : value = .null ∨ value.IsMoment) (held : field.raw? subject ≠ some .null) :
    ∃ customer, field.read subject = .ok customer ∧ IsOf field.type customer := by
  have filled : value ≠ .null := by rwa [found, ne_eq, Option.some.injEq] at held
  obtain ⟨m, rfl⟩ := typed.resolve_left filled
  have brought : field.normalize (.moment m) = .ok (.moment m.inUniversalTime) := by
    simp only [Field.normalize, type, Field.toMoment]
  apply read_of_raw found brought
  rw [type]
  exact .moment rfl

theorem read_tags (type : field.type = .list) {items : List Value}
    (found : field.raw? subject = some (.tuple items)) (each : ∀ item ∈ items, item.IsText) :
    ∃ customer, field.read subject = .ok customer ∧ IsOf field.type customer := by
  have brought : field.normalize (.tuple items) = .ok (.tuple items) := by
    simp only [Field.normalize, type, Field.toTuple]
  apply read_of_raw found brought
  rw [type]
  exact .tags each

end

/-- Every field finds its attribute, if that is not null, in the form that belongs to its type. -/
theorem read_typed {profile : Profile} (finite : profile.IsFinite) {field : Field}
    (member : field ∈ Registry.customerFields) (held : field.raw? profile.subject ≠ some .null) :
    ∃ customer, field.read profile.subject = .ok customer ∧ IsOf field.type customer := by
  obtain ⟨items, tags, each⟩ := finite.tags
  obtain ⟨id, spend, visits⟩ : _ ∧ _ ∧ _ := by simpa using finite.proper
  revert field
  simp only [Registry.customerFields, List.forall_mem_cons]
  refine ⟨read_whole rfl rfl finite.id id, read_text rfl rfl finite.name,
    read_text rfl rfl finite.email, read_text rfl rfl finite.phone, ?_,
    read_whole rfl rfl (.inr finite.visits) visits, read_moment rfl rfl finite.lastVisit, ?_,
    read_moment rfl rfl finite.createdAt, read_moment rfl rfl finite.updatedAt, by simp⟩
  · rcases finite.totalSpend with whole | ⟨x, same⟩
    · exact read_whole rfl rfl (.inr whole) spend
    · exact fun _ => read_float rfl (congrArg some same) (finite.finite x same)
  · exact fun _ => read_tags rfl (congrArg some tags) each

theorem operand_settled {field : Field} {operator : Operator} {value rule : Value}
    (side : operand field operator value = .ok rule) (compared : operator.kind ≠ .membership)
    (exact : field.type = .number ∨ field.type = .date) : IsSettled field.type rule := by
  rw [operand, if_neg compared] at side
  exact normalize_settled exact side

/-- A leaf comes to a verdict for every customer of declared types that has the attribute, or fails
for all of them with an error of one class. -/
theorem matchesWritten_uniform {first second : Profile} (left : first.IsFinite)
    (right : second.IsFinite) (store : ValueStore) (name : FieldName) (operator : Operator)
    (value : Value)
    (held : ∀ field, Registry.standard.resolve (.ofFieldName name) = .ok field →
      field.raw? first.subject ≠ some .null ∧ field.raw? second.subject ≠ some .null) :
    Kindred
      (matchesWritten Registry.standard store (.rule (.leaf name operator value)) first.subject)
      (matchesWritten Registry.standard store (.rule (.leaf name operator value))
        second.subject) := by
  simp only [matchesWritten_built, exposed, evaluate, evaluateLeaf]
  cases resolved : Registry.standard.resolve (.ofFieldName name) with
  | error e => exact .errors (EvaluationError.alike_refl _)
  | ok field =>
    have member := standard_field (resolve_eq_ok_iff.mp resolved)
    obtain ⟨customer, read, typed⟩ := read_typed left member (held field resolved).1
    obtain ⟨other, read', typed'⟩ := read_typed right member (held field resolved).2
    simp only [read, read']
    cases side : operand field operator (value.exposed store) with
    | error e => exact .errors (EvaluationError.alike_refl _)
    | ok rule =>
      have settled := operand_settled side
      exact (applyOperator_answers typed settled name.display).kindred
        (applyOperator_answers typed' settled name.display)

/-- A customer who never spent anything. -/
def newcomer : Profile := { name := .text "Ada" }

/-- A customer whose spend is kept as a double. -/
def regular : Profile :=
  { id := .int 7, totalSpend := .float evenDouble, visits := .int 5, tags := .tuple [.text "vip"] }

/-- A spend that is no number can be compared with no customer's. -/
def lavishly : Rule := .leaf (.word "totalSpend") .greater (.text "lavishly")

theorem lavishly_uniform :
    newcomer.IsFinite ∧ regular.IsFinite ∧
    matchesWritten Registry.standard [] (.rule lavishly) newcomer.subject =
      .error (.rule ⟨.unfit "totalSpend" .number (.text "lavishly"), none⟩) ∧
    Kindred (matchesWritten Registry.standard [] (.rule lavishly) newcomer.subject)
      (matchesWritten Registry.standard [] (.rule lavishly) regular.subject) := by
  have few : newcomer.IsFinite :=
    { id := .inl rfl, name := .inr (.inl ⟨"Ada", rfl⟩), email := .inl rfl, phone := .inl rfl
      totalSpend := .inl (.inl ⟨0, rfl⟩), visits := .inl ⟨0, rfl⟩, lastVisit := .inl rfl
      tags := ⟨[], rfl, by simp⟩, createdAt := .inl rfl, updatedAt := .inl rfl
      finite := by simp [newcomer]
      proper := by simp [newcomer, Value.isNumber] }
  have many : regular.IsFinite :=
    { id := .inr (.inl ⟨7, rfl⟩), name := .inl rfl, email := .inl rfl, phone := .inl rfl
      totalSpend := .inr ⟨evenDouble, rfl⟩, visits := .inl ⟨5, rfl⟩, lastVisit := .inl rfl
      tags := ⟨[.text "vip"], rfl, by simp [Value.IsText]⟩
      createdAt := .inl rfl, updatedAt := .inl rfl
      finite := by simp [regular, evenDouble, Binary64.isFinite]
      proper := by simp [regular, Value.isNumber] }
  have resolved : Registry.standard.resolve (.ofFieldName (.word "totalSpend")) =
      .ok ⟨"totalSpend", "total_spend", .number, "Lifetime order amount"⟩ := by rfl
  refine ⟨few, many, by rfl, matchesWritten_uniform few many [] _ _ _ ?_⟩
  intro field found
  obtain rfl := Except.ok.inj (resolved.symm.trans found)
  constructor
  · intro none
    cases none
  · intro none
    cases none

end Rule

end Outreach
