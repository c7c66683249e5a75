import Outreach.Proofs.Rule.Fault

/-! Leaves and their complements. An operator and its complement come to opposite verdicts, or fail
alike, on all values but two numbers without an order: a double that is no number and a number that
is no decimal, which every ordering operator finds wrong. Only fields of texts and lists let such
numbers through. -/

namespace Outreach

/-- Two errors of one class: errors of the rule engine of one kind, or the same fault of values. -/
def EvaluationError.Alike : EvaluationError → EvaluationError → Prop
  | .rule e, .rule other => e.kind = other.kind
  | .fault f, .fault other => f = other
  | _, _ => False

theorem EvaluationError.alike_refl (e : EvaluationError) : e.Alike e := by
  cases e with
  | rule e => exact Eq.refl e.kind
  | fault f => exact Eq.refl f

/-- Whole numbers and doubles. -/
def Value.IsBinary (value : Value) : Prop := (∃ n, value = .int n) ∨ ∃ x, value = .float x

/-- Two numbers of which neither is a decimal and one is a double that is no number. -/
structure Value.Unordered (a b : Value) : Prop where
  left : a.IsBinary
  right : b.IsBinary
  notNumber : a = .float .nan ∨ b = .float .nan

namespace Decimal

def isNotNumber : Decimal → Bool
  | nan .. => true
  | _ => false

/-- Only what is no number has no order. -/
theorem compare?_eq_none_iff {x y : Decimal} :
    compare? x y = none ↔ x.isNotNumber ∨ y.isNotNumber := by
  cases x with
  | nan negative signaling payload => simp [compare?, isNotNumber]
  | infinite negative => cases y <;> simp [compare?, isNotNumber]
  | finite negative coefficient exponent =>
    cases y with
    | nan other signaling payload => simp [compare?, isNotNumber]
    | infinite other => simp [compare?, isNotNumber]
    | finite other second place =>
      have ordered := compare?_of_finite (x := .finite negative coefficient exponent)
        (y := .finite other second place) rfl rfl
      simp [ordered, isNotNumber]

theorem isNotNumber_ofBinary64 {x : Binary64} : (ofBinary64 x).isNotNumber ↔ x = .nan := by
  cases x with
  | finite negative significand exponent canonical =>
    simp only [ofBinary64]
    split <;> simp [isNotNumber]
  | infinite negative => simp [ofBinary64, isNotNumber]
  | nan => simp [ofBinary64, isNotNumber]

end Decimal

namespace Value

theorem isBinary_of_isNumber {value : Value} (number : value.isNumber)
    (inexact : ∀ d, value ≠ .decimal d) : value.IsBinary := by
  cases value with
  | int n => exact .inl ⟨n, rfl⟩
  | float x => exact .inr ⟨x, rfl⟩
  | decimal d => exact absurd rfl (inexact d)
  | _ => cases number

theorem IsBinary.isNumber {value : Value} (binary : value.IsBinary) : value.isNumber := by
  rcases binary with ⟨n, rfl⟩ | ⟨x, rfl⟩ <;> rfl

theorem IsBinary.not_decimal {d : Decimal} : ¬(decimal d).IsBinary := by
  rintro (⟨n, same⟩ | ⟨x, same⟩) <;> cases same

theorem exists_asNumber? {value : Value} (number : value.isNumber) :
    ∃ d, value.asNumber? = some d := by
  cases value with
  | int n => exact ⟨_, rfl⟩
  | float x => exact ⟨_, rfl⟩
  | decimal d => exact ⟨_, rfl⟩
  | _ => cases number

theorem IsBinary.isNotNumber_iff {value : Value} {number : Decimal} (binary : value.IsBinary)
    (reads : value.asNumber? = some number) : number.isNotNumber ↔ value = .float .nan := by
  rcases binary with ⟨n, rfl⟩ | ⟨x, rfl⟩
  · cases reads
    simp [Decimal.ofInt, Decimal.isNotNumber]
  · cases reads
    simp [Decimal.isNotNumber_ofBinary64]

end Value

namespace Rule

/-- Two answers that are opposite: one verdict and the other, or two errors of one class. -/
inductive Opposite : Answer → Answer → Prop where
  | verdict (b : Bool) : Opposite (.ok b) (.ok !b)
  | error {e other : EvaluationError} (alike : e.Alike other) :
      Opposite (.error e) (.error other)

theorem opposite_negated (answer : Answer) : Opposite answer (negated answer) := by
  cases answer with
  | ok b => exact .verdict b
  | error e => exact .error e.alike_refl

theorem negated_opposite (answer : Answer) : Opposite (negated answer) answer := by
  cases answer with
  | ok b => simpa [negated] using Opposite.verdict (!b)
  | error e => exact .error e.alike_refl

/-! ### Operators -/

theorem holds_complement {operator : Operator} (kind : operator.kind = .ordering)
    (order : Ordering) : holds operator.complement order = !holds operator order := by
  cases operator <;> cases kind <;> cases order <;> rfl

theorem orderNumbers_eq_none_iff {a b : Value} (left : a.isNumber) (right : b.isNumber) :
    orderNumbers a b = .ok none ↔ a.Unordered b := by
  obtain ⟨x, first⟩ := Value.exists_asNumber? left
  obtain ⟨y, second⟩ := Value.exists_asNumber? right
  simp only [orderNumbers, first, second]
  constructor
  · intro unordered
    split at unordered
    next => cases unordered
    next => cases unordered
    next => cases unordered
    next none inexact other =>
      have binary := Value.isBinary_of_isNumber left inexact
      have binary' := Value.isBinary_of_isNumber right other
      refine ⟨binary, binary', ?_⟩
      exact (Decimal.compare?_eq_none_iff.mp none).imp (binary.isNotNumber_iff first).mp
        (binary'.isNotNumber_iff second).mp
  · rintro ⟨binary, binary', notNumber⟩
    have none : Decimal.compare? x y = none :=
      Decimal.compare?_eq_none_iff.mpr (notNumber.imp (binary.isNotNumber_iff first).mpr
        (binary'.isNotNumber_iff second).mpr)
    split
    next ordered => cases none.symm.trans ordered
    next => exact absurd binary Value.IsBinary.not_decimal
    next => exact absurd binary' Value.IsBinary.not_decimal
    next => rfl

theorem orderMoments_ne_none {m n : Moment} : orderMoments m n ≠ .ok none := by
  unfold orderMoments
  split <;> simp

/-- The only values that are compared but have no order. -/
theorem order?_eq_none_iff {a b : Value} : order? a b = some (.ok none) ↔ a.Unordered b := by
  unfold order?
  split
  next numbers =>
    rw [Bool.and_eq_true] at numbers
    rw [Option.some.injEq, orderNumbers_eq_none_iff numbers.1 numbers.2]
  next others =>
    constructor
    · intro unordered
      split at unordered
      next => exact absurd (Option.some.inj unordered) orderMoments_ne_none
      next => split at unordered <;> cases unordered
    · intro unordered
      have numbers := And.intro unordered.left.isNumber unordered.right.isNumber
      exact absurd (Bool.and_eq_true_iff.mpr numbers) others

theorem compareBy_unordered {operator : Operator} {field : String} {customer rule : Value}
    (unordered : customer.Unordered rule) : compareBy operator field customer rule = .ok false := by
  rw [compareBy, order?_eq_none_iff.mpr unordered]
  rfl

theorem compareBy_opposite {operator : Operator} (kind : operator.kind = .ordering) {field : String}
    {customer rule : Value} (ordered : ¬customer.Unordered rule) :
    Opposite (compareBy operator field customer rule)
      (compareBy operator.complement field customer rule) := by
  unfold compareBy
  cases found : order? customer rule with
  | none => exact .error (Eq.refl RuleError.Kind.typeMismatch)
  | some outcome =>
    cases outcome with
    | error f => exact .error (Eq.refl f)
    | ok order =>
      cases order with
      | none => exact absurd (order?_eq_none_iff.mp found) ordered
      | some order =>
        simp only [Option.any_some, holds_complement kind]
        exact .verdict (holds operator order)

/-- An operator and its complement are opposite wherever they do not meet two numbers without an
order. -/
theorem applyOperator_opposite {operator : Operator} {field : String} {customer rule : Value}
    (ordered : operator.kind = .ordering → ¬customer.Unordered rule) :
    Opposite (applyOperator operator field customer rule)
      (applyOperator operator.complement field customer rule) := by
  cases operator with
  | greater | less | atLeast | atMost => exact compareBy_opposite rfl (ordered rfl)
  | equal | contains => exact opposite_negated _
  | unequal | notContains => exact negated_opposite _

theorem applyOperator_unordered {operator : Operator} (kind : operator.kind = .ordering)
    {field : String} {customer rule : Value} (unordered : customer.Unordered rule) :
    applyOperator operator field customer rule = .ok false := by
  cases operator with
  | greater | less | atLeast | atMost => exact compareBy_unordered unordered
  | equal | unequal | contains | notContains => cases kind

/-! ### Leaves -/

/-- A leaf that orders two numbers without an order. The field that it names is one of texts or
lists. -/
def MeetsUnordered (registry : Registry) (subject : Subject) (name : FieldName)
    (operator : Operator) (value : Value) : Prop :=
  operator.kind = .ordering ∧ ∃ field customer rule,
    registry.resolve (.ofFieldName name) = .ok field ∧ (field.type = .text ∨ field.type = .list) ∧
    field.read subject = .ok customer ∧ operand field operator value = .ok rule ∧
    customer.Unordered rule

theorem operand_complement (field : Field) (operator : Operator) (value : Value) :
    operand field operator.complement value = operand field operator value := by
  rw [operand, operand, Operator.kind_complement]

variable {registry : Registry} {subject : Subject} {name : FieldName} {operator : Operator}
  {value : Value}

theorem MeetsUnordered.complement (meets : MeetsUnordered registry subject name operator value) :
    MeetsUnordered registry subject name operator.complement value := by
  obtain ⟨kind, field, customer, rule, resolved, loose, read, side, unordered⟩ := meets
  refine ⟨operator.kind_complement.trans kind, field, customer, rule, resolved, loose, read, ?_,
    unordered⟩
  rw [operand_complement, side]

theorem MeetsUnordered.evaluateLeaf (meets : MeetsUnordered registry subject name operator value) :
    evaluateLeaf registry name operator value subject = .ok false := by
  obtain ⟨kind, field, customer, rule, resolved, -, read, side, unordered⟩ := meets
  simp only [Rule.evaluateLeaf, resolved, read, side]
  exact applyOperator_unordered kind unordered

/-- Fields of numbers and dates let no number through that has no order. -/
theorem IsSettled.not_unordered {type : FieldType} {customer rule : Value}
    (left : IsSettled type customer) (right : IsSettled type rule) :
    ¬customer.Unordered rule := by
  have number {value : Value} (settled : IsSettled type value) : value ≠ .float .nan := by
    rintro rfl
    cases settled with
    | float finite => cases finite
  rintro ⟨-, -, notNumber | notNumber⟩
  · exact number left notNumber
  · exact number right notNumber

theorem evaluateLeaf_opposite (ordered : ¬MeetsUnordered registry subject name operator value) :
    Opposite (evaluateLeaf registry name operator value subject)
      (evaluateLeaf registry name operator.complement value subject) := by
  unfold Rule.evaluateLeaf
  cases resolved : registry.resolve (.ofFieldName name) with
  | error e => exact .error (Eq.refl e.kind)
  | ok field =>
    cases read : field.read subject with
    | error e =>
      simp only [read]
      exact .error (Eq.refl e.kind)
    | ok customer =>
      simp only [read, operand_complement]
      cases side : operand field operator value with
      | error e => exact .error (Eq.refl e.kind)
      | ok rule =>
        apply applyOperator_opposite
        intro kind unordered
        apply ordered
        refine ⟨kind, field, customer, rule, resolved, ?_, read, side, unordered⟩
        -- Were the field one of numbers or dates, both sides would have an order.
        by_contra strict
        have exact : field.type = .number ∨ field.type = .date := by
          cases type : field.type <;> simp_all
        rw [operand, if_neg (by simp [kind])] at side
        exact (read_settled exact read).not_unordered (normalize_settled exact side) unordered

/-! ### Built leaves -/

/-- A rule that has been built is taken as it is. -/
theorem matchesWritten_built (registry : Registry) (store : ValueStore) (rule : Rule)
    (subject : Subject) :
    matchesWritten registry store (.rule rule) subject =
      evaluate registry subject (rule.exposed store) :=
  matchesWritten_of_ok rfl registry subject

/-- A leaf and its negation come to opposite verdicts or to errors of one class, unless they order
two numbers without an order. Then both are false. -/
theorem matchesWritten_negate (registry : Registry) (store : ValueStore) (name : FieldName)
    (operator : Operator) (value : Value) (subject : Subject) :
    (¬MeetsUnordered registry subject name operator (value.exposed store) ∧
      Opposite (matchesWritten registry store (.rule (.leaf name operator value)) subject)
        (matchesWritten registry store (.rule (.negate (.leaf name operator value))) subject)) ∨
    (MeetsUnordered registry subject name operator (value.exposed store) ∧
      matchesWritten registry store (.rule (.leaf name operator value)) subject = .ok false ∧
      matchesWritten registry store (.rule (.negate (.leaf name operator value))) subject =
        .ok false) := by
  simp only [matchesWritten_built, negate, exposed, evaluate]
  by_cases meets : MeetsUnordered registry subject name operator (value.exposed store)
  · exact .inr ⟨meets, meets.evaluateLeaf, meets.complement.evaluateLeaf⟩
  · exact .inl ⟨meets, evaluateLeaf_opposite meets⟩

/-- A name that is no number is neither more than one nor at most one. -/
theorem notNumber_twice_refused :
    matchesWritten Registry.standard [] (.rule (.leaf (.word "name") .greater (.int 1)))
      (.mapping [(.text "name", .float .nan)]) = .ok false ∧
    matchesWritten Registry.standard [] (.rule (.negate (.leaf (.word "name") .greater (.int 1))))
      (.mapping [(.text "name", .float .nan)]) = .ok false := by
  constructor <;> rfl

end Rule

end Outreach
