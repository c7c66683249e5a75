import Outreach.Proofs.Rule.Complement

/-! Leaves of number fields. Whole numbers, doubles, decimals and texts are compared by the exact
rational numbers that they stand for, in every combination of the two sides, so the comparisons
inherit the order of the rational numbers: of any two sides one is less, both are equal or one is
greater, and what holds from one side to the next holds from the first to the last. -/

namespace Outreach

/-- The number that a value stands for where a field of numbers takes it: a whole number itself, a
finite double or decimal its exact value, and a text the finite decimal that it writes. -/
inductive Value.Denotes : Value → ℚ → Prop where
  | int (n : Int) : Denotes (.int n) n
  | float {x : Binary64} (finite : x.isFinite) : Denotes (.float x) x.value
  | decimal {d : Decimal} (finite : d.isFinite) : Denotes (.decimal d) d.value
  | text {letters : String} {d : Decimal} (written : Decimal.ofText? letters.toList = some d)
      (finite : d.isFinite) : Denotes (.text letters) d.value

/-- What an operator says of two rational numbers. -/
def Operator.Relates (p q : ℚ) : Operator → Prop
  | greater => q < p
  | less => p < q
  | atLeast => q ≤ p
  | atMost => p ≤ q
  | equal => p = q
  | unequal => p ≠ q
  | contains | notContains => False

instance (p q : ℚ) : DecidablePred (Operator.Relates p q)
  | .greater => inferInstanceAs (Decidable (q < p))
  | .less => inferInstanceAs (Decidable (p < q))
  | .atLeast => inferInstanceAs (Decidable (q ≤ p))
  | .atMost => inferInstanceAs (Decidable (p ≤ q))
  | .equal => inferInstanceAs (Decidable (p = q))
  | .unequal => inferInstanceAs (Decidable (p ≠ q))
  | .contains | .notContains => inferInstanceAs (Decidable False)

/-- Of two numbers one is less, both are equal or one is greater. -/
theorem Operator.existsUnique_relates (p q : ℚ) :
    ∃! operator, operator ∈ [Operator.less, .equal, .greater] ∧ operator.Relates p q := by
  rcases lt_trichotomy p q with less | rfl | greater
  · refine ⟨.less, ⟨by simp, less⟩, ?_⟩
    rintro operator ⟨among, holds⟩
    cases operator <;> simp_all [Relates, less.ne, less.not_gt]
  · refine ⟨.equal, ⟨by simp, rfl⟩, ?_⟩
    rintro operator ⟨among, holds⟩
    cases operator <;> simp_all [Relates]
  · refine ⟨.greater, ⟨by simp, greater⟩, ?_⟩
    rintro operator ⟨among, holds⟩
    cases operator <;> simp_all [Relates, greater.ne', greater.not_gt]

/-- All comparisons but that of difference. -/
def Operator.transitive : List Operator := [greater, less, atLeast, atMost, equal]

theorem Operator.Relates.trans {operator : Operator} (among : operator ∈ transitive) {p q r : ℚ}
    (before : operator.Relates p q) (after : operator.Relates q r) : operator.Relates p r := by
  cases operator with
  | greater => exact lt_trans (α := ℚ) after before
  | less => exact lt_trans (α := ℚ) before after
  | atLeast => exact le_trans (α := ℚ) after before
  | atMost => exact le_trans (α := ℚ) before after
  | equal => exact Eq.trans before after
  | unequal | contains | notContains => simp [transitive] at among

namespace Decimal

theorem isFinite_ofInt (n : Int) : (ofInt n).isFinite := rfl

theorem value_ofInt (n : Int) : (ofInt n).value = n := by
  have signed : Binary64.signedSignificand (decide (n < 0)) n.natAbs = n := by
    unfold Binary64.signedSignificand
    split
    next below =>
      have below := of_decide_eq_true below
      omega
    next above =>
      have above := of_decide_eq_false (Bool.not_eq_true _ ▸ above)
      omega
  rw [ofInt, value, signed, zpow_zero, mul_one]

theorem not_isSignaling_of_isFinite {d : Decimal} (finite : d.isFinite) :
    d.isSignaling = false := by
  cases d with
  | finite negative coefficient exponent => rfl
  | infinite | nan => cases finite

end Decimal

namespace Value

/-- A number proper with an exact value. -/
structure IsExactly (number : Value) (p : ℚ) : Prop where
  proper : number.isNumber
  reads : ∃ d, number.asNumber? = some d ∧ d.isFinite ∧ d.value = p

/-- A field of numbers brings a value to a number proper and keeps what it stands for. -/
theorem Denotes.toNumber {value : Value} {p : ℚ} (denotes : value.Denotes p) (name : String) :
    ∃ number, Field.toNumber name value = .ok number ∧ number.IsExactly p := by
  cases denotes with
  | int n =>
    exact ⟨.int n, rfl, rfl, _, rfl, Decimal.isFinite_ofInt n, Decimal.value_ofInt n⟩
  | @float x finite =>
    refine ⟨.float x, by simp [Field.toNumber, finite], rfl, _, rfl, ?_,
      Binary64.value_ofBinary64 x⟩
    rw [Binary64.isFinite_ofBinary64, finite]
  | @decimal d finite =>
    exact ⟨.decimal d, by simp [Field.toNumber, finite], rfl, d, rfl, finite, rfl⟩
  | @text letters d written finite =>
    exact ⟨.decimal d, by simp [Field.toNumber, asText?, written, finite], rfl, d, rfl, finite, rfl⟩

theorem Denotes.normalize {field : Field} (numeric : field.type = .number) {value : Value} {p : ℚ}
    (denotes : value.Denotes p) :
    ∃ number, field.normalize value = .ok number ∧ number.IsExactly p := by
  obtain ⟨number, brought, exact⟩ := denotes.toNumber field.name
  refine ⟨number, ?_, exact⟩
  cases denotes <;> simpa only [Field.normalize, numeric] using brought

theorem Denotes.exposed {value : Value} {p : ℚ} (denotes : value.Denotes p) (store : ValueStore) :
    value.exposed store = value := by
  cases denotes <;> cases store <;> rfl

section
variable {a b : Value} {p q : ℚ}

/-- Numbers proper stand in the order of their exact values. -/
theorem IsExactly.order? (left : a.IsExactly p) (right : b.IsExactly q) :
    Rule.order? a b = some (.ok (some (compare p q))) := by
  obtain ⟨x, first, finite, rfl⟩ := left.reads
  obtain ⟨y, second, finite', rfl⟩ := right.reads
  unfold Rule.order?
  rw [left.proper, right.proper]
  simp only [Bool.and_self, if_true, Rule.orderNumbers, first, second,
    Decimal.compare?_of_finite finite finite']

theorem same_of_isNumber (oneNaN : Bool) (left : a.isNumber) (right : b.isNumber) :
    same oneNaN a b = sameScalar oneNaN a b := by
  cases a <;> cases left <;> cases b <;> cases right <;> simp only [same]

/-- Numbers proper are the same when their exact values are. -/
theorem IsExactly.same (left : a.IsExactly p) (right : b.IsExactly q) (oneNaN : Bool) :
    Value.same oneNaN a b = .ok (decide (p = q)) := by
  obtain ⟨x, first, finite, rfl⟩ := left.reads
  obtain ⟨y, second, finite', rfl⟩ := right.reads
  have ordered := Decimal.compare?_of_finite finite finite'
  rw [same_of_isNumber oneNaN left.proper right.proper]
  simp only [sameScalar, first, second, sameNumber, Decimal.not_isSignaling_of_isFinite, finite,
    finite', Bool.or_self, Bool.false_eq_true, if_false]
  split
  next =>
    cases first
    cases finite
  next =>
    rw [ordered, Except.ok.injEq, Bool.eq_iff_iff, beq_iff_eq, Option.some.injEq, compare_eq_iff_eq,
      decide_eq_true_iff]

end

end Value

namespace Rule

theorem holds_compare {operator : Operator} (kind : operator.kind = .ordering) (p q : ℚ) :
    holds operator (compare p q) = decide (operator.Relates p q) := by
  rcases lt_trichotomy p q with less | rfl | greater
  · rw [compare_lt_iff_lt.mpr less]
    cases operator <;> cases kind <;> simp [holds, Operator.Relates, less, less.le, less.not_gt,
      less.not_ge]
  · rw [compare_eq_iff_eq.mpr rfl]
    cases operator <;> cases kind <;> simp [holds, Operator.Relates]
  · rw [compare_gt_iff_gt.mpr greater]
    cases operator <;> cases kind <;> simp [holds, Operator.Relates, greater, greater.le,
      greater.not_gt, greater.not_ge]

/-- Comparisons of values that stand and agree like two rational numbers say what these say. -/
theorem applyOperator_compared {operator : Operator} (comparing : operator.kind ≠ .membership)
    {customer rule : Value} {p q : ℚ}
    (order : order? customer rule = some (.ok (some (compare p q))))
    (same : Value.same false customer rule = .ok (decide (p = q))) (name : String) :
    applyOperator operator name customer rule = .ok (decide (operator.Relates p q)) := by
  have ordering (kind : operator.kind = .ordering) :
      compareBy operator name customer rule = .ok (decide (operator.Relates p q)) := by
    rw [compareBy, order]
    exact congrArg Except.ok (holds_compare kind p q)
  cases operator with
  | greater | less | atLeast | atMost => exact ordering rfl
  | equal =>
    rw [applyOperator, same]
    rfl
  | unequal =>
    rw [applyOperator, same]
    exact congrArg Except.ok decide_not.symm
  | contains | notContains => exact absurd rfl comparing

/-- Comparisons of numbers proper say what their exact values say. -/
theorem applyOperator_exact {operator : Operator} (comparing : operator.kind ≠ .membership)
    {customer rule : Value} {p q : ℚ} (left : customer.IsExactly p) (right : rule.IsExactly q)
    (name : String) :
    applyOperator operator name customer rule = .ok (decide (operator.Relates p q)) :=
  applyOperator_compared comparing (left.order? right) (left.same right false) name

section
variable {registry : Registry} {name : FieldName} {field : Field}
  {subject : Subject} {customer rule : Value} {p q : ℚ}

/-- A comparison applies its operator to both sides, brought to the type of the field. -/
theorem evaluateLeaf_sides (resolved : registry.resolve (.ofFieldName name) = .ok field)
    (found : field.raw? subject = some customer) {first second : Value}
    (left : field.normalize customer = .ok first) (right : field.normalize rule = .ok second)
    {operator : Operator} (comparing : operator.kind ≠ .membership) :
    evaluateLeaf registry name operator rule subject =
      applyOperator operator name.display first second := by
  have read : field.read subject = .ok first := by simp only [Field.read, found, left]
  have side : operand field operator rule = .ok second := by
    rw [operand, if_neg comparing, right]
  simp only [evaluateLeaf, resolved, read, side]

theorem evaluateLeaf_exact (resolved : registry.resolve (.ofFieldName name) = .ok field)
    (numeric : field.type = .number) (found : field.raw? subject = some customer)
    (left : customer.Denotes p) (right : rule.Denotes q) {operator : Operator}
    (comparing : operator.kind ≠ .membership) :
    evaluateLeaf registry name operator rule subject = .ok (decide (operator.Relates p q)) := by
  obtain ⟨first, brought, exact⟩ := left.normalize numeric
  obtain ⟨second, brought', exact'⟩ := right.normalize numeric
  rw [evaluateLeaf_sides resolved found brought brought' comparing]
  exact applyOperator_exact comparing exact exact' name.display

end

/-- A leaf that holds for a subject. -/
def LeafHolds (registry : Registry) (store : ValueStore) (name : FieldName) (operator : Operator)
    (subject : Subject) (rule : Value) : Prop :=
  matchesWritten registry store (.rule (.leaf name operator rule)) subject = .ok true

/-- In a field of numbers every comparison of what stands for a number, on either side a whole
number, a double, a decimal or a text, comes to what the two exact values say. So of less, equal and
greater exactly one holds, and each comparison but that of difference is transitive, whatever the
three sides are written as. -/
theorem matchesWritten_exact {registry : Registry} {name : FieldName} {field : Field}
    (resolved : registry.resolve (.ofFieldName name) = .ok field) (numeric : field.type = .number)
    (store : ValueStore) :
    (∀ subject customer rule p q, field.raw? subject = some customer → customer.Denotes p →
      rule.Denotes q → ∀ operator : Operator, operator.kind ≠ .membership →
      matchesWritten registry store (.rule (.leaf name operator rule)) subject =
        .ok (decide (operator.Relates p q))) ∧
    (∀ subject customer rule p q, field.raw? subject = some customer → customer.Denotes p →
      rule.Denotes q → ∃! operator, operator ∈ [Operator.less, .equal, .greater] ∧
        LeafHolds registry store name operator subject rule) ∧
    (∀ first second customer middle last p q r, field.raw? first = some customer →
      field.raw? second = some middle → customer.Denotes p → middle.Denotes q → last.Denotes r →
      ∀ operator ∈ Operator.transitive,
        LeafHolds registry store name operator first middle →
        LeafHolds registry store name operator second last →
        LeafHolds registry store name operator first last) := by
  have exact {subject customer rule p q} (found : field.raw? subject = some customer)
      (left : customer.Denotes p) (right : rule.Denotes q) {operator : Operator}
      (comparing : operator.kind ≠ .membership) :
      matchesWritten registry store (.rule (.leaf name operator rule)) subject =
        .ok (decide (operator.Relates p q)) := by
    rw [matchesWritten_built]
    simp only [exposed, right.exposed store, evaluate]
    exact evaluateLeaf_exact resolved numeric found left right comparing
  have holds_iff {subject customer rule p q} (found : field.raw? subject = some customer)
      (left : customer.Denotes p) (right : rule.Denotes q) {operator : Operator}
      (comparing : operator.kind ≠ .membership) :
      LeafHolds registry store name operator subject rule ↔ operator.Relates p q := by
    rw [LeafHolds, exact found left right comparing, Except.ok.injEq, decide_eq_true_iff]
  refine ⟨fun subject customer rule p q found left right operator => exact found left right, ?_, ?_⟩
  · intro subject customer rule p q found left right
    obtain ⟨operator, ⟨among, relates⟩, only⟩ := Operator.existsUnique_relates p q
    have comparing : ∀ operator ∈ [Operator.less, .equal, .greater],
        operator.kind ≠ .membership := by decide
    refine ⟨operator, ⟨among, (holds_iff found left right (comparing _ among)).mpr relates⟩, ?_⟩
    rintro other ⟨among', holds⟩
    exact only other ⟨among', (holds_iff found left right (comparing _ among')).mp holds⟩
  · intro first second customer middle last p q r found found' left between right operator among
    have comparing : ∀ operator ∈ Operator.transitive, operator.kind ≠ .membership := by decide
    rw [holds_iff found left between (comparing _ among),
      holds_iff found' between right (comparing _ among),
      holds_iff found left right (comparing _ among)]
    exact Operator.Relates.trans among

/-- The whole number 2 ^ 53 as a double. No double stands for the number after it. -/
def evenDouble : Binary64 := .finite false (powerOfTwo 52) 1 (by decide)

/-- The number after 2 ^ 53, as a text. -/
def oddText : Value := .text "9007199254740993"

theorem oddText_denotes : oddText.Denotes 9007199254740993 := by
  have written : Decimal.ofText? "9007199254740993".toList =
      some (.finite false 9007199254740993 0) := by decide +kernel
  have exact : (Decimal.finite false 9007199254740993 0).value = 9007199254740993 := by
    simp [Decimal.value, Binary64.signedSignificand]
  rw [← exact]
  exact .text written rfl

/-- A double is less than the text of the number after it, and that is less than a decimal half a
unit above, so the double is less than the decimal. -/
theorem evenDouble_less_oddText :
    Registry.standard.resolve (.ofFieldName (.word "visits")) =
      .ok ⟨"visits", "visits", .number, "Number of orders placed"⟩ ∧
    matchesWritten Registry.standard [] (.rule (.leaf (.word "visits") .less oddText))
      (.mapping [(.text "visits", .float evenDouble)]) = .ok true ∧
    matchesWritten Registry.standard [] (.rule (.leaf (.word "visits") .less
      (.decimal (.finite false 90071992547409935 (-1)))))
      (.mapping [(.text "visits", .float evenDouble)]) = .ok true := by
  have resolved : Registry.standard.resolve (.ofFieldName (.word "visits")) =
      .ok ⟨"visits", "visits", .number, "Number of orders placed"⟩ := by rfl
  obtain ⟨exact, -, passes⟩ := matchesWritten_exact resolved rfl []
  have even : (Value.float evenDouble).Denotes 9007199254740992 := by
    have exact : evenDouble.value = 9007199254740992 := by
      simp only [evenDouble, Binary64.value, Binary64.signedSignificand, Bool.false_eq_true,
        if_false, Int.cast_natCast, powerOfTwo_cast]
      norm_num
    rw [← exact]
    exact .float rfl
  have above : (Value.decimal (.finite false 90071992547409935 (-1))).Denotes
      (Decimal.finite false 90071992547409935 (-1)).value := .decimal rfl
  have first : matchesWritten Registry.standard [] (.rule (.leaf (.word "visits") .less oddText))
      (.mapping [(.text "visits", .float evenDouble)]) = .ok true := by
    rw [exact _ _ _ _ _ rfl even oddText_denotes .less (by decide)]
    exact congrArg Except.ok (decide_eq_true (by norm_num [Operator.Relates]))
  have second : matchesWritten Registry.standard [] (.rule (.leaf (.word "visits") .less
      (.decimal (.finite false 90071992547409935 (-1)))))
      (.mapping [(.text "visits", oddText)]) = .ok true := by
    rw [exact _ _ _ _ _ rfl oddText_denotes above .less (by decide)]
    exact congrArg Except.ok (decide_eq_true (by
      norm_num [Operator.Relates, Decimal.value, Binary64.signedSignificand]))
  exact ⟨resolved, first,
    passes _ _ _ _ _ _ _ _ rfl rfl even oddText_denotes above .less (by decide) first second⟩

end Rule

end Outreach
