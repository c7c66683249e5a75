import Outreach.Proofs.Rule.Complement
import Outreach.Proofs.Rule.Declared

/-! Dual rule trees: every condition turned into the other one and every leaf negated. A tree and its
dual stop at the same leaf, whether its answer decides or is an error, and so they come to opposite
verdicts or fail alike, unless a leaf orders two numbers without an order. Customers of declared
types give no leaf such numbers. -/

namespace Outreach

theorem Condition.neutral_dual (condition : Condition) :
    condition.dual.neutral = !condition.neutral := by
  cases condition <;> rfl

namespace Rule

mutual

/-- The tree with the other condition at every composite and the negation of every leaf. -/
def dual : Rule → Rule
  | leaf field operator value => negate (leaf field operator value)
  | composite condition rules => composite condition.dual (dualAll rules)

def dualAll : List Rule → List Rule
  | [] => []
  | rule :: rest => dual rule :: dualAll rest

end

theorem dualAll_eq_map (rules : List Rule) : dualAll rules = rules.map dual := by
  induction rules with
  | nil => rfl
  | cons rule rest ih => rw [dualAll, ih, List.map_cons]

theorem exposed_dual (store : ValueStore) (rule : Rule) :
    rule.dual.exposed store = (rule.exposed store).dual := by
  induction rule using treeInduction with
  | leaf name operator value => rfl
  | composite condition rules ih =>
    simp only [dual, exposed, dualAll_eq_map, exposedAll_eq_map, List.map_map, composite.injEq,
      true_and]
    exact List.map_congr_left ih

/-- Answers that are opposite one by one make opposite sequences: both go on, or both stop. -/
theorem sequence_opposite {answers others : List Answer}
    (opposite : List.Forall₂ Opposite answers others) (neutral : Bool) :
    Opposite (sequence neutral answers) (sequence (!neutral) others) := by
  induction opposite with
  | nil => exact .verdict neutral
  | cons first _ ih =>
    cases first with
    | error alike => exact .error alike
    | verdict b =>
      -- What lets one side go on lets the other go on, since both are turned around.
      by_cases passed : b = neutral
      · rw [passed, sequence_cons_neutral, sequence_cons_neutral]
        exact ih
      · rw [sequence_cons_decisive (by simpa using passed),
          sequence_cons_decisive (by simpa using passed)]
        exact .verdict b

section
variable {registry : Registry} {subject : Subject}

/-- A tree and its dual are opposite where no leaf orders two numbers without an order. -/
theorem evaluate_dual {rule : Rule}
    (ordered : ∀ name operator value, HasLeaf name operator value rule →
      ¬MeetsUnordered registry subject name operator value) :
    Opposite (evaluate registry subject rule) (evaluate registry subject rule.dual) := by
  induction rule using treeInduction with
  | leaf name operator value =>
    simp only [dual, negate, evaluate]
    exact evaluateLeaf_opposite (ordered name operator value .here)
  | composite condition rules ih =>
    rw [dual, dualAll_eq_map, evaluate_composite, evaluate_composite, Condition.neutral_dual,
      List.map_map]
    apply sequence_opposite
    rw [List.forall₂_map_left_iff, List.forall₂_map_right_iff, List.forall₂_same]
    intro part member
    exact ih part member fun name operator value held =>
      ordered name operator value (.inside member held)

end

/-- No field of texts or lists reads a number from a customer of declared types. -/
theorem declared_ordered {profile : Profile} (declared : profile.IsDeclared) (name : FieldName)
    (operator : Operator) (value : Value) :
    ¬MeetsUnordered Registry.standard profile.subject name operator value := by
  rintro ⟨-, field, customer, rule, resolved, loose, read, -, unordered⟩
  obtain ⟨raw, found, plain⟩ := declared_raw declared (standard_field (resolve_eq_ok_iff.mp resolved))
  have brought : field.normalize raw = .ok customer := by rw [← read, Field.read, found]
  have customer_plain := normalize_plain loose (plain loose) brought
  rcases unordered.left with ⟨n, rfl⟩ | ⟨x, rfl⟩ <;> cases customer_plain

/-- On a customer of declared types a tree and its dual come to opposite verdicts or to errors of one
class. -/
theorem matchesWritten_dual {profile : Profile} (declared : profile.IsDeclared) (store : ValueStore)
    (rule : Rule) :
    Opposite (matchesWritten Registry.standard store (.rule rule) profile.subject)
      (matchesWritten Registry.standard store (.rule rule.dual) profile.subject) := by
  rw [matchesWritten_built, matchesWritten_built, exposed_dual]
  exact evaluate_dual fun name operator value _ => declared_ordered declared name operator value

/-- A customer with five visits and a tag. -/
def visitor : Profile := { name := .text "Ada", visits := .int 5, tags := .tuple [.text "vip"] }

/-- The first leaf does not hold for the visitor, the others do. -/
def nested : Rule := .composite .all [
  .composite .any [
    .leaf (.word "name") .contains (.text "Grace"),
    .leaf (.word "visits") .greater (.int 0)],
  .leaf (.word "name") .less (.text "B")]

theorem nested_dual_opposite :
    visitor.IsDeclared ∧
    matchesWritten Registry.standard [] (.rule nested) visitor.subject = .ok true ∧
    matchesWritten Registry.standard [] (.rule nested.dual) visitor.subject = .ok false ∧
    Opposite (matchesWritten Registry.standard [] (.rule nested) visitor.subject)
      (matchesWritten Registry.standard [] (.rule nested.dual) visitor.subject) := by
  have tags : ∀ item ∈ [Value.text "vip"], item.IsText := by
    intro item member
    rw [List.mem_singleton.mp member]
    exact .inl ⟨"vip", rfl⟩
  have declared : visitor.IsDeclared :=
    ⟨.inl rfl, .inr (.inl ⟨"Ada", rfl⟩), .inl rfl, .inl rfl, .inl (.inl ⟨0, rfl⟩), .inl ⟨5, rfl⟩,
      .inl rfl, ⟨_, rfl, tags⟩, .inl rfl, .inl rfl⟩
  exact ⟨declared, rfl, rfl, matchesWritten_dual declared [] nested⟩

end Rule

end Outreach
