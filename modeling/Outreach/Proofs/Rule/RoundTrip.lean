import Outreach.Proofs.Rule.Evaluation
import Outreach.Proofs.Value.Substitution

/-! Writing a rule and reading it again. A rule built from parts is read back from its written form
as far down as the reader goes; what the reader returns is such a rule, so the written form of what
was read is a fixed point. -/

namespace Outreach.Rule

/-- The rules that leaves and composites are built into. -/
inductive Built : Rule → Prop where
  | leaf {field operator value : Value} {rule : Rule}
      (made : makeLeaf field operator value = .ok rule) : Built rule
  | composite {word : Value} {condition : Condition} {children : List Child} {rules : List Rule}
      (named : exactConditionOf word = .ok condition) (gathered : gather children = .ok rules)
      (parts : ∀ rule ∈ rules, Built rule) : Built (.composite condition rules)

/-- Nothing in the rule refers to a container kept elsewhere. -/
def IsClosed (rule : Rule) : Prop := rule.exposed [] = rule

theorem toValues_eq_map (rules : List Rule) : toValues rules = rules.map toValue := by
  induction rules with
  | nil => rfl
  | cons rule rest ih => rw [toValues, ih, List.map_cons]

theorem depthOf_le_iff {rules : List Rule} {levels : Nat} :
    depthOf rules ≤ levels ↔ ∀ rule ∈ rules, rule.depth ≤ levels := by
  induction rules with
  | nil => simp [depthOf]
  | cons rule rest ih => simp [depthOf, ih]

/-! ### Building -/

theorem operatorOf_sign (path : Option String) (operator : Operator) :
    operatorOf path (.text operator.sign) = .ok operator := by
  simp [operatorOf, Value.asText?, Operator.ofSign?_sign]

theorem asFieldName?_ofFieldName (name : FieldName) :
    (Value.ofFieldName name).asFieldName? = some name := by
  cases name <;> rfl

theorem makeLeaf_ok {field operator value : Value} {rule : Rule}
    (made : makeLeaf field operator value = .ok rule) :
    ∃ name op, rule = .leaf name op value ∧ name.letters.isEmpty = false := by
  unfold makeLeaf at made
  split at made
  next name named =>
    split at made
    next => cases made
    next nonempty =>
      split at made
      next op _ =>
        cases made
        exact ⟨name, op, rfl, by simpa using nonempty⟩
      next => cases made
  next => cases made

theorem Built.of_leaf {name : FieldName} {operator : Operator} {value : Value}
    (named : name.letters.isEmpty = false) : Built (.leaf name operator value) := by
  have made : makeLeaf (.ofFieldName name) (.text operator.sign) value =
      .ok (.leaf name operator value) := by
    simp [makeLeaf, asFieldName?_ofFieldName, named, operatorOf_sign]
  exact .leaf made

theorem gather_map_rule (rules : List Rule) : gather (rules.map Child.rule) = .ok rules := by
  induction rules with
  | nil => rfl
  | cons rule rest ih => simp only [List.map_cons, gather, ih]

theorem Built.of_parts {condition : Condition} {rules : List Rule}
    (parts : ∀ rule ∈ rules, Built rule) : Built (.composite condition rules) := by
  have named : exactConditionOf (.text condition.word) = .ok condition := by
    simp [exactConditionOf, Value.asText?, Condition.ofWord?_word]
  exact .composite named (gather_map_rule rules) parts

/-! ### Reading what was written -/

theorem unshared_of_dict {entries : List (Value × Value)} {enclosing : List Nat} :
    ∀ identity ∈ enclosing, Value.dict entries ≠ .shared identity := by
  simp

theorem parseNode_toValue_leaf {name : FieldName} (named : name.letters.isEmpty = false)
    (store : ValueStore) (levels : Nat) (enclosing : List Nat) (operator : Operator) (value : Value)
    (path : String) :
    parseNode store levels enclosing (toValue (.leaf name operator value)) path =
      .ok (.leaf name operator value) := by
  let entries : List (Value × Value) := [(.text "field", .ofFieldName name),
    (.text "operator", .text operator.sign), (.text "value", value)]
  have read : parseLeaf store entries path = _ :=
    parseLeaf_named rfl rfl rfl (asFieldName?_ofFieldName name) named store path
  rw [Value.exposed_text, operatorOf_sign] at read
  calc
    _ = parseLeaf store entries path := parseNode_leaf rfl unshared_of_dict rfl levels path
    _ = _ := read

theorem conditionOf?_word (condition : Condition) :
    conditionOf? (.text condition.word) = some condition := by
  cases condition <;> rfl

theorem parseNode_toValue_composite (store : ValueStore) (lower : Nat) (enclosing : List Nat)
    (condition : Condition) (rules : List Rule) (path : String) :
    parseNode store (lower + 1) enclosing (toValue (.composite condition rules)) path =
      (parseEach (parseNode store lower enclosing) path 0 (toValues rules)).map
        (.composite condition) :=
  parseNode_composite rfl unshared_of_dict rfl (conditionOf?_word condition) rfl lower path

theorem parseNode_toValue_tooDeep (store : ValueStore) (enclosing : List Nat)
    (condition : Condition) (rules : List Rule) (path : String) :
    parseNode store 0 enclosing (toValue (.composite condition rules)) path =
      .error ⟨.tooDeep maxDepth, some path⟩ :=
  parseNode_tooDeep rfl unshared_of_dict rfl (conditionOf?_word condition) rfl path

theorem parseEach_toValues {parse : Value → String → Except RuleError Rule} {rules : List Rule}
    (each : ∀ rule ∈ rules, ∀ path, parse rule.toValue path = .ok rule) (path : String)
    (index : Nat) : parseEach parse path index (toValues rules) = .ok rules := by
  induction rules generalizing index with
  | nil => rfl
  | cons rule rest ih =>
    rw [List.forall_mem_cons] at each
    simp only [toValues, parseEach, each.1, ih each.2]

/-- One child that is refused for its form has the row refused so, if no child is refused for
anything else. -/
theorem parseEach_malformed {parse : Value → String → Except RuleError Rule}
    {children : List Value} {culprit : Value}
    (only : ∀ child ∈ children, ∀ path e, parse child path = .error e → e.kind = .malformed)
    (member : culprit ∈ children) (refused : ∀ path, ∃ e, parse culprit path = .error e)
    (path : String) (index : Nat) :
    ∃ e, parseEach parse path index children = .error e ∧ e.kind = .malformed := by
  induction children generalizing index with
  | nil => cases member
  | cons child rest ih =>
    rw [List.forall_mem_cons] at only
    unfold parseEach
    cases read : parse child (childPath path index) with
    | error e => exact ⟨e, rfl, only.1 _ e read⟩
    | ok rule =>
      have later : culprit ∈ rest := by
        rcases List.mem_cons.mp member with rfl | later
        · obtain ⟨e, other⟩ := refused (childPath path index)
          cases read.symm.trans other
        · exact later
      obtain ⟨e, row, kind⟩ := ih only.2 later (index + 1)
      exact ⟨e, by rw [row], kind⟩

/-- The written form is read back when the levels reach down to the leaves of the rule, and is
malformed to the reader when they do not. -/
def ReadsBack (store : ValueStore) (levels : Nat) (enclosing : List Nat) (rule : Rule) : Prop :=
  ∀ path,
    (rule.depth ≤ levels → parseNode store levels enclosing rule.toValue path = .ok rule) ∧
    (levels < rule.depth → ∃ e, parseNode store levels enclosing rule.toValue path = .error e ∧
      e.kind = .malformed)

theorem ReadsBack.kind {store : ValueStore} {levels : Nat} {enclosing : List Nat} {rule : Rule}
    (back : ReadsBack store levels enclosing rule) {path : String} {e : RuleError}
    (refused : parseNode store levels enclosing rule.toValue path = .error e) :
    e.kind = .malformed := by
  by_cases shallow : rule.depth ≤ levels
  · cases ((back path).1 shallow).symm.trans refused
  · obtain ⟨e', refused', kind⟩ := (back path).2 (by omega)
    obtain rfl := Except.error.inj (refused.symm.trans refused')
    exact kind

/-- One child that the levels do not reach has the row of children refused. -/
theorem parseEach_tooDeep {store : ValueStore} {levels : Nat} {enclosing : List Nat}
    {rules : List Rule} (each : ∀ rule ∈ rules, ReadsBack store levels enclosing rule)
    (deep : levels < depthOf rules) (path : String) :
    ∃ e, parseEach (parseNode store levels enclosing) path 0 (toValues rules) = .error e ∧
      e.kind = .malformed := by
  have beyond : ∃ rule ∈ rules, levels < rule.depth := by
    have exceeds : ¬depthOf rules ≤ levels := by omega
    simpa [depthOf_le_iff] using exceeds
  obtain ⟨culprit, member, deep⟩ := beyond
  have refused (path : String) :
      ∃ e, parseNode store levels enclosing culprit.toValue path = .error e :=
    ((each culprit member path).2 deep).imp fun e refused => refused.1
  rw [toValues_eq_map]
  refine parseEach_malformed ?_ (List.mem_map_of_mem member) refused path 0
  intro child among path e refused
  obtain ⟨rule, rule_mem, rfl⟩ := List.mem_map.mp among
  exact (each rule rule_mem).kind refused

theorem readsBack_composite {store : ValueStore} {lower : Nat} {enclosing : List Nat}
    {rules : List Rule} (each : ∀ rule ∈ rules, ReadsBack store lower enclosing rule)
    (condition : Condition) : ReadsBack store (lower + 1) enclosing (.composite condition rules) := by
  intro path
  rw [depth, parseNode_toValue_composite]
  constructor
  · intro shallow
    have below := depthOf_le_iff.mp (Nat.le_of_succ_le_succ shallow)
    rw [parseEach_toValues fun rule member path => (each rule member path).1 (below rule member)]
    rfl
  · intro deep
    obtain ⟨e, row, kind⟩ := parseEach_tooDeep each (Nat.lt_of_succ_lt_succ deep) path
    exact ⟨e, by rw [row]; rfl, kind⟩

theorem Built.readsBack {rule : Rule} (built : Built rule) (store : ValueStore) (levels : Nat)
    (enclosing : List Nat) : ReadsBack store levels enclosing rule := by
  induction built generalizing levels with
  | leaf made =>
    obtain ⟨name, operator, rfl, named⟩ := makeLeaf_ok made
    intro path
    exact ⟨fun _ => parseNode_toValue_leaf named store levels enclosing operator _ path,
      fun deeper => absurd deeper (Nat.not_lt_zero levels)⟩
  | @composite _ condition _ rules _ _ _ ih =>
    cases levels with
    | zero =>
      intro path
      rw [depth]
      exact ⟨fun shallow => absurd shallow (Nat.not_succ_le_zero _), fun _ =>
        ⟨_, parseNode_toValue_tooDeep store enclosing condition rules path, rfl⟩⟩
    | succ lower => exact readsBack_composite (fun rule member => ih rule member lower) condition

/-! ### Writing what was read -/

/-- What is read from a value that holds no rule already is built, and no deeper than the levels. -/
theorem built_of_parseNode {store : ValueStore} {levels ancestors : Nat} {enclosing : List Nat}
    {value : Value} {path : String} {rule : Rule} (budget : levels + ancestors = maxDepth)
    (unread : IsUnread store value)
    (read : parseNode store levels enclosing value path = .ok rule) :
    Built rule ∧ rule.depth ≤ levels := by
  induction levels using Nat.strongRecOn generalizing ancestors enclosing value path rule with
  | ind levels ih =>
    obtain ⟨-, ⟨name, operator, held, rfl, named, -⟩ |
      ⟨condition, rules, children, lower, rfl, rfl, composite, row⟩⟩ :=
      parseNode_ok_cases budget unread.root read
    · exact ⟨.of_leaf named, Nat.zero_le levels⟩
    · have lowered : lower + (ancestors + 1) = maxDepth := by omega
      have each : ∀ rule ∈ rules, Built rule ∧ rule.depth ≤ lower := by
        intro rule member
        obtain ⟨child, spot, among, accepted⟩ := (parseEach_ok row).2 rule member
        exact ih lower (by omega) lowered (unread.child composite among) accepted
      refine ⟨.of_parts fun rule member => (each rule member).1, ?_⟩
      rw [depth]
      exact Nat.succ_le_succ (depthOf_le_iff.mpr fun rule member => (each rule member).2)

theorem exposedAll_eq_map (store : ValueStore) (rules : List Rule) :
    exposedAll store rules = rules.map (exposed store) := by
  induction rules with
  | nil => rfl
  | cons rule rest ih => rw [exposedAll, ih, List.map_cons]

/-- Freeing a rule's values of references changes neither how it is built nor how deep it is. -/
theorem Built.exposed {rule : Rule} (built : Built rule) (store : ValueStore) :
    Built (rule.exposed store) ∧ (rule.exposed store).depth = rule.depth := by
  induction built with
  | leaf made =>
    obtain ⟨name, operator, rfl, named⟩ := makeLeaf_ok made
    exact ⟨.of_leaf named, rfl⟩
  | @composite _ condition _ rules _ _ _ ih =>
    rw [Rule.exposed, exposedAll_eq_map]
    constructor
    · apply Built.of_parts
      intro rule member
      obtain ⟨part, part_mem, rfl⟩ := List.mem_map.mp member
      exact (ih part part_mem).1
    · have same : ∀ levels, depthOf (rules.map (Rule.exposed store)) ≤ levels ↔
          depthOf rules ≤ levels := by
        intro levels
        simp only [depthOf_le_iff, List.forall_mem_map]
        exact forall₂_congr fun rule member => by rw [(ih rule member).2]
      have upper := (same _).mpr (Nat.le_refl _)
      have lower := (same _).mp (Nat.le_refl _)
      simp only [depth]
      omega

theorem parse_toValue {rule : Rule} (built : Built rule) (closed : IsClosed rule)
    (shallow : rule.depth ≤ maxDepth) (path : String) : parse rule.toValue path = .ok rule :=
  parseShared_ok_iff.mpr ⟨rule, (built.readsBack [] maxDepth [] path).1 shallow, closed⟩

theorem parse_ok {written : Value} {path : String} {rule : Rule} (unread : IsUnread [] written)
    (read : parse written path = .ok rule) :
    Built rule ∧ IsClosed rule ∧ rule.depth ≤ maxDepth := by
  obtain ⟨referring, accepted, rfl⟩ := parseShared_ok_iff.mp read
  obtain ⟨built, shallow⟩ := built_of_parseNode (Nat.add_zero maxDepth) unread accepted
  obtain ⟨exposed, depth⟩ := built.exposed []
  exact ⟨exposed, exposed_nil_exposed_nil referring, by rw [depth]; exact shallow⟩

end Outreach.Rule
