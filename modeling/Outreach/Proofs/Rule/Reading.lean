import Outreach.Proofs.Rule.Grammar

/-! Reading, step by step: what one node makes the reader do, said in the words of the grammar, and
what is known of the children when all of them have been read. -/

namespace Outreach.Rule
open RuleError (Kind)

/-- The identity of a container that is known by one. -/
def identity? : Value → Option Nat
  | .shared identity => some identity
  | _ => none

theorem node_of_dict {store : ValueStore} {value : Value} {entries : List (Value × Value)}
    (mapping : value.resolve store = .dict entries) :
    node store value = .mapping (identity? value) entries := by
  unfold node
  rw [mapping]
  cases value <;> rfl

theorem node_of_other {store : ValueStore} {value : Value} (unread : ¬IsReady store value)
    (other : ∀ entries, value.resolve store ≠ .dict entries) :
    node store value = .other (value.resolve store).kindName := by
  unfold node
  split
  next rule resolved => exact absurd ⟨rule, resolved⟩ unread
  next entries resolved => exact absurd resolved (other entries)
  next => rfl

theorem not_enclosed {value : Value} {enclosing : List Nat}
    (fresh : ∀ identity ∈ enclosing, value ≠ .shared identity) :
    ¬(identity? value).any (enclosing.contains ·) := by
  unfold identity?
  split
  next identity =>
    intro enclosed
    exact fresh identity (by simpa using enclosed) rfl
  next => simp

theorem ruleList?_eq_some_iff {store : ValueStore} {held : Option Value} {children : List Value} :
    ruleList? store held = some children ↔ ∃ value, held = some value ∧
      (value.resolve store = .list children ∨ value.resolve store = .tuple children) := by
  cases held with
  | none => simp [ruleList?]
  | some value =>
    simp only [ruleList?, Option.map_some, Option.some.injEq, exists_eq_left']
    cases value.resolve store <;> simp

theorem hasChildren_iff {store : ValueStore} {value word : Value} {entries : List (Value × Value)}
    {children : List Value} (mapping : value.resolve store = .dict entries)
    (conditioned : Value.lookup entries "condition" = some word) :
    HasChildren store value children ↔
      ruleList? store (Value.lookup entries "rules") = some children := by
  rw [ruleList?_eq_some_iff]
  constructor
  · rintro ⟨entries', held, mapping', -, listed, items⟩
    obtain rfl := Value.dict.inj (mapping.symm.trans mapping')
    exact ⟨held, listed, items⟩
  · rintro ⟨held, listed, items⟩
    exact ⟨entries, held, mapping, by simp [conditioned], listed, items⟩

/-! ### One node -/

theorem Offends.of_malformed {store : ValueStore} {ancestors : Nat} {node : Value}
    (defect : ¬WellFormed store ancestors node) (other : ¬OnlyOperatorWrong store node) :
    Offends store ancestors node .malformed :=
  ⟨defect, fun operator => absurd operator other, fun _ => rfl⟩

theorem Offends.of_no_mapping {store : ValueStore} {ancestors : Nat} {node : Value}
    (other : ∀ entries, node.resolve store ≠ .dict entries) :
    Offends store ancestors node .malformed := by
  apply Offends.of_malformed
  · rintro (⟨mapping⟩ | ⟨mapping⟩)
    · exact other _ mapping
    · exact other _ mapping
  · rintro ⟨entries, operator, mapping, -⟩
    exact other _ mapping

/-- A composite's defect is never its operator. -/
theorem Offends.of_condition {store : ValueStore} {ancestors : Nat} {node word : Value}
    {entries : List (Value × Value)} (mapping : node.resolve store = .dict entries)
    (conditioned : Value.lookup entries "condition" = some word)
    (defect : NamesCondition word → ∀ children, HasChildren store node children →
      ¬ancestors < maxDepth) :
    Offends store ancestors node .malformed := by
  apply Offends.of_malformed
  · intro wellFormed
    obtain ⟨named, ⟨children, listed⟩, room⟩ := wellFormed.of_conditioned mapping conditioned
    exact defect named children listed room
  · intro wrong
    simpa [conditioned] using (wrong.of_dict mapping).1

/-- A leaf without all its parts is malformed, whatever its operator is. -/
theorem Offends.of_parts {store : ValueStore} {ancestors : Nat} {node : Value}
    {entries : List (Value × Value)} (mapping : node.resolve store = .dict entries)
    (unconditioned : Value.lookup entries "condition" = none)
    (defect : ∀ operator, ¬HasLeafParts entries operator) :
    Offends store ancestors node .malformed := by
  apply Offends.of_malformed
  · intro wellFormed
    obtain ⟨operator, parts, -⟩ := wellFormed.of_unconditioned mapping unconditioned
    exact defect operator parts
  · intro wrong
    obtain ⟨-, operator, parts, -⟩ := wrong.of_dict mapping
    exact defect operator parts

theorem Offends.of_operator {store : ValueStore} {ancestors : Nat} {node operator : Value}
    {entries : List (Value × Value)} (mapping : node.resolve store = .dict entries)
    (unconditioned : Value.lookup entries "condition" = none)
    (parts : HasLeafParts entries operator) (unknown : ¬NamesOperator (operator.exposed store)) :
    Offends store ancestors node .unsupportedOperator where
  defect wellFormed := by
    obtain ⟨operator', parts', known⟩ := wellFormed.of_unconditioned mapping unconditioned
    exact unknown (parts'.unique parts ▸ known)
  operator _ := rfl
  other other := absurd ⟨entries, operator, mapping, unconditioned, parts, unknown⟩ other

theorem asText?_of_asFieldName? {field : Value} {name : FieldName}
    (named : field.asFieldName? = some name) : field.asText? = some name.letters := by
  cases field <;> simp_all [Value.asFieldName?, Value.asText?]
  all_goals
    subst named
    rfl

theorem namesField_iff {field : Value} {name : FieldName}
    (named : field.asFieldName? = some name) : NamesField field ↔ name.letters.isEmpty = false := by
  simp [NamesField, asText?_of_asFieldName? named]

theorem NamesField.name {field : Value} (names : NamesField field) :
    ∃ name, field.asFieldName? = some name ∧ name.letters.isEmpty = false := by
  cases named : field.asFieldName? with
  | some name => exact ⟨name, rfl, (namesField_iff named).mp names⟩
  | none =>
    obtain ⟨text, letters, -⟩ := names
    cases field <;> simp_all [Value.asFieldName?, Value.asText?]

theorem parseLeaf_incomplete {entries : List (Value × Value)} {key : String}
    (needed : key ∈ leafKeys) (absent : Value.lookup entries key = none) (store : ValueStore)
    (path : String) :
    ∃ missing, parseLeaf store entries path = .error ⟨.missingKeys missing, some path⟩ := by
  unfold parseLeaf
  split
  next heldField heldOperator heldValue =>
    simp only [leafKeys, List.mem_cons, List.not_mem_nil, or_false] at needed
    rcases needed with rfl | rfl | rfl
    · simp [heldField] at absent
    · simp [heldOperator] at absent
    · simp [heldValue] at absent
  next => exact ⟨_, rfl⟩

theorem HasLeafParts.complete {entries : List (Value × Value)} {operator : Value}
    (parts : HasLeafParts entries operator) {key : String} (needed : key ∈ leafKeys) :
    Value.lookup entries key ≠ none := by
  obtain ⟨field, value, heldField, heldOperator, heldValue, -⟩ := parts
  simp only [leafKeys, List.mem_cons, List.not_mem_nil, or_false] at needed
  rcases needed with rfl | rfl | rfl
  · simp [heldField]
  · simp [heldOperator]
  · simp [heldValue]

section
variable {entries : List (Value × Value)} {field operator value : Value}
  (heldField : Value.lookup entries "field" = some field)
  (heldOperator : Value.lookup entries "operator" = some operator)
  (heldValue : Value.lookup entries "value" = some value)

include heldField heldOperator heldValue

theorem parseLeaf_unnamed (unnamed : ¬NamesField field) (store : ValueStore) (path : String) :
    parseLeaf store entries path = .error ⟨.emptyField, some path⟩ := by
  simp only [parseLeaf, heldField, heldOperator, heldValue]
  cases named : field.asFieldName? with
  | none => rfl
  | some name =>
    have empty : name.letters.isEmpty := by simpa [namesField_iff named] using unnamed
    simp only [empty, if_true]

theorem parseLeaf_named {name : FieldName} (named : field.asFieldName? = some name)
    (nonempty : name.letters.isEmpty = false) (store : ValueStore) (path : String) :
    parseLeaf store entries path =
      (operatorOf (some path) (operator.exposed store)).map fun op => .leaf name op value := by
  simp only [parseLeaf, heldField, heldOperator, heldValue, named, nonempty, Bool.false_eq_true,
    if_false]
  cases operatorOf (some path) (operator.exposed store) <;> rfl

end

/-- A leaf is read exactly when it passes its check, and else answered by its own offence. -/
theorem parseLeaf_cases {store : ValueStore} {node : Value} {entries : List (Value × Value)}
    (mapping : node.resolve store = .dict entries)
    (unconditioned : Value.lookup entries "condition" = none) (ancestors : Nat) (path : String) :
    (∃ name operator value, parseLeaf store entries path = .ok (.leaf name operator value) ∧
      name.letters.isEmpty = false ∧ WellFormed store ancestors node) ∨
    ∃ e, parseLeaf store entries path = .error e ∧ e.path = some path ∧
      Offends store ancestors node e.kind := by
  by_cases incomplete : ∃ key ∈ leafKeys, Value.lookup entries key = none
  · obtain ⟨key, needed, absent⟩ := incomplete
    obtain ⟨missing, refused⟩ := parseLeaf_incomplete needed absent store path
    exact .inr ⟨_, refused, rfl, Offends.of_parts mapping unconditioned
      fun operator parts => parts.complete needed absent⟩
  · have held {key : String} (needed : key ∈ leafKeys) :
        ∃ value, Value.lookup entries key = some value :=
      Option.ne_none_iff_exists'.mp fun absent => incomplete ⟨key, needed, absent⟩
    obtain ⟨field, heldField⟩ := held (by decide : "field" ∈ leafKeys)
    obtain ⟨operator, heldOperator⟩ := held (by decide : "operator" ∈ leafKeys)
    obtain ⟨value, heldValue⟩ := held (by decide : "value" ∈ leafKeys)
    by_cases named : NamesField field
    · obtain ⟨name, read, nonempty⟩ := named.name
      have parts : HasLeafParts entries operator :=
        ⟨field, value, heldField, heldOperator, heldValue, named⟩
      rw [parseLeaf_named heldField heldOperator heldValue read nonempty]
      cases found : operatorOf (some path) (operator.exposed store) with
      | ok op =>
        exact .inl ⟨name, op, value, rfl, nonempty,
          .leaf mapping unconditioned parts (operatorOf_ok found)⟩
      | error e =>
        obtain ⟨rfl, unknown⟩ := operatorOf_error found
        exact .inr ⟨_, rfl, rfl, Offends.of_operator mapping unconditioned parts unknown⟩
    · refine .inr ⟨_, parseLeaf_unnamed heldField heldOperator heldValue named store path, rfl,
        Offends.of_parts mapping unconditioned ?_⟩
      rintro other ⟨field', -, found, -, -, named'⟩
      obtain rfl := Option.some.inj (heldField.symm.trans found)
      exact named named'

/-! ### The step at a node -/

theorem parseNode_leaf {store : ValueStore} {enclosing : List Nat} {value : Value}
    {entries : List (Value × Value)} (mapping : value.resolve store = .dict entries)
    (fresh : ∀ identity ∈ enclosing, value ≠ .shared identity)
    (unconditioned : Value.lookup entries "condition" = none) (levels : Nat) (path : String) :
    parseNode store levels enclosing value path = parseLeaf store entries path := by
  unfold parseNode
  rw [node_of_dict mapping]
  simp only [if_neg (not_enclosed fresh), unconditioned]

section
variable {store : ValueStore} {enclosing : List Nat} {value word : Value}
  {entries : List (Value × Value)} (mapping : value.resolve store = .dict entries)
  (fresh : ∀ identity ∈ enclosing, value ≠ .shared identity)
  (conditioned : Value.lookup entries "condition" = some word)

include mapping fresh conditioned

theorem parseNode_badCondition (unnamed : conditionOf? word = none) (levels : Nat)
    (path : String) :
    parseNode store levels enclosing value path =
      .error ⟨.badCondition (word.exposed store), some path⟩ := by
  unfold parseNode
  rw [node_of_dict mapping]
  simp only [if_neg (not_enclosed fresh), conditioned, unnamed]

variable {condition : Condition} (named : conditionOf? word = some condition)

include named

theorem parseNode_noRuleList (unlisted : ruleList? store (Value.lookup entries "rules") = none)
    (levels : Nat) (path : String) :
    parseNode store levels enclosing value path = .error ⟨.noRuleList, some path⟩ := by
  unfold parseNode
  rw [node_of_dict mapping]
  simp only [if_neg (not_enclosed fresh), conditioned, named, unlisted]

variable {children : List Value}
  (listed : ruleList? store (Value.lookup entries "rules") = some children)

include listed

theorem parseNode_tooDeep (path : String) :
    parseNode store 0 enclosing value path = .error ⟨.tooDeep maxDepth, some path⟩ := by
  unfold parseNode
  rw [node_of_dict mapping]
  simp only [if_neg (not_enclosed fresh), conditioned, named, listed]

theorem parseNode_composite (lower : Nat) (path : String) :
    parseNode store (lower + 1) enclosing value path =
      (parseEach (parseNode store lower ((identity? value).toList ++ enclosing)) path 0
        children).map (.composite condition) := by
  unfold parseNode
  rw [node_of_dict mapping]
  simp only [if_neg (not_enclosed fresh), conditioned, named, listed]
  cases parseEach (parseNode store lower ((identity? value).toList ++ enclosing)) path 0
    children <;> rfl

end

/-- What reading does at a node that is no rule already and does not enclose itself: it refuses the
node by the node's own offence, or it takes the node as a leaf, or it goes on to the children. -/
theorem parseNode_cases {store : ValueStore} {levels ancestors : Nat} {enclosing : List Nat}
    {value : Value} (budget : levels + ancestors = maxDepth) (unread : ¬IsReady store value)
    (fresh : ∀ identity ∈ enclosing, value ≠ .shared identity) (path : String) :
    (∃ e, parseNode store levels enclosing value path = .error e ∧ e.path = some path ∧
      Offends store ancestors value e.kind) ∨
    (∃ name operator held,
      parseNode store levels enclosing value path = .ok (.leaf name operator held) ∧
      name.letters.isEmpty = false ∧ WellFormed store ancestors value ∧
      ∀ children, ¬HasChildren store value children) ∨
    ∃ condition children lower, levels = lower + 1 ∧ WellFormed store ancestors value ∧
      HasChildren store value children ∧
      parseNode store levels enclosing value path =
        (parseEach (parseNode store lower ((identity? value).toList ++ enclosing)) path 0
          children).map (.composite condition) := by
  by_cases mapping : ∃ entries, value.resolve store = .dict entries
  · obtain ⟨entries, mapping⟩ := mapping
    cases conditioned : Value.lookup entries "condition" with
    | none =>
      rw [parseNode_leaf mapping fresh conditioned]
      rcases parseLeaf_cases mapping conditioned ancestors path with
        ⟨name, operator, held, read, named, wellFormed⟩ | ⟨e, refused, placed, offends⟩
      · refine .inr (.inl ⟨name, operator, held, read, named, wellFormed, ?_⟩)
        rintro children ⟨entries', held, mapping', conditioned', -⟩
        obtain rfl := Value.dict.inj (mapping.symm.trans mapping')
        simp [conditioned] at conditioned'
      · exact .inl ⟨e, refused, placed, offends⟩
    | some word =>
      have held (children : List Value) : HasChildren store value children ↔
          ruleList? store (Value.lookup entries "rules") = some children :=
        hasChildren_iff mapping conditioned
      cases named : conditionOf? word with
      | none =>
        refine .inl ⟨_, parseNode_badCondition mapping fresh conditioned named levels path, rfl,
          Offends.of_condition mapping conditioned ?_⟩
        intro known
        have found := (conditionOf?_isSome_iff word).mpr known
        simp [named] at found
      | some condition =>
        cases listed : ruleList? store (Value.lookup entries "rules") with
        | none =>
          refine .inl ⟨_, parseNode_noRuleList mapping fresh conditioned named listed levels path,
            rfl, Offends.of_condition mapping conditioned ?_⟩
          intro _ children composite
          simp [(held children).mp composite] at listed
        | some children =>
          cases levels with
          | zero =>
            refine .inl ⟨_, parseNode_tooDeep mapping fresh conditioned named listed path, rfl,
              Offends.of_condition mapping conditioned ?_⟩
            omega
          | succ lower =>
            have known : NamesCondition word := (conditionOf?_isSome_iff word).mp (by simp [named])
            have composite := (held children).mpr listed
            exact .inr (.inr ⟨condition, children, lower, rfl,
              .composite mapping conditioned known composite (by omega), composite,
              parseNode_composite mapping fresh conditioned named listed lower path⟩)
  · have other : ∀ entries, value.resolve store ≠ .dict entries :=
      fun entries resolved => mapping ⟨entries, resolved⟩
    unfold parseNode
    rw [node_of_other unread other]
    exact .inl ⟨⟨.notAnObject _, some path⟩, rfl, rfl, Offends.of_no_mapping other⟩

/-- Nothing is read inside itself. -/
theorem parseNode_enclosed {store : ValueStore} {levels identity : Nat} {enclosing : List Nat}
    (unread : ¬IsReady store (.shared identity)) (member : identity ∈ enclosing) (path : String) :
    ∃ e, parseNode store levels enclosing (.shared identity) path = .error e := by
  unfold parseNode
  by_cases mapping : ∃ entries, (Value.shared identity).resolve store = .dict entries
  · obtain ⟨entries, mapping⟩ := mapping
    rw [node_of_dict mapping]
    exact ⟨⟨.cyclic, some path⟩, if_pos (by simpa [identity?] using member)⟩
  · rw [node_of_other unread fun entries resolved => mapping ⟨entries, resolved⟩]
    exact ⟨⟨.notAnObject _, some path⟩, rfl⟩

/-- What was read at a node is a leaf with a name, or a composite whose children were read one level
further down. -/
theorem parseNode_ok_cases {store : ValueStore} {levels ancestors : Nat} {enclosing : List Nat}
    {value : Value} {path : String} {rule : Rule} (budget : levels + ancestors = maxDepth)
    (unread : ¬IsReady store value)
    (read : parseNode store levels enclosing value path = .ok rule) :
    WellFormed store ancestors value ∧
    ((∃ name operator held, rule = .leaf name operator held ∧ name.letters.isEmpty = false ∧
      ∀ children, ¬HasChildren store value children) ∨
    ∃ condition rules children lower, levels = lower + 1 ∧ rule = .composite condition rules ∧
      HasChildren store value children ∧
      parseEach (parseNode store lower ((identity? value).toList ++ enclosing)) path 0 children =
        .ok rules) := by
  have fresh : ∀ identity ∈ enclosing, value ≠ .shared identity := by
    rintro identity member rfl
    obtain ⟨e, refused⟩ := parseNode_enclosed unread member path
    cases read.symm.trans refused
  rcases parseNode_cases budget unread fresh path with
    ⟨e, refused, -⟩ | ⟨name, operator, held, accepted, named, wellFormed, leaf⟩ |
    ⟨condition, children, lower, descends, wellFormed, composite, steps⟩
  · cases read.symm.trans refused
  · obtain rfl := Except.ok.inj (read.symm.trans accepted)
    exact ⟨wellFormed, .inl ⟨name, operator, held, rfl, named, leaf⟩⟩
  · rw [steps] at read
    cases row : parseEach (parseNode store lower ((identity? value).toList ++ enclosing)) path 0
      children with
    | error e =>
      rw [row] at read
      cases read
    | ok rules =>
      rw [row] at read
      cases read
      exact ⟨wellFormed, .inr ⟨condition, rules, children, lower, descends, rfl, composite, row⟩⟩

/-! ### Children and whole rules -/

/-- Where all children are read, each has its rule and each rule its child. -/
theorem parseEach_ok {parse : Value → String → Except RuleError Rule} {path : String}
    {children : List Value} {index : Nat} {rules : List Rule}
    (read : parseEach parse path index children = .ok rules) :
    (∀ child ∈ children, ∃ spot rule, rule ∈ rules ∧ parse child spot = .ok rule) ∧
      ∀ rule ∈ rules, ∃ child spot, child ∈ children ∧ parse child spot = .ok rule := by
  induction children generalizing index rules with
  | nil =>
    cases read
    simp
  | cons child rest ih =>
    unfold parseEach at read
    split at read
    next => cases read
    next rule here =>
      split at read
      next => cases read
      next others later =>
        cases read
        obtain ⟨forward, backward⟩ := ih later
        constructor
        · simp only [List.forall_mem_cons]
          refine ⟨⟨_, rule, by simp, here⟩, ?_⟩
          intro other member
          obtain ⟨spot, found, among, accepted⟩ := forward other member
          exact ⟨spot, found, List.mem_cons_of_mem _ among, accepted⟩
        · simp only [List.forall_mem_cons]
          refine ⟨⟨child, _, by simp, here⟩, ?_⟩
          intro other member
          obtain ⟨found, spot, among, accepted⟩ := backward other member
          exact ⟨found, spot, List.mem_cons_of_mem _ among, accepted⟩

theorem parseShared_ok_iff {store : ValueStore} {written : Value} {path : String} {rule : Rule} :
    parseShared store written path = .ok rule ↔
      ∃ read, parseReferring store written path = .ok read ∧ read.exposed store = rule := by
  unfold parseShared
  cases parseReferring store written path <;> simp [Except.map]

theorem parseShared_error_iff {store : ValueStore} {written : Value} {path : String}
    {e : RuleError} :
    parseShared store written path = .error e ↔ parseReferring store written path = .error e := by
  unfold parseShared
  cases parseReferring store written path <;> simp [Except.map]

end Outreach.Rule
