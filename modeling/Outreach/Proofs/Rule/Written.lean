import Outreach.Proofs.Json.Identity
import Outreach.Proofs.Rule.Fault
import Outreach.Proofs.Rule.RoundTrip
import Outreach.Rule.NormalForm

/-! Rules that are written in JSON. Such a rule is a tree without references and holds no rule that
has been read already, so that its normal form is its own normal form, and the values of its leaves
are JSON again. So the normal form is the same as itself, which is how rules are found not to have
changed. -/

namespace Outreach.Rule

theorem json_not_ready {node : Value} (json : IsJson node) : ¬IsReady [] node := by
  rintro ⟨rule, resolved⟩
  rw [json.resolve] at resolved
  rw [resolved] at json
  cases json

/-- The children of a node that is JSON stand in a list under its rules. -/
theorem child_part {value : Value} {children : List Value} (json : IsJson value)
    (composite : HasChildren [] value children) : ∀ child ∈ children, Value.IsPart child value := by
  intro child member
  obtain ⟨entries, held, mapping, -, listed, items⟩ := composite
  rw [json.resolve] at mapping
  rw [mapping] at json ⊢
  have below := json.lookup listed
  have placed := Value.lookup_part listed
  rw [below.resolve] at items
  rcases items with list | tuple
  · rw [list] at placed
    exact Value.IsPart.trans (.inside (.list member) .whole) placed
  · rw [tuple] at below
    cases below

theorem json_reached {value node : Value} {address : List Nat} (json : IsJson value)
    (reached : Reaches [] value address node) : IsJson node := by
  induction reached with
  | root value => exact json
  | child composite placed below ih =>
    exact ih (json.part (child_part json composite _ (List.mem_of_getElem? placed)))

theorem json_unread {written : Value} (json : IsJson written) : IsUnread [] written :=
  fun _ _ reached => json_not_ready (json_reached json reached)

/-! ### The leaves of what was read -/

theorem parseLeaf_value {store : ValueStore} {entries : List (Value × Value)} {path : String}
    {name : FieldName} {operator : Operator} {value : Value}
    (read : parseLeaf store entries path = .ok (.leaf name operator value)) :
    Value.lookup entries "value" = some value := by
  unfold parseLeaf at read
  split at read
  next field sign held _ _ found =>
    split at read
    next =>
      split at read
      next => cases read
      next =>
        split at read
        next =>
          cases read
          exact found
        next => cases read
    next => cases read
  next => cases read

/-- A node that is read as a leaf has the leaf's value under its key. -/
theorem leaf_value_part {levels : Nat} {enclosing : List Nat} {node : Value} {path : String}
    {name : FieldName} {operator : Operator} {value : Value} (json : IsJson node)
    (read : parseNode [] levels enclosing node path = .ok (.leaf name operator value)) :
    Value.IsPart value node := by
  cases json with
  | @dict entries keys each =>
    cases conditioned : Value.lookup entries "condition" with
    | none =>
      rw [parseNode_leaf rfl unshared_of_dict conditioned] at read
      exact Value.lookup_part (parseLeaf_value read)
    | some word =>
      unfold parseNode at read
      simp only [Rule.node, Value.resolve, conditioned] at read
      repeat' split at read
      all_goals cases read
  | _ => cases levels <;> cases read

/-- The values of the leaves stand in what was written. -/
theorem leaf_part {levels ancestors : Nat} {enclosing : List Nat} {written : Value}
    {path : String} {rule : Rule} {name : FieldName} {operator : Operator} {value : Value}
    (budget : levels + ancestors = maxDepth) (json : IsJson written)
    (read : parseNode [] levels enclosing written path = .ok rule)
    (held : HasLeaf name operator value rule) : Value.IsPart value written := by
  induction held generalizing levels ancestors enclosing written path with
  | here => exact leaf_value_part json read
  | inside member held ih =>
    obtain ⟨-, ⟨_, _, _, other, -⟩ | ⟨condition, rules, children, lower, rfl, same, composite, row⟩⟩ :=
      parseNode_ok_cases budget (json_not_ready json) read
    · cases other
    · cases same
      obtain ⟨child, spot, among, accepted⟩ := (parseEach_ok row).2 _ member
      have placed := child_part json composite child among
      exact (ih (by omega : lower + (ancestors + 1) = maxDepth) (json.part placed) accepted).trans
        placed

theorem HasLeaf.of_exposed {name : FieldName} {operator : Operator} {value : Value} {rule : Rule}
    (held : HasLeaf name operator value (rule.exposed [])) :
    ∃ raw, HasLeaf name operator raw rule ∧ raw.exposed [] = value := by
  induction rule using treeInduction with
  | leaf field op raw =>
    cases held
    exact ⟨raw, .here, rfl⟩
  | composite condition rules ih =>
    rw [exposed, exposedAll_eq_map] at held
    cases held with
    | inside member below =>
      obtain ⟨part, among, rfl⟩ := List.mem_map.mp member
      obtain ⟨raw, inner, same⟩ := ih part among below
      exact ⟨raw, .inside among inner, same⟩

theorem parse_leaf_part {written : Value} {path : String} {rule : Rule} {name : FieldName}
    {operator : Operator} {value : Value} (json : IsJson written)
    (read : parse written path = .ok rule) (held : HasLeaf name operator value rule) :
    Value.IsPart value written := by
  obtain ⟨referring, accepted, rfl⟩ := parseShared_ok_iff.mp read
  obtain ⟨raw, inner, rfl⟩ := held.of_exposed
  have placed := leaf_part (Nat.add_zero maxDepth) json accepted inner
  rwa [Value.exposed_nil, (json.part placed).substitute]

theorem parse_json_leaves {written : Value} {path : String} {rule : Rule} {name : FieldName}
    {operator : Operator} {value : Value} (json : IsJson written)
    (read : parse written path = .ok rule) (held : HasLeaf name operator value rule) :
    IsJson value := json.part (parse_leaf_part json read held)

theorem HasLeaf.name_mem {name : FieldName} {operator : Operator} {value : Value} {rule : Rule}
    (held : HasLeaf name operator value rule) : name ∈ rule.names := by
  induction held with
  | here => simp [names]
  | @inside condition rules part member held ih =>
    rw [names]
    clear held
    induction rules with
    | nil => cases member
    | cons first rest step =>
      rw [namesOf, List.mem_append]
      rcases List.mem_cons.mp member with rfl | later
      · exact .inl ih
      · exact .inr (step later)

/-! ### Normal forms -/

/-- Rules as they are to be stored: they are read, are written again as they are, are not nested too
deeply, and name fields of customers only. -/
structure IsNormal (rules : Value) (rule : Rule) : Prop where
  read : parse rules rootPath = .ok rule
  written : rule.toValue = rules
  shallow : rule.depth ≤ maxDepth
  known : ∀ name ∈ rule.names, ∃ field, Registry.standard.resolve (.ofFieldName name) = .ok field

theorem resolve_eq_ok_iff {registry : Registry} {name : FieldName} {field : Field} :
    registry.resolve (.ofFieldName name) = .ok field ↔
      List.lookup name.letters registry = some field := by
  have letters : (Value.ofFieldName name).asText? = some name.letters := by cases name <;> rfl
  unfold Registry.resolve
  rw [letters, Option.bind_some]
  cases List.lookup name.letters registry <;> simp

theorem normalForm_ok {written normal : Value} (unread : IsUnread [] written)
    (accepted : normalForm [] written = .ok normal) :
    ∃ rule, parse written rootPath = .ok rule ∧ IsNormal normal rule := by
  unfold normalForm at accepted
  split at accepted
  next => cases accepted
  next rule read =>
    split at accepted
    next => cases accepted
    next none_unknown =>
      cases accepted
      obtain ⟨built, closed, shallow⟩ := parse_ok unread read
      refine ⟨rule, read, parse_toValue built closed shallow rootPath, rfl, shallow, ?_⟩
      intro name member
      have known := List.find?_eq_none.mp none_unknown name member
      cases found : List.lookup name.letters Registry.standard with
      | none => exact absurd (by rw [found]; rfl) known
      | some field => exact ⟨field, resolve_eq_ok_iff.mpr found⟩

end Outreach.Rule
