import Mathlib.Data.Fintype.Card
import Mathlib.Data.Set.Finite.Lattice
import Mathlib.Data.Set.Finite.List
import Outreach.Proofs.Rule.Grammar
import Outreach.Proofs.Value.Sameness

/-! Walks down written rules, through the lists of their composites. There are finitely many nodes
to come to, so all walks end, or one of them comes to a node that it has passed before. -/

namespace Outreach

/-! ### Parts of values -/

namespace Value

theorem HasMember.sizeOf_lt {member whole : Value} (held : HasMember member whole) :
    sizeOf member < sizeOf whole := by
  cases held with
  | list among | tuple among | set among =>
    have smaller := List.sizeOf_lt_of_mem among
    simp only [list.sizeOf_spec, tuple.sizeOf_spec, set.sizeOf_spec]
    omega
  | @key entry entries among | @entry entry entries among =>
    have smaller := List.sizeOf_lt_of_mem among
    have sides : sizeOf entry = 1 + sizeOf entry.1 + sizeOf entry.2 := rfl
    simp only [dict.sizeOf_spec]
    omega
  | leaf field operator value =>
    simp only [rule.sizeOf_spec, Rule.leaf.sizeOf_spec]
    omega
  | child condition among =>
    have smaller := List.sizeOf_lt_of_mem among
    simp only [rule.sizeOf_spec, Rule.composite.sizeOf_spec]
    omega

theorem finite_members (whole : Value) : {member | HasMember member whole}.Finite := by
  cases whole with
  | list items =>
    refine (List.finite_toSet items).subset fun member held => ?_
    cases held with
    | list among => exact among
  | tuple items =>
    refine (List.finite_toSet items).subset fun member held => ?_
    cases held with
    | tuple among => exact among
  | set items =>
    refine (List.finite_toSet items).subset fun member held => ?_
    cases held with
    | set among => exact among
  | dict entries =>
    refine (List.finite_toSet (entries.map Prod.fst ++ entries.map Prod.snd)).subset
      fun member held => ?_
    cases held with
    | key among => exact List.mem_append_left _ (List.mem_map_of_mem among)
    | entry among => exact List.mem_append_right _ (List.mem_map_of_mem among)
  | rule rule =>
    cases rule with
    | leaf field operator value =>
      refine (Set.finite_singleton value).subset fun member held => ?_
      cases held with
      | leaf => rfl
    | composite condition rules =>
      refine (List.finite_toSet (rules.map Value.rule)).subset fun member held => ?_
      cases held with
      | child _ among => exact List.mem_map_of_mem among
  | _ => exact Set.finite_empty.subset fun member held => by cases held

/-- A value has finitely many parts, as each of its members is a smaller value. -/
theorem finite_parts (whole : Value) : {part | IsPart part whole}.Finite := by
  have split : {part | IsPart part whole} ⊆
      insert whole (⋃ member ∈ {member | HasMember member whole}, {part | IsPart part member}) := by
    intro part held
    cases held with
    | whole => exact Set.mem_insert _ _
    | inside member below => exact Set.mem_insert_of_mem _ (Set.mem_biUnion member below)
  refine Set.Finite.subset (.insert whole (.biUnion (finite_members whole) ?_)) split
  intro member held
  exact finite_parts member
termination_by sizeOf whole
decreasing_by exact HasMember.sizeOf_lt held

end Value

namespace Rule

/-! ### Walks -/

theorem Reaches.trans {store : ValueStore} {value middle node : Value} {above below : List Nat}
    (first : Reaches store value above middle) (second : Reaches store middle below node) :
    Reaches store value (above ++ below) node := by
  induction first with
  | root => exact second
  | child composite placed _ ih => exact .child composite placed (ih second)

/-- A node stands in the rule list of another one. -/
def IsChild (store : ValueStore) (child value : Value) : Prop :=
  ∃ children, HasChildren store value children ∧ child ∈ children

/-- Some node of the rule can be reached again from itself. -/
def IsCyclic (store : ValueStore) (value : Value) : Prop :=
  ∃ above node below, below ≠ [] ∧ Reaches store value above node ∧ Reaches store node below node

theorem IsChild.reached {store : ValueStore} {child value : Value}
    (isChild : IsChild store child value) : ∃ index, Reaches store value [index] child := by
  obtain ⟨children, composite, member⟩ := isChild
  obtain ⟨index, placed⟩ := List.getElem?_of_mem member
  exact ⟨index, .child composite placed (.root child)⟩

theorem Reaches.acc {store : ValueStore} {value node : Value} {address : List Nat}
    (reached : Reaches store value address node) (ends : Acc (IsChild store) value) :
    Acc (IsChild store) node := by
  induction reached with
  | root => exact ends
  | child composite placed _ ih =>
    exact ih (ends.inv ⟨_, composite, List.mem_of_getElem? placed⟩)

/-- A node below which every walk ends is not below itself: the walk back to it could be started
again at the first node that it comes to. -/
theorem not_reaches_self {store : ValueStore} {value : Value} (ends : Acc (IsChild store) value)
    {below : List Nat} (proper : below ≠ []) : ¬Reaches store value below value := by
  induction ends generalizing below with
  | intro value _ ih =>
    intro around
    cases around with
    | root => exact proper rfl
    | @child _ child _ children index address composite placed back =>
      have first : Reaches store value [index] child := .child composite placed (.root child)
      exact ih child ⟨children, composite, List.mem_of_getElem? placed⟩ (by simp)
        (back.trans first)

theorem not_isCyclic_of_acc {store : ValueStore} {value : Value}
    (ends : Acc (IsChild store) value) : ¬IsCyclic store value := by
  rintro ⟨above, node, below, proper, reached, around⟩
  exact not_reaches_self (reached.acc ends) proper around

/-- What stands in a value or in a container of the store. -/
def IsKept (store : ValueStore) (value part : Value) : Prop :=
  Value.IsPart part value ∨ ∃ container ∈ store, Value.IsPart part container

theorem finite_kept (store : ValueStore) (value : Value) :
    {part | IsKept store value part}.Finite := by
  have containers : (⋃ container ∈ {container | container ∈ store},
      {part | Value.IsPart part container}).Finite :=
    (List.finite_toSet store).biUnion fun container _ => Value.finite_parts container
  refine ((Value.finite_parts value).union containers).subset fun part kept => ?_
  rcases kept with here | ⟨container, member, there⟩
  · exact .inl here
  · exact .inr (Set.mem_biUnion member there)

theorem IsKept.part {store : ValueStore} {value whole part : Value}
    (kept : IsKept store value whole) (below : Value.IsPart part whole) :
    IsKept store value part :=
  kept.imp below.trans fun ⟨container, member, held⟩ => ⟨container, member, below.trans held⟩

theorem IsKept.resolve {store : ValueStore} {value part : Value} (kept : IsKept store value part) :
    IsKept store value (part.resolve store) := by
  cases part with
  | shared identity =>
    cases found : store[identity]? with
    | none => simpa [Value.resolve, found] using kept
    | some container =>
      refine .inr ⟨container, List.mem_of_getElem? found, ?_⟩
      simpa [Value.resolve, found] using Value.IsPart.whole
  | _ => exact kept

theorem IsKept.child {store : ValueStore} {value node child : Value}
    (kept : IsKept store value node) (isChild : IsChild store child node) :
    IsKept store value child := by
  obtain ⟨children, ⟨entries, held, mapping, -, listed, items⟩, member⟩ := isChild
  have list : IsKept store value (held.resolve store) := by
    have resolved := kept.resolve
    rw [mapping] at resolved
    exact (resolved.part (Value.lookup_part listed)).resolve
  rcases items with items | items <;> rw [items] at list
  · exact list.part (.inside (.list member) .whole)
  · exact list.part (.inside (.tuple member) .whole)

theorem Reaches.kept {store : ValueStore} {value node whole : Value} {address : List Nat}
    (reached : Reaches store value address node) (kept : IsKept store whole value) :
    IsKept store whole node := by
  induction reached with
  | root => exact kept
  | child composite placed _ ih =>
    exact ih (kept.child ⟨_, composite, List.mem_of_getElem? placed⟩)

/-- There are finitely many nodes to come to, so a walk that never comes back to a node ends. -/
theorem acc_of_not_isCyclic {store : ValueStore} {value : Value} (forward : ¬IsCyclic store value) :
    Acc (IsChild store) value := by
  let Node := {node // ∃ address, Reaches store value address node}
  let Below (lower upper : Node) : Prop :=
    ∃ address, address ≠ [] ∧ Reaches store upper.1 address lower.1
  have finite : Finite Node := by
    refine Set.Finite.subset (finite_kept store value) ?_
    rintro node ⟨address, reached⟩
    exact reached.kept (.inl .whole)
  have transitive : IsTrans Node Below := by
    constructor
    rintro first second third ⟨lower, proper, one⟩ ⟨upper, -, other⟩
    exact ⟨upper ++ lower, by simp [proper], other.trans one⟩
  have irreflexive : Std.Irrefl Below := by
    constructor
    rintro ⟨node, above, reached⟩ ⟨below, proper, around⟩
    exact forward ⟨above, node, below, proper, reached, around⟩
  have wellFounded : WellFounded Below := Finite.wellFounded_of_trans_of_irrefl Below
  have ends (node : Node) : Acc (IsChild store) node.1 := by
    induction node using wellFounded.induction with
    | _ node ih =>
      obtain ⟨node, above, reached⟩ := node
      constructor
      intro child isChild
      obtain ⟨index, step⟩ := isChild.reached
      exact ih ⟨child, above ++ [index], reached.trans step⟩ ⟨[index], by simp, step⟩
  exact ends ⟨value, [], .root value⟩

end Rule

end Outreach
