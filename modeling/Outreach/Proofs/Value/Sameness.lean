import Outreach.Value.Same

/-! What can keep two values from being compared. A comparison goes through the members of the two
values, and it is refused only where it meets a number of the signaling kind in one of them, or no
end in both. -/

namespace Outreach.Value

/-- The values that stand directly in a container. The children of a composite rule count as
values. -/
inductive HasMember : Value → Value → Prop where
  | list {item : Value} {items : List Value} (member : item ∈ items) : HasMember item (list items)
  | tuple {item : Value} {items : List Value} (member : item ∈ items) : HasMember item (tuple items)
  | set {item : Value} {items : List Value} (member : item ∈ items) : HasMember item (set items)
  | key {entry : Value × Value} {entries : List (Value × Value)} (member : entry ∈ entries) :
      HasMember entry.1 (dict entries)
  | entry {entry : Value × Value} {entries : List (Value × Value)} (member : entry ∈ entries) :
      HasMember entry.2 (dict entries)
  | leaf (field : FieldName) (operator : Operator) (value : Value) :
      HasMember value (rule (.leaf field operator value))
  | child (condition : Condition) {part : Rule} {rules : List Rule} (member : part ∈ rules) :
      HasMember (rule part) (rule (.composite condition rules))

/-- A value that stands in another one at any depth, or is that value. -/
inductive IsPart (part : Value) : Value → Prop where
  | whole : IsPart part part
  | inside {member whole : Value} (held : HasMember member whole) (below : IsPart part member) :
      IsPart part whole

theorem IsPart.trans {first second third : Value} (inner : IsPart first second)
    (outer : IsPart second third) : IsPart first third := by
  induction outer with
  | whole => exact inner
  | inside held _ ih => exact .inside held ih

theorem lookup_part {entries : List (Value × Value)} {key : String} {value : Value}
    (held : lookup entries key = some value) : IsPart value (dict entries) := by
  unfold lookup at held
  obtain ⟨entry, found, rfl⟩ := Option.map_eq_some_iff.mp held
  exact .inside (.entry (List.mem_of_find?_eq_some found)) .whole

/-- What keeps two values from being compared, with the fault that reports it. -/
inductive Incomparable (a b : Value) : Fault → Prop where
  | signaling {number : Decimal} (signaling : number.isSignaling)
      (held : IsPart (decimal number) a ∨ IsPart (decimal number) b) :
      Incomparable a b .signalingNumber
  | endless (left : a.isEndless) (right : b.isEndless) : Incomparable a b .endless

theorem anyEndless_of_mem {item : Value} {items : List Value} (member : item ∈ items)
    (endless : item.isEndless) : anyEndless items := by
  induction member with
  | head rest => simp [anyEndless, endless]
  | tail other _ ih => simp [anyEndless, ih]

theorem anyEntryEndless_of_mem {entry : Value × Value} {entries : List (Value × Value)}
    (member : entry ∈ entries) (endless : entry.1.isEndless ∨ entry.2.isEndless) :
    anyEntryEndless entries := by
  induction member with
  | head rest => rcases endless with key | item <;> simp [anyEntryEndless, *]
  | tail other _ ih => simp [anyEntryEndless, ih]

theorem anyRuleEndless_of_mem {part : Rule} {rules : List Rule} (member : part ∈ rules)
    (endless : isRuleEndless part) : anyRuleEndless rules := by
  induction member with
  | head rest => simp [anyRuleEndless, endless]
  | tail other _ ih => simp [anyRuleEndless, ih]

/-- A value without end leaves everything around it without end. -/
theorem HasMember.isEndless {member whole : Value} (held : HasMember member whole)
    (endless : member.isEndless) : whole.isEndless := by
  cases held with
  | list member => exact anyEndless_of_mem member endless
  | tuple member => exact anyEndless_of_mem member endless
  | set member => exact anyEndless_of_mem member endless
  | key member => exact anyEntryEndless_of_mem member (.inl endless)
  | entry member => exact anyEntryEndless_of_mem member (.inr endless)
  | leaf => exact endless
  | child condition member => exact anyRuleEndless_of_mem member endless

/-- Where two members cannot be compared, their containers cannot be compared either. -/
theorem Incomparable.of_members {x y a b : Value} {fault : Fault} (left : HasMember x a)
    (right : HasMember y b) (clash : Incomparable x y fault) : Incomparable a b fault := by
  cases clash with
  | signaling signaling held =>
    exact .signaling signaling (held.imp (.inside left) (.inside right))
  | endless first second => exact .endless (left.isEndless first) (right.isEndless second)

theorem anyMember_error {test : Value → Verdict} {items : List Value} {fault : Fault}
    (refused : anyMember test items = .error fault) : ∃ item ∈ items, test item = .error fault := by
  induction items with
  | nil => cases refused
  | cons item rest ih =>
    unfold anyMember at refused
    split at refused
    next found =>
      cases refused
      exact ⟨item, List.mem_cons_self .., found⟩
    next => cases refused
    next =>
      obtain ⟨other, member, found⟩ := ih refused
      exact ⟨other, List.mem_cons_of_mem _ member, found⟩

theorem findEntry_error {test : Value → Verdict} {entries : List (Value × Value)} {fault : Fault}
    (refused : findEntry test entries = .error fault) :
    ∃ entry ∈ entries, test entry.1 = .error fault := by
  induction entries with
  | nil => cases refused
  | cons entry rest ih =>
    obtain ⟨key, item⟩ := entry
    unfold findEntry at refused
    split at refused
    next found =>
      cases refused
      exact ⟨(key, item), List.mem_cons_self .., found⟩
    next => cases refused
    next =>
      obtain ⟨other, member, found⟩ := ih refused
      exact ⟨other, List.mem_cons_of_mem _ member, found⟩

theorem findEntry_found {test : Value → Verdict} {entries : List (Value × Value)} {item : Value}
    (found : findEntry test entries = .ok (some item)) : ∃ entry ∈ entries, entry.2 = item := by
  induction entries with
  | nil => cases found
  | cons entry rest ih =>
    obtain ⟨key, held⟩ := entry
    unfold findEntry at found
    split at found
    next => cases found
    next =>
      cases found
      exact ⟨(key, item), List.mem_cons_self .., rfl⟩
    next =>
      obtain ⟨other, member, same⟩ := ih found
      exact ⟨other, List.mem_cons_of_mem _ member, same⟩

/-- The only numbers of the signaling kind are decimals. -/
theorem decimal_of_signaling {value : Value} {number : Decimal} (reads : value.asNumber? = some number)
    (signaling : number.isSignaling) : value = decimal number := by
  cases value with
  | bool b =>
    cases reads
    cases signaling
  | int n =>
    cases reads
    cases signaling
  | float x =>
    cases reads
    cases x with
    | finite negative significand exponent canonical =>
      simp only [Decimal.ofBinary64] at signaling
      split at signaling <;> cases signaling
    | infinite negative => cases signaling
    | nan => cases signaling
  | decimal d =>
    cases reads
    rfl
  | _ => cases reads

theorem sameScalar_error {oneNaN : Bool} {a b : Value} {fault : Fault}
    (refused : sameScalar oneNaN a b = .error fault) : Incomparable a b fault := by
  unfold sameScalar at refused
  split at refused
  next x y left right =>
    unfold sameNumber at refused
    split at refused
    next signaling =>
      cases refused
      rcases Bool.or_eq_true_iff.mp signaling with signaling | signaling
      · have held := decimal_of_signaling left signaling
        exact .signaling signaling (.inl (held ▸ .whole))
      · have held := decimal_of_signaling right signaling
        exact .signaling signaling (.inr (held ▸ .whole))
    next => split at refused <;> cases refused
  next =>
    split at refused
    next => cases refused
    next => split at refused <;> cases refused

theorem sameRecurring_error {shape : Shape} {other : Value} {fault : Fault}
    (refused : sameRecurring shape other = .error fault) :
    fault = .endless ∧ other.isEndless := by
  unfold sameRecurring at refused
  split at refused
  next endless =>
    cases refused
    exact ⟨rfl, endless.2⟩
  next => cases refused

mutual

/-- A comparison that is refused has met something that cannot be compared. -/
theorem same_error (oneNaN : Bool) (a b : Value) (fault : Fault)
    (refused : same oneNaN a b = .error fault) : Incomparable a b fault := by
  unfold same at refused
  split at refused
  next xs ys =>
    split at refused
    next =>
      obtain ⟨x, left, y, right, clash⟩ := sameItems_error oneNaN xs ys fault refused
      exact clash.of_members (.list left) (.list right)
    next => cases refused
  next xs ys =>
    obtain ⟨x, left, y, right, clash⟩ := sameItems_error oneNaN xs ys fault refused
    exact clash.of_members (.tuple left) (.tuple right)
  next xs ys =>
    split at refused
    next =>
      obtain ⟨x, left, y, right, clash⟩ := subset_error oneNaN xs ys fault refused
      exact clash.of_members (.set left) (.set right)
    next => cases refused
  next xs ys =>
    split at refused
    next =>
      obtain ⟨x, left, y, right, clash | clash⟩ := sameEntries_error oneNaN xs ys fault refused
      · exact clash.of_members (.key left) (.key right)
      · exact clash.of_members (.entry left) (.entry right)
    next => cases refused
  next r s => exact sameRule_error oneNaN r s fault refused
  next shape other =>
    obtain ⟨rfl, endless⟩ := sameRecurring_error refused
    exact .endless rfl endless
  next =>
    obtain ⟨rfl, endless⟩ := sameRecurring_error refused
    exact .endless endless rfl
  next => exact sameScalar_error refused
termination_by sizeOf a

theorem sameItems_error (oneNaN : Bool) (xs ys : List Value) (fault : Fault)
    (refused : sameItems oneNaN xs ys = .error fault) :
    ∃ x ∈ xs, ∃ y ∈ ys, Incomparable x y fault := by
  unfold sameItems at refused
  split at refused
  next => cases refused
  next x xs y ys =>
    split at refused
    next =>
      obtain ⟨u, left, v, right, clash⟩ := sameItems_error oneNaN xs ys fault refused
      exact ⟨u, List.mem_cons_of_mem _ left, v, List.mem_cons_of_mem _ right, clash⟩
    next =>
      have clash := same_error oneNaN x y fault refused
      exact ⟨x, List.mem_cons_self .., y, List.mem_cons_self .., clash⟩
  next => cases refused
termination_by sizeOf xs

theorem subset_error (oneNaN : Bool) (xs ys : List Value) (fault : Fault)
    (refused : subset oneNaN xs ys = .error fault) :
    ∃ x ∈ xs, ∃ y ∈ ys, Incomparable x y fault := by
  cases xs with
  | nil =>
    rw [subset] at refused
    cases refused
  | cons x rest =>
    unfold subset at refused
    split at refused
    next =>
      obtain ⟨u, left, right⟩ := subset_error oneNaN rest ys fault refused
      exact ⟨u, List.mem_cons_of_mem _ left, right⟩
    next =>
      obtain ⟨y, member, found⟩ := anyMember_error refused
      exact ⟨x, List.mem_cons_self .., y, member, same_error oneNaN x y fault found⟩
termination_by sizeOf xs

theorem sameEntries_error (oneNaN : Bool) (xs ys : List (Value × Value)) (fault : Fault)
    (refused : sameEntries oneNaN xs ys = .error fault) :
    ∃ x ∈ xs, ∃ y ∈ ys, Incomparable x.1 y.1 fault ∨ Incomparable x.2 y.2 fault := by
  match xs with
  | [] =>
    rw [sameEntries] at refused
    cases refused
  | (key, item) :: rest =>
    rw [sameEntries] at refused
    cases search : findEntry (fun other => same oneNaN key other) ys with
    | error met =>
      rw [search] at refused
      obtain ⟨entry, member, found⟩ := findEntry_error search
      have clash := same_error oneNaN key entry.1 met found
      rw [Except.error.inj refused] at clash
      exact ⟨(key, item), List.mem_cons_self .., entry, member, .inl clash⟩
    | ok outcome =>
      rw [search] at refused
      cases outcome with
      | none => cases refused
      | some held =>
        dsimp only at refused
        split at refused
        next =>
          obtain ⟨entry, left, right⟩ := sameEntries_error oneNaN rest ys fault refused
          exact ⟨entry, List.mem_cons_of_mem _ left, right⟩
        next =>
          obtain ⟨entry, member, rfl⟩ := findEntry_found search
          have clash := same_error oneNaN item entry.2 fault refused
          exact ⟨(key, item), List.mem_cons_self .., entry, member, .inr clash⟩
termination_by sizeOf xs

theorem sameRule_error (oneNaN : Bool) (r s : Rule) (fault : Fault)
    (refused : sameRule oneNaN r s = .error fault) : Incomparable (rule r) (rule s) fault := by
  unfold sameRule at refused
  split at refused
  next field operator value name other held =>
    split at refused
    next =>
      have clash := same_error oneNaN value held fault refused
      exact clash.of_members (.leaf field operator value) (.leaf name other held)
    next => cases refused
  next condition rs word ss =>
    split at refused
    next =>
      obtain ⟨part, left, other, right, clash⟩ := sameRules_error oneNaN rs ss fault refused
      exact clash.of_members (.child condition left) (.child word right)
    next => cases refused
  next => cases refused
termination_by sizeOf r

theorem sameRules_error (oneNaN : Bool) (rs ss : List Rule) (fault : Fault)
    (refused : sameRules oneNaN rs ss = .error fault) :
    ∃ r ∈ rs, ∃ s ∈ ss, Incomparable (rule r) (rule s) fault := by
  unfold sameRules at refused
  split at refused
  next => cases refused
  next r rest s others =>
    split at refused
    next =>
      obtain ⟨u, left, v, right, clash⟩ := sameRules_error oneNaN rest others fault refused
      exact ⟨u, List.mem_cons_of_mem _ left, v, List.mem_cons_of_mem _ right, clash⟩
    next =>
      have clash := sameRule_error oneNaN r s fault refused
      exact ⟨r, List.mem_cons_self .., s, List.mem_cons_self .., clash⟩
  next => cases refused
termination_by sizeOf rs

end

end Outreach.Value
