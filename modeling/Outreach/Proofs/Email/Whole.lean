import Outreach.Proofs.Email.Plain
import Outreach.Proofs.Problem.Told

/-! An e-mail address that stands for a text has only characters. What stands before the at-sign is
printable, and the labels after it are made of letters; both sets end below the characters that stand
in for halves of pairs. -/

namespace Outreach

/-- What comes through a check goes on after it. -/
theorem guard_ok {ε α : Type} {fails : Prop} [Decidable fails] {e : ε} {next : Unit → Except ε α}
    {result : α} (passes : (if fails then Except.error e >>= next else next ()) = .ok result) :
    next () = .ok result := by
  split at passes
  next => cases passes
  next => exact passes

namespace Domain

open Text (isWithin halfShift)

/-! ### Letters -/

/-- The lines of a table, letter by letter. -/
inductive Spells : List (List Char) → List String → Prop where
  | nil : Spells [] []
  | cons {line : List Char} {others : List (List Char)} {lines : List String}
      (later : Spells others lines) : Spells (line :: others) (String.ofList line :: lines)

theorem Spells.listed {letters : List (List Char)} {lines : List String}
    (spells : Spells letters lines) : Text.listed lines = letters.flatMap numbersIn := by
  induction spells with
  | nil => rfl
  | @cons line others lines later ih =>
    show Text.numbersOf (String.ofList line) ++ Text.listed lines = _
    rw [numbersOf_ofList, ih, List.flatMap_cons]

theorem letterTable_bounded : ∃ letters, Spells letters letterTable ∧
    (letters.flatMap numbersIn).all (· < halfShift) = true ∧
    (letters.flatMap numbersIn).length % 2 = 0 := by
  apply Exists.intro
  refine ⟨?spells, ?near, ?even⟩
  case spells =>
    unfold letterTable
    repeat first
      | exact .nil
      | apply Spells.cons
  case near => decide +kernel
  case even => decide +kernel

/-- The set of letters ends below the halves. -/
theorem isLetter_near {c : Char} (letter : isLetter c = true) : c.toNat < halfShift := by
  by_contra far
  obtain ⟨letters, spells, near, even⟩ := letterTable_bounded
  have all : (letters.flatMap numbersIn).countP (· ≤ c.toNat) =
      (letters.flatMap numbersIn).length := by
    refine List.countP_eq_length.mpr fun n member => ?_
    have := of_decide_eq_true (List.all_eq_true.mp near n member)
    exact decide_eq_true (by omega)
  unfold isLetter isWithin letterBoundaries at letter
  rw [spells.listed, all, even] at letter
  cases letter

theorem inCompany?_near {c : Char} {before after : List Char} {fits : Bool}
    (company : inCompany? c before after = some fits) : c.toNat < halfShift := by
  have small (other : Char) (below : other.toNat < halfShift) (same : c = other) :
      c.toNat < halfShift := same ▸ below
  have between {low high : Nat} (below : high < halfShift) (within : isBetween low high c = true) :
      c.toNat < halfShift := by
    simp only [isBetween, Bool.and_eq_true, decide_eq_true_eq] at within
    omega
  unfold inCompany? at company
  extract_lets others at company
  split at company
  next same => exact small _ (by decide) same
  split at company
  next same => exact small _ (by decide) same
  split at company
  next same => exact same.elim (small _ (by decide)) (small _ (by decide))
  split at company
  next same => exact small _ (by decide) same
  split at company
  next within => exact between (by decide) within
  split at company
  next within => exact between (by decide) within
  next => cases company

theorem checkCharacter_near {label before after : List Char} {c : Char}
    (passes : checkCharacter label before c after = .ok ()) : c.toNat < halfShift := by
  unfold checkCharacter at passes
  extract_lets place at passes
  split at passes
  next letter => exact isLetter_near letter
  split at passes
  next same => rcases same with rfl | rfl <;> decide
  split at passes
  next company => exact inCompany?_near company
  next => cases passes
  next => cases passes

attribute [local irreducible] isLetter in
theorem checkFrom_near {label before after : List Char}
    (passes : checkFrom label before after = .ok ()) : ∀ c ∈ after, c.toNat < halfShift := by
  induction after generalizing before with
  | nil => exact List.forall_mem_nil _
  | cons c rest ih =>
    rw [checkFrom_cons] at passes
    split at passes
    next => cases passes
    next here => exact List.forall_mem_cons.mpr ⟨checkCharacter_near here, ih passes⟩

theorem checkLabel_near {label : List Char} (passes : checkLabel label = .ok ()) :
    ∀ c ∈ label, c.toNat < halfShift := by
  unfold checkLabel at passes
  have checked := guard_ok (guard_ok (guard_ok (guard_ok (guard_ok (guard_ok passes)))))
  obtain ⟨_, letters, -⟩ := bind_eq_ok_iff.mp checked
  exact checkFrom_near letters

theorem ofForm_near {form label : List Char} (stands : ofForm form = .ok label) :
    ∀ c ∈ label, c.toNat < halfShift := by
  unfold ofForm at stands
  dsimp only at stands
  split at stands
  next =>
    have stands := guard_ok (guard_ok stands)
    split at stands
    next => cases stands
    next decoded _ =>
      obtain ⟨_, passed, same⟩ := bind_eq_ok_iff.mp stands
      cases same
      exact checkLabel_near passed
  next =>
    obtain ⟨_, passed, same⟩ := bind_eq_ok_iff.mp stands
    cases same
    exact checkLabel_near passed

end Domain

namespace Email

open Text (isHalf joinedBy partsAt)

/-! ### The host -/

theorem isHalf_near {c : Char} (near : c.toNat < Text.halfShift) : isHalf c = false := by
  simp [isHalf, Text.half?, near]

theorem mapM_ok {ε α β : Type} {change : α → Except ε β} {items : List α} {results : List β}
    (changed : items.mapM change = .ok results) :
    ∀ result ∈ results, ∃ item ∈ items, change item = .ok result := by
  induction items generalizing results with
  | nil =>
    cases changed
    exact List.forall_mem_nil _
  | cons item rest ih =>
    rw [List.mapM_cons] at changed
    obtain ⟨first, here, changed⟩ := bind_eq_ok_iff.mp changed
    obtain ⟨others, later, same⟩ := bind_eq_ok_iff.mp changed
    cases same
    refine List.forall_mem_cons.mpr ⟨⟨item, List.mem_cons_self .., here⟩, fun result member => ?_⟩
    obtain ⟨source, among, made⟩ := ih later result member
    exact ⟨source, List.mem_cons_of_mem _ among, made⟩

theorem forall_joinedBy {holds : Char → Prop} {sign : Char} {parts : List (List Char)}
    (separator : holds sign) (each : ∀ part ∈ parts, ∀ c ∈ part, holds c) :
    ∀ c ∈ joinedBy sign parts, holds c := by
  induction parts with
  | nil => exact List.forall_mem_nil _
  | cons part others ih =>
    rw [List.forall_mem_cons] at each
    cases others with
    | nil => exact each.1
    | cons next more =>
      exact List.forall_mem_append.mpr ⟨each.1, List.forall_mem_cons.mpr ⟨separator, ih each.2⟩⟩

/-- A host is kept in the labels that its form stands for. -/
theorem host_labels {text : List Char} {kept : Host} (stands : host text = .ok kept) :
    eachLabel Domain.ofForm .badForm kept.form = .ok kept.domain := by
  unfold host at stands
  obtain ⟨_, -, stands⟩ := bind_eq_ok_iff.mp (guard_ok (guard_ok stands))
  obtain ⟨_, -, stands⟩ := bind_eq_ok_iff.mp stands
  obtain ⟨domain, -, stands⟩ := bind_eq_ok_iff.mp stands
  obtain ⟨_, -, stands⟩ := bind_eq_ok_iff.mp stands
  obtain ⟨_, -, stands⟩ := bind_eq_ok_iff.mp stands
  have stands := guard_ok (guard_ok (guard_ok (guard_ok stands)))
  obtain ⟨form, -, stands⟩ := bind_eq_ok_iff.mp stands
  obtain ⟨_, -, stands⟩ := bind_eq_ok_iff.mp stands
  obtain ⟨labels, made, same⟩ := bind_eq_ok_iff.mp stands
  cases same
  exact made

theorem host_whole {text : List Char} {kept : Host} (stands : host text = .ok kept) :
    ∀ c ∈ kept.domain, isHalf c = false := by
  have labels := host_labels stands
  unfold eachLabel at labels
  split at labels
  next => cases labels
  next parts made =>
    rw [← Except.ok.inj labels]
    refine forall_joinedBy (by decide) fun part member c among => ?_
    obtain ⟨form, -, stands⟩ := mapM_ok made part member
    exact isHalf_near (Domain.ofForm_near stands c among)

/-! ### The mailbox -/

theorem requireSafe_whole {text : List Char} (safe : requireSafe false text = .ok ()) :
    ∀ c ∈ text, isHalf c = false := by
  unfold requireSafe at safe
  split at safe
  next none =>
    intro c member
    have harmless : (if isSpace c then false else Text.isPrintable c) = true := by
      simpa using List.filter_eq_nil_iff.mp (List.append_eq_nil_iff.mp none).2 c member
    split at harmless
    next => cases harmless
    next => exact Text.isHalf_printable harmless
  next => cases safe

/-- Without quotes a mailbox passes only as words with periods between them, as it is. -/
theorem checkMailbox_whole {text checked : List Char}
    (passes : checkMailbox false text = .ok checked) :
    checked = text ∧ ∀ c ∈ text, isHalf c = false := by
  have filled : text ≠ [] := by
    rintro rfl
    cases passes
  unfold checkMailbox at passes
  have passes := guard_ok passes
  split at passes
  next =>
    obtain ⟨_, safe, same⟩ := bind_eq_ok_iff.mp passes
    cases same
    exact ⟨rfl, requireSafe_whole safe⟩
  next unatomic =>
    obtain ⟨_, letters, passes⟩ := bind_eq_ok_iff.mp passes
    obtain ⟨_, periods, -⟩ := bind_eq_ok_iff.mp passes
    have letters := (requireAll_eq_ok isLocal .badBefore text).mp letters
    have atomic : isDotAtom text = true := by
      unfold checkPeriods at periods
      split at periods
      next => cases periods
      split at periods
      next => cases periods
      split at periods
      next => cases periods
      next last first pairs => simp [isDotAtom, letters, filled, first, last, pairs]
    exact absurd atomic unatomic

theorem composedMailbox_whole {text composed : List Char}
    (made : composedMailbox false text = .ok composed) : ∀ c ∈ composed, isHalf c = false := by
  unfold composedMailbox at made
  obtain ⟨checked, passes, rest⟩ := bind_eq_ok_iff.mp made
  obtain ⟨rfl, each⟩ := checkMailbox_whole passes
  dsimp only at rest
  split at rest
  next =>
    cases rest
    exact each
  next =>
    split at rest
    next => cases rest
    next again =>
      cases rest
      exact (checkMailbox_whole again).2

theorem mailbox_whole {quoted : Bool} {text kept : List Char}
    (stands : mailbox quoted text = .ok kept) : ∀ c ∈ kept, isHalf c = false := by
  unfold mailbox at stands
  obtain ⟨composed, made, stands⟩ := bind_eq_ok_iff.mp stands
  cases quoted with
  | true => cases stands
  | false =>
    have each : ∀ c ∈ composed, isHalf c = false := composedMailbox_whole made
    have lower (shared : sharedMailboxes.contains (String.ofList (composed.map Char.toLower))) :
        ∀ c ∈ composed.map Char.toLower, isHalf c = false := by
      have names : ∀ name ∈ sharedMailboxes, Text.isWhole name = true := by decide
      exact Text.isWhole_ofList.mp (names _ (List.contains_iff_mem.mp shared))
    cases guard_ok stands
    split
    next shared => exact lower shared
    next => exact each

/-! ### The address -/

theorem ofPlain_whole {text address : List Char} (stands : ofPlain text = .ok address) :
    ∀ c ∈ address, isHalf c = false := by
  unfold ofPlain at stands
  obtain ⟨parts, -, stands⟩ := bind_eq_ok_iff.mp stands
  obtain ⟨before, first, stands⟩ := bind_eq_ok_iff.mp stands
  obtain ⟨kept, second, stands⟩ := bind_eq_ok_iff.mp stands
  obtain ⟨_, -, stands⟩ := bind_eq_ok_iff.mp stands
  cases guard_ok stands
  exact List.forall_mem_append.mpr ⟨mailbox_whole first,
    List.forall_mem_cons.mpr ⟨by decide, host_whole second⟩⟩

/-- An address that stands for a text has only characters. -/
theorem ofText_whole {text address : String} (stands : ofText text = .ok address) :
    Text.isWhole address = true := by
  unfold ofText at stands
  split at stands
  next => cases stands
  next =>
    obtain ⟨letters, plain, rfl⟩ := map_eq_ok_iff.mp stands
    exact Text.isWhole_ofList.mpr (ofPlain_whole plain)

/-- So has an address that was read from data. -/
theorem email_whole {value : Value} {address : String}
    (read : Schema.email value = .accepted address) : Text.isWhole address = true := by
  obtain ⟨text, -, stands⟩ := Checked.andThen_eq_accepted_iff.mp read
  split at stands
  next found stands_for =>
    cases stands
    exact ofText_whole stands_for
  next => cases stands

end Email

end Outreach
