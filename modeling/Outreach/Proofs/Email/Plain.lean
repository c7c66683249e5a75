import Outreach.Schema.Instant

/-!
Labels of small letters, which pass every check of domain labels and stand for themselves, and from
them a short e-mail address that does.

The tables of letters and directions are long: no step here evaluates one. Two facts about their
first entries say what the tables hold for the small letters.
-/

namespace Outreach.Domain
open Text (listed numbersOf isWithin)

/-- The numbers that a line lists, read from its characters. -/
def numbersIn (line : List Char) : List Nat :=
  let (numbers, last) := line.foldl Text.listStep ([], none)
  (last.toList ++ numbers).reverse

theorem numbersOf_ofList (line : List Char) : numbersOf (String.ofList line) = numbersIn line := by
  rw [numbersOf, String.toList_ofList, numbersIn]

/-- Lines whose numbers are all beyond ASCII. -/
def AreForeign (lines : List String) : Prop := ∀ line ∈ lines, ∀ n ∈ numbersOf line, 0x80 ≤ n

theorem AreForeign.cons {line : List Char} {lines : List String}
    (foreign : (numbersIn line).all (0x80 ≤ ·)) (later : AreForeign lines) :
    AreForeign (String.ofList line :: lines) := by
  refine List.forall_mem_cons.mpr ⟨fun n member => ?_, later⟩
  rw [numbersOf_ofList] at member
  exact of_decide_eq_true (List.all_eq_true.mp foreign n member)

theorem AreForeign.countP {lines : List String} (foreign : AreForeign lines) {c : Char}
    (ascii : c.toNat < 0x80) : (listed lines).countP (· ≤ c.toNat) = 0 := by
  rw [List.countP_eq_zero]
  intro n member
  obtain ⟨line, among, listed⟩ := List.mem_flatMap.mp member
  have := foreign line among n listed
  simp only [decide_eq_true_eq]
  omega

/-- The boundaries within ASCII: the hyphen, the digits and the small letters. -/
def asciiBoundaries : List Nat := [0x2d, 0x2e, 0x30, 0x3a, 0x61, 0x7b]

/-- A table of which only the first line has numbers in ASCII. -/
theorem countP_listed {line : List Char} {lines : List String}
    (first : (numbersIn line).filter (· < 0x80) = asciiBoundaries) (foreign : AreForeign lines)
    {c : Char} (ascii : c.toNat < 0x80) :
    (listed (String.ofList line :: lines)).countP (· ≤ c.toNat) =
      asciiBoundaries.countP (· ≤ c.toNat) := by
  show ((numbersOf (String.ofList line) ++ listed lines).countP (· ≤ c.toNat)) = _
  rw [List.countP_append, foreign.countP ascii, numbersOf_ofList, ← first, List.countP_filter]
  refine List.countP_congr fun n _ => ?_
  simp only [Bool.and_eq_true, decide_eq_true_eq]
  omega

theorem isLetter_ascii {c : Char} (ascii : c.toNat < 0x80) :
    isLetter c = (asciiBoundaries.countP (· ≤ c.toNat) % 2 == 1) := by
  unfold isLetter isWithin letterBoundaries letterTable
  rw [countP_listed (by decide +kernel) ?_ ascii]
  repeat first
    | exact List.forall_mem_nil _
    | refine AreForeign.cons (by decide +kernel) ?_

/-- A small letter of ASCII. -/
def IsPlain (c : Char) : Prop := 0x61 ≤ c.toNat ∧ c.toNat ≤ 0x7a

instance (c : Char) : Decidable (IsPlain c) := inferInstanceAs (Decidable (_ ∧ _))

theorem IsPlain.isLetter {c : Char} (plain : IsPlain c) : isLetter c := by
  obtain ⟨low, high⟩ := plain
  rw [isLetter_ascii (by omega)]
  have counted : asciiBoundaries.countP (· ≤ c.toNat) = 5 := by
    have more : ¬ 0x7b ≤ c.toNat := by omega
    have less : 0x2d ≤ c.toNat ∧ 0x2e ≤ c.toNat ∧ 0x30 ≤ c.toNat ∧ 0x3a ≤ c.toNat := by omega
    simp [asciiBoundaries, more, less, low]
  rw [counted]
  rfl

theorem directionChanges_ascii : ∃ later,
    directionChanges = (0x2d, 5) :: (0x30, 4) :: (0x61, 0) :: (0xb7, 6) :: later := by
  have first {line : List Char} {lines : List String}
      (begins : (numbersIn line).take 8 = [0x2d, 5, 0x30, 4, 0x61, 0, 0xb7, 6]) :
      ∃ later, Text.pairs (listed (String.ofList line :: lines)) =
        (0x2d, 5) :: (0x30, 4) :: (0x61, 0) :: (0xb7, 6) :: later := by
    have split : listed (String.ofList line :: lines) =
        [0x2d, 5, 0x30, 4, 0x61, 0, 0xb7, 6] ++ ((numbersIn line).drop 8 ++ listed lines) := by
      show numbersOf (String.ofList line) ++ listed lines = _
      rw [numbersOf_ofList, ← List.append_assoc, ← begins, List.take_append_drop]
    rw [split]
    exact ⟨_, rfl⟩
  unfold directionChanges directionTable
  exact first (by decide +kernel)

theorem IsPlain.direction {c : Char} (plain : IsPlain c) :
    Direction.ofChar c = .leftToRight := by
  obtain ⟨low, high⟩ := plain
  obtain ⟨later, begins⟩ := directionChanges_ascii
  have value : Text.valueAt directionChanges c = 0 := by
    have above : ¬ 0xb7 ≤ c.toNat := by omega
    have below : 0x2d ≤ c.toNat ∧ 0x30 ≤ c.toNat := by omega
    rw [begins]
    simp [Text.valueAt, above, below, low]
  rw [Direction.ofChar, value]
  rfl

/-- A label that is nothing but small letters of ASCII. -/
structure IsPlainLabel (label : List Char) : Prop where
  filled : label ≠ []
  short : label.length ≤ maxFormLength
  plain : ∀ c ∈ label, IsPlain c

theorem IsPlain.toLower {c : Char} (plain : IsPlain c) : c.toLower = c := by
  have notCapital : ¬ (c.val ≥ 'A'.val ∧ c.val ≤ 'Z'.val) := by
    rintro ⟨-, below⟩
    have : c.toNat ≤ 'Z'.toNat := UInt32.le_iff_toNat_le.mp below
    exact absurd (Nat.le_trans plain.1 this) (by decide)
  exact dif_neg notCapital

theorem IsPlain.ne {c other : Char} (plain : IsPlain c) (apart : other.toNat < 0x61) :
    c ≠ other := by
  rintro rfl
  exact absurd plain.1 (by omega)

theorem checkCharacter_letter {label before after : List Char} {c : Char} (letter : isLetter c) :
    checkCharacter label before c after = .ok () := by
  unfold checkCharacter
  exact if_pos letter

attribute [local irreducible] isLetter in
theorem checkFrom_cons (label before : List Char) (c : Char) (rest : List Char) :
    checkFrom label before (c :: rest) =
      match checkCharacter label before c rest with
      | .error flaw => .error flaw
      | .ok () => checkFrom label (c :: before) rest := rfl

theorem checkFrom_plain {label after : List Char} (plain : ∀ c ∈ after, IsPlain c)
    (before : List Char) : checkFrom label before after = .ok () := by
  induction after generalizing before with
  | nil => rfl
  | cons c rest ih =>
    rw [List.forall_mem_cons] at plain
    rw [checkFrom_cons, checkCharacter_letter plain.1.isLetter]
    exact ih plain.2 (c :: before)

theorem directionFlaw?_plain {label : List Char} (plain : ∀ c ∈ label, IsPlain c) :
    directionFlaw? label = none := by
  have directions : label.map Direction.ofChar =
      List.replicate label.length .leftToRight := by
    rw [List.eq_replicate_iff]
    refine ⟨List.length_map _, fun direction member => ?_⟩
    obtain ⟨c, among, rfl⟩ := List.mem_map.mp member
    exact (plain c among).direction
  unfold directionFlaw?
  rw [directions]
  have known :
      (List.replicate label.length Direction.leftToRight).findIdx? (· = .unknown) = none := by
    simp
  have straight :
      (List.replicate label.length Direction.leftToRight).any Direction.turns = false := by
    simp [Direction.turns]
  simp only [known, straight]
  rfl

theorem checkLabel_plain {label : List Char} (plain : IsPlainLabel label) :
    checkLabel label = .ok () := by
  obtain ⟨filled, short, each⟩ := plain
  have long : ¬ maxLength < label.length := by
    unfold maxLength
    unfold maxFormLength at short
    omega
  have composed : Text.composed label = label := by
    refine if_pos (List.all_eq_true.mpr fun c member => ?_)
    have := (each c member).2
    exact decide_eq_true (by omega)
  have bare (c : Char) (member : c ∈ label) : c ≠ '-' := (each c member).ne (by decide)
  have hyphens : hasReservedHyphens label = false := by
    unfold hasReservedHyphens
    split
    next a b rest => exact absurd rfl (bare '-' (by simp))
    next => rfl
  have ends : ¬ (label.head? = some '-' ∨ label.getLast? = some '-') := by
    rintro (first | last)
    · exact bare '-' (List.mem_of_head? first) rfl
    · exact bare '-' (List.mem_of_getLast? last) rfl
  have marked : label.head?.any Text.isMark = false := by
    cases label with
    | nil => rfl
    | cons c rest =>
      have := (each c (List.mem_cons_self ..)).2
      have below : ¬ 0x300 ≤ c.toNat := by omega
      simp [Text.isMark, below]
  unfold checkLabel
  simp only [if_neg long, if_neg filled, composed, ne_eq, not_true_eq_false, if_false, hyphens,
    if_neg ends, marked, Bool.false_eq_true,
    checkFrom_plain each, directionFlaw?_plain each]
  rfl

/-- A label of small letters is a form that stands for itself. -/
theorem ofForm_plain {label : List Char} (plain : IsPlainLabel label) :
    ofForm label = .ok label := by
  have lower : label.map Char.toLower = label := by
    refine (List.map_congr_left fun c member => ?_).trans (List.map_id label)
    exact (plain.plain c member).toLower
  have unmarked : formPrefix.isPrefixOf label = false := by
    refine Bool.eq_false_iff.mpr fun marked => ?_
    have within : formPrefix <+: label := List.isPrefixOf_iff_prefix.mp marked
    have hyphen : '-' ∈ label := within.subset (by decide)
    exact (plain.plain '-' hyphen).ne (by decide) rfl
  unfold ofForm
  simp only [lower, unmarked, checkLabel_plain plain, Bool.false_eq_true, if_false]
  rfl

end Outreach.Domain

namespace Outreach.Email

open Domain Text

/-- Labels that are all taken as they are. -/
theorem mapM_kept {α ε : Type} {change : α → Except ε α} {items : List α}
    (kept : ∀ item ∈ items, change item = .ok item) : items.mapM change = .ok items := by
  induction items with
  | nil => rfl
  | cons item rest ih =>
    rw [List.forall_mem_cons] at kept
    rw [List.mapM_cons, kept.1, ih kept.2]
    rfl

theorem eachLabel_kept {change : List Char → Except LabelFlaw (List Char)}
    {flaw : LabelFlaw → Flaw} {text : List Char}
    (kept : ∀ label ∈ partsAt '.' text, change label = .ok label) :
    eachLabel change flaw text = .ok (joinedBy '.' (partsAt '.' text)) := by
  unfold eachLabel
  rw [mapM_kept kept]

/-- What lets a domain through that is written as it goes over the network. -/
theorem host_ok {text form domain : List Char} (filled : text ≠ [])
    (bare : ¬ (text.head? = some '[' ∧ text.getLast? = some ']'))
    (known : requireAll isHost .badAfter text = .ok ()) (safe : requireSafe false text = .ok ())
    (folds : folded text = .ok text) (again : requireAll isHost .badFolded text = .ok ())
    (periods : checkPeriods .endsWithPeriod .periodAfterAt text = .ok ())
    (last : text.getLast? ≠ some '-') (head : text.head? ≠ some '-')
    (pairs : (hasPair '.' '-' text || hasPair '-' '.' text) = false)
    (hyphens : (partsAt '.' text).any hasForeignHyphens = false)
    (encodes : encoded text = .ok form) (passes : checkForm text form = .ok ())
    (labels : eachLabel Domain.ofForm .badForm form = .ok domain) :
    host text = .ok ⟨domain, form⟩ := by
  unfold host
  simp only [if_neg filled, if_neg bare, known, safe, folds, again, periods, if_neg last,
    if_neg head, pairs, hyphens, encodes, passes, labels, bind, Except.bind]
  rfl

/-- A short domain. -/
def sampleDomain : List Char := ['b', '.', 'c', 'c']

theorem labels_sample : eachLabel ofForm .badForm sampleDomain = .ok sampleDomain := by
  refine eachLabel_kept fun label member => ofForm_plain ?_
  have parts : label = ['b'] ∨ label = ['c', 'c'] := by simpa [sampleDomain, partsAt] using member
  obtain rfl | rfl := parts
  · exact ⟨by decide, by decide, by simp [IsPlain]⟩
  · exact ⟨by decide, by decide, by simp [IsPlain]⟩

theorem host_sample : host sampleDomain = .ok ⟨sampleDomain, sampleDomain⟩ := by
  have known : requireAll isHost .badAfter sampleDomain = .ok () := rfl
  have safe : requireSafe false sampleDomain = .ok () := rfl
  have folds : folded sampleDomain = .ok sampleDomain := rfl
  have again : requireAll isHost .badFolded sampleDomain = .ok () := rfl
  have periods : checkPeriods .endsWithPeriod .periodAfterAt sampleDomain = .ok () := rfl
  have encodes : encoded sampleDomain = .ok sampleDomain := rfl
  have passes : checkForm sampleDomain sampleDomain = .ok () := rfl
  exact host_ok (by decide) (by decide) known safe folds again periods (by decide) (by decide)
    (by decide) (by decide) encodes passes labels_sample

/-- What lets an address through that is written without a display name. -/
theorem ofPlain_ok {text before domain mailbox : List Char} {quoted : Bool} {kept : Host}
    (splits : partsOf text = .ok ⟨before, quoted, domain, false⟩)
    (first : Email.mailbox quoted before = .ok mailbox) (second : host domain = .ok kept)
    (size : checkSize (joinedAt before domain) (joinedAt mailbox kept.domain)
      (joinedAt mailbox kept.form) = .ok ()) :
    ofPlain text = .ok (joinedAt mailbox kept.domain) := by
  unfold ofPlain
  simp only [splits, first, second, size, bind, Except.bind]
  rfl

/-- A short address. -/
def sampleText : List Char := ['a', '@', 'b', '.', 'c', 'c']

theorem ofPlain_sample : ofPlain sampleText = .ok sampleText := by
  have splits : partsOf sampleText = .ok ⟨['a'], false, sampleDomain, false⟩ := rfl
  have first : mailbox false ['a'] = .ok ['a'] := rfl
  have size : checkSize (joinedAt ['a'] sampleDomain) (joinedAt ['a'] sampleDomain)
      (joinedAt ['a'] sampleDomain) = .ok () := rfl
  exact ofPlain_ok splits first host_sample size

/-- What lets a text through that is an address as it stands. -/
theorem ofText_ok {text : String} {letters address : List Char} (short : ¬ maxLength < text.length)
    (spelled : text.toList = letters) (bare : afterDisplayName? letters = none)
    (trimmed : Text.trim letters = letters) (stands : ofPlain letters = .ok address) :
    ofText text = .ok (String.ofList address) := by
  unfold ofText
  simp only [if_neg short, spelled, bare, Option.getD_none, trimmed, stands, Except.map]

/-- A short address stands for itself. -/
theorem ofText_sample : ofText "a@b.cc" = .ok "a@b.cc" := by
  have short : ¬ maxLength < "a@b.cc".length := by decide
  have spelled : "a@b.cc".toList = sampleText := by decide
  have bare : afterDisplayName? sampleText = none := rfl
  have trimmed : Text.trim sampleText = sampleText := by decide
  have kept : String.ofList sampleText = "a@b.cc" := by rw [← spelled, String.ofList_toList]
  have stands := ofText_ok short spelled bare trimmed ofPlain_sample
  exact kept ▸ stands

/-- Requests may give what stands for an address. -/
theorem email_of {text address : String} (whole : Text.isWhole text = true)
    (stands : ofText text = .ok address) : Schema.email (.text text) = .accepted address := by
  have given : Schema.text (.text text) = .accepted text := if_pos whole
  unfold Schema.email
  simp only [given, Checked.andThen, stands]

theorem email_sample : Schema.email (.text "a@b.cc") = .accepted "a@b.cc" :=
  email_of (by decide) ofText_sample

end Outreach.Email
