import Mathlib.Data.List.Infix
import Outreach.Text.Pattern

/-! Replacing the occurrences of a pattern that cannot overlap itself, or of several patterns at
once. A text in which some occurrences were replaced is the text in which all were exactly if there
are no more of them, unless the replacement is the pattern. So replacing two patterns one after the
other is replacing them at once exactly if no occurrence of the second one is made on the way; and
it never is if the first replacement has no ending, no beginning and no part in common with it. -/

namespace Outreach.Text

/-- At how many places of a text a pattern begins. -/
def occurrences (pattern : List Char) : List Char → Nat
  | [] => 0
  | c :: rest => (if pattern <+: c :: rest then 1 else 0) + occurrences pattern rest

/-- No occurrence of a pattern begins in a text, whatever follows the text. -/
def IsClear (pattern text : List Char) : Prop :=
  ∀ suffix ∈ text.tails, suffix ≠ [] → ¬suffix <+: pattern ∧ ¬pattern <+: suffix

instance (pattern text : List Char) : Decidable (IsClear pattern text) :=
  inferInstanceAs (Decidable (∀ suffix ∈ text.tails, _ → _ ∧ _))

/-- A pattern that is not empty and of which no two occurrences overlap. -/
structure IsSeparate (pattern : List Char) : Prop where
  nonempty : pattern ≠ []
  clear : IsClear pattern pattern.tail

/-- One pass from left to right that replaces every pattern of a table by its value and drops the
given number of characters before the next look. -/
def substituteFrom (table : List (List Char × List Char)) : (skip : Nat) → List Char → List Char
  | _, [] => []
  | skip + 1, _ :: rest => substituteFrom table skip rest
  | 0, c :: rest =>
      match table.find? fun entry => entry.1.isPrefixOf (c :: rest) with
      | some (pattern, value) => value ++ substituteFrom table (pattern.length - 1) rest
      | none => c :: substituteFrom table 0 rest

/-- Replaces the patterns of a table at once. -/
def substitute (table : List (List Char × List Char)) (text : List Char) : List Char :=
  substituteFrom table 0 text

/-- A text comes of another one by replacing some occurrences of a pattern, as many as the number
says, and copying everything else. -/
inductive Replaces (pattern replacement : List Char) : Nat → List Char → List Char → Prop where
  | nil : Replaces pattern replacement 0 [] []
  | copy (c : Char) {count : Nat} {before after : List Char}
      (rest : Replaces pattern replacement count before after) :
      Replaces pattern replacement count (c :: before) (c :: after)
  | replace {count : Nat} {before after : List Char}
      (rest : Replaces pattern replacement count before after) :
      Replaces pattern replacement (count + 1) (pattern ++ before) (replacement ++ after)

/-- A text is empty, begins with one of some patterns, or begins with a character at which none of
them begins. -/
@[elab_as_elim]
theorem table_induction {patterns : List (List Char)}
    (nonempty : ∀ pattern ∈ patterns, pattern ≠ []) {motive : List Char → Prop} (nil : motive [])
    (append : ∀ pattern ∈ patterns, ∀ rest, motive rest → motive (pattern ++ rest))
    (cons : ∀ c rest, (∀ pattern ∈ patterns, ¬pattern <+: c :: rest) → motive rest →
      motive (c :: rest))
    (text : List Char) : motive text := by
  induction size : text.length using Nat.strong_induction_on generalizing text with
  | _ bound ih =>
    by_cases begins : ∃ pattern ∈ patterns, pattern <+: text
    · obtain ⟨pattern, listed, rest, rfl⟩ := begins
      have consumed := List.length_pos_iff.mpr (nonempty pattern listed)
      rw [List.length_append] at size
      exact append pattern listed rest (ih rest.length (by omega) rest rfl)
    · cases text with
      | nil => exact nil
      | cons c rest =>
        exact cons c rest (fun pattern listed prefixed => begins ⟨pattern, listed, prefixed⟩)
          (ih rest.length (by simp [← size]) rest rfl)

@[elab_as_elim]
theorem scan_induction {pattern : List Char} (nonempty : pattern ≠ []) {motive : List Char → Prop}
    (nil : motive []) (append : ∀ rest, motive rest → motive (pattern ++ rest))
    (cons : ∀ c rest, ¬pattern <+: c :: rest → motive rest → motive (c :: rest))
    (text : List Char) : motive text := by
  have filled : ∀ letters ∈ [pattern], letters ≠ [] := by simpa using nonempty
  induction text using table_induction filled with
  | nil => exact nil
  | append _ listed rest ih => exact List.mem_singleton.mp listed ▸ append rest ih
  | cons c rest differs ih => exact cons c rest (differs pattern (by simp)) ih

/-! ### Occurrences -/

section
variable {pattern first rest : List Char} {c : Char}

theorem IsClear.tail (clear : IsClear pattern (c :: first)) : IsClear pattern first :=
  fun suffix member => clear suffix (by simp [member])

theorem IsClear.not_begins (clear : IsClear pattern (c :: first)) (rest : List Char) :
    ¬pattern <+: c :: (first ++ rest) := by
  intro begins
  obtain ⟨shorter, longer⟩ := clear (c :: first) (by simp) (by simp)
  rcases List.prefix_or_prefix_of_prefix begins (List.prefix_append (c :: first) rest) with
    inside | around
  · exact longer inside
  · exact shorter around

theorem occurrences_cons (differs : ¬pattern <+: c :: rest) :
    occurrences pattern (c :: rest) = occurrences pattern rest := by
  rw [occurrences, if_neg differs, Nat.zero_add]

theorem occurrences_append_of_isClear (clear : IsClear pattern first) (rest : List Char) :
    occurrences pattern (first ++ rest) = occurrences pattern rest := by
  induction first with
  | nil => rfl
  | cons c first ih =>
    rw [List.cons_append, occurrences_cons (clear.not_begins rest), ih clear.tail]

theorem IsSeparate.occurrences_append (separate : IsSeparate pattern) (rest : List Char) :
    occurrences pattern (pattern ++ rest) = occurrences pattern rest + 1 := by
  obtain ⟨nonempty, clear⟩ := separate
  obtain ⟨c, others, rfl⟩ := List.exists_cons_of_ne_nil nonempty
  have begins : c :: others <+: c :: (others ++ rest) := List.prefix_append (c :: others) rest
  have apart : occurrences (c :: others) (others ++ rest) = occurrences (c :: others) rest :=
    occurrences_append_of_isClear clear rest
  rw [List.cons_append, occurrences, if_pos begins, apart, Nat.add_comm]

end

/-! ### One pass -/

section
variable {table : List (List Char × List Char)} {pattern replacement rest : List Char} {c : Char}

theorem substituteFrom_append (skipped rest : List Char) :
    substituteFrom table skipped.length (skipped ++ rest) = substitute table rest := by
  induction skipped with
  | nil => rfl
  | cons c skipped ih => exact ih

/-- The first pattern of the table that begins a text is replaced by its value. -/
theorem substitute_append (nonempty : pattern ≠ [])
    (found : (table.find? fun entry => entry.1.isPrefixOf (pattern ++ rest)) =
      some (pattern, replacement)) :
    substitute table (pattern ++ rest) = replacement ++ substitute table rest := by
  obtain ⟨c, others, rfl⟩ := List.exists_cons_of_ne_nil nonempty
  rw [List.cons_append] at found
  rw [substitute, List.cons_append, substituteFrom, found]
  exact congrArg (replacement ++ ·) (substituteFrom_append others rest)

/-- A character at which no pattern begins is copied. -/
theorem substitute_cons
    (absent : (table.find? fun entry => entry.1.isPrefixOf (c :: rest)) = none) :
    substitute table (c :: rest) = c :: substitute table rest := by
  rw [substitute, substituteFrom, absent]
  rfl

theorem replaceFrom_eq_substituteFrom (first : Char) (others replacement : List Char) (skip : Nat)
    (text : List Char) :
    replaceFrom first others replacement skip text =
      substituteFrom [(first :: others, replacement)] skip text := by
  fun_induction replaceFrom with
  | case1 => simp [substituteFrom]
  | case2 skip c rest ih => rw [ih, substituteFrom]
  | case3 c rest begins ih =>
    have found : ([(first :: others, replacement)].find?
        fun entry => entry.1.isPrefixOf (c :: rest)) = some (first :: others, replacement) := by
      rw [List.find?_cons_of_pos]
      rw [List.isPrefixOf_iff_prefix, List.cons_prefix_cons]
      exact ⟨begins.1.symm, List.isPrefixOf_iff_prefix.mp begins.2⟩
    rw [ih, substituteFrom, found]
    rfl
  | case4 c rest differs ih =>
    have absent : ([(first :: others, replacement)].find?
        fun entry => entry.1.isPrefixOf (c :: rest)) = none := by
      rw [List.find?_cons_of_neg, List.find?_nil]
      rw [List.isPrefixOf_iff_prefix, List.cons_prefix_cons]
      exact fun ⟨same, begins⟩ => differs ⟨same.symm, List.isPrefixOf_iff_prefix.mpr begins⟩
    rw [ih, substituteFrom, absent]

/-- Replacing one pattern is one pass with a table of one entry. -/
theorem replaceAll_eq_substitute (nonempty : pattern ≠ []) (text : List Char) :
    replaceAll pattern replacement text = substitute [(pattern, replacement)] text := by
  obtain ⟨first, others, rfl⟩ := List.exists_cons_of_ne_nil nonempty
  exact replaceFrom_eq_substituteFrom first others replacement 0 text

theorem replaceAll_nil : replaceAll pattern replacement [] = [] := by
  cases pattern with
  | nil => rfl
  | cons first others => simp [replaceAll, replaceFrom]

theorem replaceAll_append (nonempty : pattern ≠ []) (rest : List Char) :
    replaceAll pattern replacement (pattern ++ rest) =
      replacement ++ replaceAll pattern replacement rest := by
  rw [replaceAll_eq_substitute nonempty, replaceAll_eq_substitute nonempty,
    substitute_append nonempty (by simp; rfl)]

theorem replaceAll_cons (nonempty : pattern ≠ []) (differs : ¬pattern <+: c :: rest) :
    replaceAll pattern replacement (c :: rest) = c :: replaceAll pattern replacement rest := by
  rw [replaceAll_eq_substitute nonempty, replaceAll_eq_substitute nonempty,
    substitute_cons (by simp [differs])]

end

/-! ### Some of the occurrences -/

section
variable {pattern replacement first rest before after : List Char} {count : Nat}

/-- Every pattern that is replaced changes the length alike. -/
theorem Replaces.length_add (made : Replaces pattern replacement count before after) :
    after.length + count * pattern.length = before.length + count * replacement.length := by
  induction made with
  | nil => simp
  | copy c rest ih => simp only [List.length_cons]; omega
  | replace rest ih => simp only [List.length_append, Nat.succ_mul]; omega

theorem Replaces.le_occurrences (separate : IsSeparate pattern)
    (made : Replaces pattern replacement count before after) :
    count ≤ occurrences pattern before := by
  induction made with
  | nil => exact Nat.zero_le _
  | copy c rest ih => exact ih.trans (Nat.le_add_left _ _)
  | replace rest ih =>
    rw [separate.occurrences_append]
    exact Nat.succ_le_succ ih

/-- A text in which no occurrence begins is copied. -/
theorem Replaces.of_append (clear : IsClear pattern first)
    (made : Replaces pattern replacement count (first ++ rest) after) :
    ∃ others, after = first ++ others ∧ Replaces pattern replacement count rest others := by
  induction first generalizing after with
  | nil => exact ⟨after, rfl, made⟩
  | cons c first ih =>
    generalize whole : c :: first ++ rest = before at made
    cases made with
    | nil => exact absurd whole (by simp)
    | copy d made =>
      obtain ⟨rfl, rfl⟩ := List.cons.inj whole
      obtain ⟨others, rfl, left⟩ := ih clear.tail made
      exact ⟨others, rfl, left⟩
    | replace made => exact absurd ⟨_, whole.symm⟩ (clear.not_begins rest)

/-- Replacing every occurrence replaces as many as there are. -/
theorem replaces_replaceAll (separate : IsSeparate pattern) (replacement text : List Char) :
    Replaces pattern replacement (occurrences pattern text) text
      (replaceAll pattern replacement text) := by
  induction text using scan_induction separate.nonempty with
  | nil =>
    rw [replaceAll_nil]
    exact .nil
  | append rest ih =>
    rw [separate.occurrences_append, replaceAll_append separate.nonempty]
    exact .replace ih
  | cons c rest differs ih =>
    rw [occurrences_cons differs,
      replaceAll_cons separate.nonempty differs]
    exact .copy c ih

theorem Replaces.eq_of_self (made : Replaces pattern pattern count before after) :
    after = before := by
  induction made with
  | nil => rfl
  | copy c rest ih => rw [ih]
  | replace rest ih => rw [ih]

theorem Replaces.eq_replaceAll (separate : IsSeparate pattern)
    (made : Replaces pattern replacement count before after)
    (all : count = occurrences pattern before) :
    after = replaceAll pattern replacement before := by
  induction made with
  | nil => rw [replaceAll_nil]
  | @copy c count before after rest ih =>
    have fewer := rest.le_occurrences separate
    have differs : ¬pattern <+: c :: before := by
      intro begins
      rw [occurrences, if_pos begins] at all
      omega
    rw [occurrences_cons differs] at all
    rw [replaceAll_cons separate.nonempty differs, ih all]
  | replace rest ih =>
    rw [separate.occurrences_append, Nat.add_right_cancel_iff] at all
    rw [replaceAll_append separate.nonempty, ih all]

/-- With a replacement as long as the pattern, an occurrence that was kept stands where the
replacement would. -/
theorem Replaces.count_eq (separate : IsSeparate pattern)
    (alike : replacement.length = pattern.length) (different : replacement ≠ pattern)
    (made : Replaces pattern replacement count before after)
    (same : after = replaceAll pattern replacement before) :
    count = occurrences pattern before := by
  induction made with
  | nil => rfl
  | @copy c count before after rest ih =>
    by_cases begins : pattern <+: c :: before
    · obtain ⟨nonempty, clear⟩ := separate
      obtain ⟨d, others, rfl⟩ := List.exists_cons_of_ne_nil nonempty
      obtain ⟨left, whole⟩ := begins
      obtain ⟨rfl, rfl⟩ : d = c ∧ others ++ left = before := List.cons.inj whole
      obtain ⟨kept, rfl, -⟩ : ∃ kept, after = others ++ kept ∧ _ := rest.of_append clear
      have shown : (d :: others) ++ kept =
          replacement ++ replaceAll (d :: others) replacement left :=
        same.trans (replaceAll_append nonempty left)
      exact absurd (List.append_inj_left shown alike.symm).symm different
    · rw [replaceAll_cons separate.nonempty begins] at same
      rw [occurrences_cons begins]
      exact ih (List.cons.inj same).2
  | replace rest ih =>
    rw [replaceAll_append separate.nonempty, List.append_cancel_left_eq] at same
    rw [separate.occurrences_append, ih same]

/-- Where some occurrences were replaced, the text is that in which all were only if they all were,
or the replacement is the pattern. -/
theorem Replaces.eq_replaceAll_iff (separate : IsSeparate pattern)
    (made : Replaces pattern replacement count before after) :
    after = replaceAll pattern replacement before ↔
      replacement = pattern ∨ count = occurrences pattern before := by
  constructor
  · intro same
    by_cases different : replacement = pattern
    · exact .inl different
    right
    by_cases alike : replacement.length = pattern.length
    · exact made.count_eq separate alike different same
    have whole := (replaces_replaceAll separate replacement before).length_add
    have part := made.length_add
    rw [← same] at whole
    obtain ⟨kept, total⟩ := Nat.exists_eq_add_of_le (made.le_occurrences separate)
    rw [total, Nat.add_mul, Nat.add_mul] at whole
    have level : kept * pattern.length = kept * replacement.length := by omega
    rcases Nat.eq_zero_or_pos kept with rfl | positive
    · exact total.symm
    · exact absurd (Nat.eq_of_mul_eq_mul_left positive level).symm alike
  · rintro (rfl | all)
    · rw [made.eq_of_self, ((replaces_replaceAll separate _ _).eq_of_self)]
    · exact made.eq_replaceAll separate all

end

/-! ### Two patterns, one after the other -/

/-- Two patterns neither of which overlaps itself or the other one. -/
structure AreApart (earlier later : List Char) : Prop where
  one : IsSeparate earlier
  two : IsSeparate later
  behind : IsClear earlier later
  ahead : IsClear later earlier

section
variable {pattern earlier later replacement value first text : List Char}

theorem Replaces.append_left (copied : List Char) {count : Nat} {before after : List Char}
    (made : Replaces pattern replacement count before after) :
    Replaces pattern replacement count (copied ++ before) (copied ++ after) := by
  induction copied with
  | nil => exact made
  | cons c copied ih => exact .copy c ih

theorem IsClear.not_begins_append (nonempty : first ≠ []) (clear : IsClear pattern first)
    (rest : List Char) : ¬pattern <+: first ++ rest := by
  obtain ⟨c, others, rfl⟩ := List.exists_cons_of_ne_nil nonempty
  exact clear.not_begins rest

theorem replaceAll_append_of_isClear (nonempty : pattern ≠ []) (clear : IsClear pattern first)
    (rest : List Char) :
    replaceAll pattern replacement (first ++ rest) =
      first ++ replaceAll pattern replacement rest := by
  induction first with
  | nil => rfl
  | cons c first ih =>
    rw [List.cons_append, replaceAll_cons nonempty (clear.not_begins rest),
      ih clear.tail]
    rfl

/-- The pass that replaces both patterns replaces the occurrences of the later one that the text had
before the earlier one was replaced. -/
theorem replaces_substitute (apart : AreApart earlier later) (replacement value text : List Char) :
    Replaces later value (occurrences later text) (replaceAll earlier replacement text)
      (substitute [(earlier, replacement), (later, value)] text) := by
  obtain ⟨one, two, behind, ahead⟩ := apart
  have filled : ∀ pattern ∈ [earlier, later], pattern ≠ [] := by
    simp [one.nonempty, two.nonempty]
  induction text using table_induction filled with
  | nil =>
    rw [replaceAll_nil]
    exact .nil
  | append pattern listed rest ih =>
    simp only [List.mem_cons, List.not_mem_nil, or_false] at listed
    rcases listed with rfl | rfl
    · rw [occurrences_append_of_isClear ahead, replaceAll_append one.nonempty,
        substitute_append one.nonempty (by simp; rfl)]
      exact ih.append_left replacement
    · have found : ([(earlier, replacement), (pattern, value)].find? fun entry =>
          entry.1.isPrefixOf (pattern ++ rest)) = some (pattern, value) := by
        simp [behind.not_begins_append two.nonempty]
      rw [two.occurrences_append, replaceAll_append_of_isClear one.nonempty behind,
        substitute_append two.nonempty found]
      exact .replace ih
  | cons c rest differs ih =>
    have first := differs earlier (by simp)
    have second := differs later (by simp)
    rw [occurrences_cons second, replaceAll_cons one.nonempty first,
      substitute_cons (by simp [first, second])]
    exact .copy c ih

/-- Replacing two patterns one after the other is replacing both at once exactly if the first round
makes no occurrence of the second pattern, or the second round changes nothing. -/
theorem replaceAll_replaceAll_iff (apart : AreApart earlier later)
    (replacement value text : List Char) :
    replaceAll later value (replaceAll earlier replacement text) =
        substitute [(earlier, replacement), (later, value)] text ↔
      value = later ∨
        occurrences later (replaceAll earlier replacement text) = occurrences later text := by
  rw [eq_comm, (replaces_substitute apart replacement value text).eq_replaceAll_iff apart.two,
    eq_comm (a := occurrences later text)]

/-- What ends the later pattern begins no text that the first round makes, unless it began it
before. -/
theorem prefix_of_prefix_replaceAll (one : IsSeparate earlier) (clear : IsClear replacement later)
    {part : List Char} (member : part ∈ later.tails)
    (begins : part <+: replaceAll earlier replacement text) : part <+: text := by
  induction text using scan_induction one.nonempty generalizing part with
  | nil =>
    rw [replaceAll_nil] at begins
    exact begins
  | append rest ih =>
    rw [replaceAll_append one.nonempty] at begins
    by_cases empty : part = []
    · exact empty ▸ List.nil_prefix
    obtain ⟨shorter, longer⟩ := clear part member empty
    rcases List.prefix_or_prefix_of_prefix begins (List.prefix_append _ _) with inside | around
    · exact absurd inside shorter
    · exact absurd around longer
  | cons c rest differs ih =>
    rw [replaceAll_cons one.nonempty differs] at begins
    cases part with
    | nil => exact List.nil_prefix
    | cons d part =>
      rw [List.cons_prefix_cons] at begins ⊢
      have shorter : part ∈ later.tails := by
        rw [List.mem_tails] at member ⊢
        exact (List.suffix_cons d part).trans member
      exact ⟨begins.1, ih shorter begins.2⟩

/-- A replacement that stays clear of the later pattern makes no occurrence of it. -/
theorem occurrences_replaceAll (apart : AreApart earlier later) (clear : IsClear later replacement)
    (around : IsClear replacement later) (text : List Char) :
    occurrences later (replaceAll earlier replacement text) = occurrences later text := by
  obtain ⟨one, two, behind, ahead⟩ := apart
  induction text using scan_induction one.nonempty with
  | nil => rw [replaceAll_nil]
  | append rest ih =>
    rw [replaceAll_append one.nonempty, occurrences_append_of_isClear clear, ih,
      occurrences_append_of_isClear ahead]
  | cons c rest differs ih =>
    have same : later <+: replaceAll earlier replacement (c :: rest) ↔ later <+: c :: rest := by
      constructor
      · exact prefix_of_prefix_replaceAll one around (by simp)
      · rintro ⟨rest, whole⟩
        rw [← whole, replaceAll_append_of_isClear one.nonempty behind]
        exact List.prefix_append _ _
    rw [replaceAll_cons one.nonempty differs] at same ⊢
    simp only [occurrences, same, ih]

/-! ### Replacements that make an occurrence -/

theorem IsClear.of_suffix {back whole : List Char} (clear : IsClear pattern whole)
    (behind : back <:+ whole) : IsClear pattern back := by
  intro suffix member
  rw [List.mem_tails] at member
  exact clear suffix ((List.mem_tails ..).mpr (member.trans behind))

theorem occurrences_of_length_lt (short : text.length < pattern.length) :
    occurrences pattern text = 0 := by
  induction text with
  | nil => rfl
  | cons c rest ih =>
    have differs : ¬pattern <+: c :: rest := fun begins =>
      absurd begins.length_le (Nat.not_le_of_lt short)
    rw [occurrences_cons differs]
    exact ih (Nat.lt_of_succ_lt short)

theorem occurrences_pos (nonempty : pattern ≠ []) (inside : pattern <:+: text) :
    0 < occurrences pattern text := by
  induction text with
  | nil => exact absurd (List.infix_nil.mp inside) nonempty
  | cons c rest ih =>
    rw [occurrences]
    rcases List.infix_cons_iff.mp inside with begins | later
    · rw [if_pos begins]
      exact Nat.add_pos_left Nat.one_pos _
    · exact Nat.add_pos_right _ (ih later)

/-- The earlier pattern does not begin in a part of the later one that it follows. -/
theorem AreApart.not_begins (apart : AreApart earlier later) {part : List Char}
    (filled : part ≠ []) (inside : part <:+: later) (back : List Char) :
    ¬earlier <+: part ++ (earlier ++ back) := by
  intro begins
  rcases Nat.lt_or_ge part.length earlier.length with short | long
  -- Two occurrences of the earlier pattern would overlap.
  · obtain ⟨left, rfl⟩ :=
      List.prefix_of_prefix_length_le (List.prefix_append part _) begins short.le
    have remains : left ≠ [] := by
      rintro rfl
      simp at short
    have ending : left <:+ (part ++ left).tail := by
      rw [List.tail_append_of_ne_nil filled]
      exact List.suffix_append part.tail left
    refine (apart.one.clear left ((List.mem_tails ..).mpr ending) remains).1 ?_
    have smaller : left.length ≤ (part ++ left).length := by simp
    exact List.prefix_of_prefix_length_le ((List.prefix_append_right_inj part).mp begins)
      (List.prefix_append _ back) smaller
  · have within := List.prefix_of_prefix_length_le begins (List.prefix_append part _) long
    obtain ⟨before, after, rfl⟩ := inside
    have ending : part ++ after <:+ before ++ part ++ after := ⟨before, by simp⟩
    refine (apart.behind (part ++ after) ((List.mem_tails ..).mpr ending) (by simp [filled])).2 ?_
    exact within.trans (List.prefix_append part after)

/-- No occurrence of the later pattern begins in a shorter text that the earlier one follows. -/
theorem AreApart.occurrences_front (apart : AreApart earlier later) {front : List Char}
    (short : front.length < later.length) (back : List Char) :
    occurrences later (front ++ (earlier ++ back)) = occurrences later back := by
  induction front with
  | nil => exact occurrences_append_of_isClear apart.ahead back
  | cons c front ih =>
    have differs : ¬later <+: c :: front ++ (earlier ++ back) := by
      intro begins
      have around := List.prefix_of_prefix_length_le (List.prefix_append (c :: front) _) begins
        short.le
      obtain ⟨left, rfl⟩ := around
      rw [List.prefix_append_right_inj] at begins
      have filled : left ≠ [] := by
        rintro rfl
        simp at short
      have ending : left <:+ c :: front ++ left := List.suffix_append _ _
      obtain ⟨shorter, longer⟩ := apart.behind left ((List.mem_tails ..).mpr ending) filled
      rcases List.prefix_or_prefix_of_prefix begins (List.prefix_append earlier back) with
        within | around
      · exact shorter within
      · exact longer around
    exact (occurrences_cons differs).trans (ih (Nat.lt_of_succ_lt short))

theorem AreApart.replaceAll_front (apart : AreApart earlier later) {front back : List Char}
    (ahead : front <:+: later) (behind : back <:+ later) (replacement : List Char) :
    replaceAll earlier replacement (front ++ (earlier ++ back)) =
      front ++ (replacement ++ back) := by
  induction front with
  | nil =>
    have kept : replaceAll earlier replacement (back ++ []) = back ++ _ :=
      replaceAll_append_of_isClear apart.one.nonempty (apart.behind.of_suffix behind) []
    rw [List.append_nil, replaceAll_nil, List.append_nil] at kept
    rw [List.nil_append, replaceAll_append apart.one.nonempty, kept]
    rfl
  | cons c front ih =>
    have differs := apart.not_begins (List.cons_ne_nil c front) ahead back
    exact (replaceAll_cons apart.one.nonempty differs).trans
      (congrArg (c :: ·) (ih ((List.suffix_cons c front).isInfix.trans ahead)))

/-- A replacement makes an occurrence of the later pattern where it completes one. -/
theorem AreApart.makes_occurrence (apart : AreApart earlier later) {front back : List Char}
    (ahead : front <:+: later) (short : front.length < later.length) (behind : back <:+ later)
    (left : back.length < later.length) (completes : later <:+: front ++ (replacement ++ back)) :
    ∃ text, occurrences later (replaceAll earlier replacement text) ≠ occurrences later text := by
  refine ⟨front ++ (earlier ++ back), ?_⟩
  rw [apart.replaceAll_front ahead behind, apart.occurrences_front short,
    occurrences_of_length_lt left]
  exact (occurrences_pos apart.two.nonempty completes).ne'

/-- The earlier pattern may stand between two parts of the later one and leave nothing there. -/
theorem AreApart.makes_occurrence_nil (apart : AreApart earlier later) (long : 1 < later.length) :
    ∃ text, occurrences later (replaceAll earlier [] text) ≠ occurrences later text := by
  obtain ⟨c, rest, rfl⟩ := List.exists_cons_of_length_pos (Nat.zero_lt_of_lt long)
  have ahead : [c] <:+: c :: rest := ⟨[], rest, rfl⟩
  exact apart.makes_occurrence ahead long (List.suffix_cons c rest) (Nat.lt_succ_self _)
    (List.infix_refl _)

/-- So it does wherever the two have an ending, a beginning or a whole in common. -/
theorem AreApart.exists_makes (apart : AreApart earlier later) (long : 1 < later.length)
    (common : ¬(IsClear later replacement ∧ IsClear replacement later)) :
    ∃ text, occurrences later (replaceAll earlier replacement text) ≠ occurrences later text := by
  rw [not_and_or] at common
  simp only [IsClear, not_forall, not_and_or, not_not, exists_prop, List.mem_tails] at common
  rcases common with ⟨part, ⟨before, rfl⟩, filled, shared⟩ | ⟨part, ⟨front, rfl⟩, filled, shared⟩
  · rcases shared with ⟨back, rfl⟩ | ⟨after, rfl⟩
    -- The replacement ends with a beginning of the pattern.
    · have left : back.length < (part ++ back).length := by
        simpa using List.length_pos_iff.mpr filled
      exact apart.makes_occurrence List.nil_infix (Nat.zero_lt_of_lt long)
        (List.suffix_append part back) left ⟨before, [], by simp⟩
    -- It holds the whole pattern.
    · exact apart.makes_occurrence List.nil_infix (Nat.zero_lt_of_lt long) List.nil_suffix
        (Nat.zero_lt_of_lt long) ⟨before, after, by simp⟩
  · have short : front.length < (front ++ part).length := by
      simpa using List.length_pos_iff.mpr filled
    have ahead : front <:+: front ++ part := (List.prefix_append front part).isInfix
    rcases shared with ⟨after, rfl⟩ | ⟨back, rfl⟩
    -- It begins with an ending of the pattern.
    · exact apart.makes_occurrence ahead short List.nil_suffix (Nat.zero_lt_of_lt long)
        ⟨[], after, by simp⟩
    -- It is a part of the pattern.
    · by_cases empty : replacement = []
      · subst empty
        exact apart.makes_occurrence_nil long
      · have left : back.length < (front ++ (replacement ++ back)).length := by
          have := List.length_pos_iff.mpr empty
          simp only [List.length_append]
          omega
        have behind : back <:+ front ++ (replacement ++ back) :=
          (List.suffix_append replacement back).trans (List.suffix_append front _)
        exact apart.makes_occurrence ahead short behind left (List.infix_refl _)

/-- Replacing two patterns one after the other is replacing both at once in every text exactly if
the first replacement stays clear of the second pattern, or the second replacement is that pattern. -/
theorem replaceAll_replaceAll_always_iff (apart : AreApart earlier later) (long : 1 < later.length)
    (replacement value : List Char) :
    (∀ text, replaceAll later value (replaceAll earlier replacement text) =
        substitute [(earlier, replacement), (later, value)] text) ↔
      value = later ∨ (IsClear later replacement ∧ IsClear replacement later) := by
  simp only [replaceAll_replaceAll_iff apart]
  constructor
  · intro always
    by_contra neither
    rw [not_or] at neither
    obtain ⟨text, made⟩ := apart.exists_makes long neither.2
    exact (always text).elim neither.1 made
  · rintro (same | ⟨clear, around⟩) text
    · exact .inl same
    · exact .inr (occurrences_replaceAll apart clear around text)

end

end Outreach.Text
