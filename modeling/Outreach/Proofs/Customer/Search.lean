import Outreach.Proofs.Api.Paged

/-! Searches among customers. The text that is looked for is taken for a pattern: a percent sign in
it stands for any text, and an underscore for any one character. So a search finds everyone in whose
name or address its text occurs, in letters of either case, and it finds others as well as soon as
there is a wildcard in it. Patterns and texts end at their first null character. -/

namespace Outreach

namespace Text.Pattern

/-! ### What fits a pattern -/

/-- A sign that stands for itself in a pattern. -/
def IsPlain (c : Char) : Prop := c ≠ '%' ∧ c ≠ '_'

/-- A text fits a pattern, in letters of either case. -/
inductive Fits : List Char → List Char → Prop where
  | done : Fits [] []
  | any {rest after : List Char} (before : List Char) (fits : Fits rest after) :
      Fits ('%' :: rest) (before ++ after)
  | one {rest text : List Char} (c : Char) (fits : Fits rest text) : Fits ('_' :: rest) (c :: text)
  | plain {c d : Char} {rest text : List Char} (plain : IsPlain c) (same : c.toLower = d.toLower)
      (fits : Fits rest text) : Fits (c :: rest) (d :: text)

/-- A sign that is no letter is nothing but itself in lower case. -/
theorem toLower_eq_iff {c mark : Char} (noLetter : mark.isAlpha = false) :
    c.toLower = mark ↔ c = mark := by
  have still {d : Char} (noLetter : d.isAlpha = false) : d.toLower = d := by
    refine Char.toLower_eq_of_not_isUpper fun upper => ?_
    simp [Char.isAlpha, upper] at noLetter
  constructor
  · intro same
    have small : mark.isLower = c.isAlpha := same ▸ Char.isLower_toLower_eq_isAlpha c
    have none : mark.isLower = false := by
      simp only [Char.isAlpha, Bool.or_eq_false_iff] at noLetter
      exact noLetter.2
    rw [← same, still (small.symm.trans none)]
  · rintro rfl
    exact still noLetter

theorem toLower_plain {c : Char} (plain : IsPlain c) : IsPlain c.toLower :=
  ⟨mt (toLower_eq_iff (by decide)).mp plain.1, mt (toLower_eq_iff (by decide)).mp plain.2⟩

/-! ### One suffix after the other -/

theorem verdicts_plain {c : Char} (plain : IsPlain c) (rest text : List Char) :
    verdicts (c :: rest) text =
      List.zipWith (fun d verdict => c = d && verdict) text ((verdicts rest text).drop 1) ++
        [false] := by
  rw [verdicts]
  · exact plain.1
  · exact plain.2

/-- The verdicts for the suffixes of a text are one for the text and those for the suffixes of what
follows its first character. -/
theorem verdicts_eq (pattern : List Char) :
    verdicts pattern [] = [matchesExactly pattern []] ∧
    ∀ c text, verdicts pattern (c :: text) =
      matchesExactly pattern (c :: text) :: verdicts pattern text := by
  induction pattern with
  | nil => exact ⟨rfl, fun c text => rfl⟩
  | cons first rest ih =>
    have headed (text : List Char) : ∃ later, verdicts rest text =
        matchesExactly rest text :: later := by
      cases text with
      | nil => exact ⟨_, ih.1⟩
      | cons c text => exact ⟨_, ih.2 c text⟩
    by_cases any : first = '%'
    · subst any
      have step (text : List Char) : verdicts ('%' :: rest) text = anyLater (verdicts rest text) :=
        rfl
      unfold matchesExactly
      refine ⟨?_, fun c text => ?_⟩
      · rw [step, ih.1]
        rfl
      · rw [step, step, ih.2]
        rfl
    by_cases one : first = '_'
    · subst one
      have step (text : List Char) :
          verdicts ('_' :: rest) text = (verdicts rest text).drop 1 ++ [false] := rfl
      unfold matchesExactly
      refine ⟨?_, fun c text => ?_⟩
      · rw [step, ih.1]
        rfl
      · obtain ⟨later, held⟩ := headed text
        rw [step, step, ih.2, held]
        rfl
    · have step := verdicts_plain ⟨any, one⟩ rest
      unfold matchesExactly
      refine ⟨?_, fun c text => ?_⟩
      · rw [step, ih.1]
        rfl
      · obtain ⟨later, held⟩ := headed text
        rw [step, step, ih.2, held]
        rfl

variable {c d : Char} {rest text : List Char}

theorem matchesExactly_nil : matchesExactly [] text = text.isEmpty := by
  cases text <;> rfl

theorem matchesExactly_any_nil :
    matchesExactly ('%' :: rest) [] = matchesExactly rest [] := by
  show (anyLater (verdicts rest [])).head?.getD false = _
  rw [(verdicts_eq rest).1]
  simp [anyLater]

theorem matchesExactly_any_cons : matchesExactly ('%' :: rest) (c :: text) =
    (matchesExactly rest (c :: text) || matchesExactly ('%' :: rest) text) := by
  show (anyLater (verdicts rest (c :: text))).head?.getD false = _
  rw [(verdicts_eq rest).2]
  rfl

theorem matchesExactly_one_cons :
    matchesExactly ('_' :: rest) (c :: text) = matchesExactly rest text := by
  show ((verdicts rest (c :: text)).drop 1 ++ [false]).head?.getD false = _
  rw [(verdicts_eq rest).2]
  cases text with
  | nil => rw [(verdicts_eq rest).1]; rfl
  | cons d text => rw [(verdicts_eq rest).2]; rfl

theorem matchesExactly_one_nil : matchesExactly ('_' :: rest) [] = false := by
  show ((verdicts rest []).drop 1 ++ [false]).head?.getD false = _
  rw [(verdicts_eq rest).1]
  rfl

theorem matchesExactly_plain_cons (plain : IsPlain c) :
    matchesExactly (c :: rest) (d :: text) = (c = d && matchesExactly rest text) := by
  unfold matchesExactly
  rw [verdicts_plain plain, (verdicts_eq rest).2]
  cases text with
  | nil => rw [(verdicts_eq rest).1]; rfl
  | cons e text => rw [(verdicts_eq rest).2]; rfl

theorem matchesExactly_plain_nil (plain : IsPlain c) : matchesExactly (c :: rest) [] = false := by
  unfold matchesExactly
  rw [verdicts_plain plain]
  rfl

/-! ### Matching is fitting -/

theorem fits_any_iff :
    Fits ('%' :: rest) text ↔ ∃ before after, text = before ++ after ∧ Fits rest after := by
  constructor
  · intro fits
    cases fits with
    | any before fits => exact ⟨before, _, rfl, fits⟩
    | plain plain => exact absurd rfl plain.1
  · rintro ⟨before, after, rfl, fits⟩
    exact .any before fits

theorem fits_any_cons :
    Fits ('%' :: rest) (c :: text) ↔ Fits rest (c :: text) ∨ Fits ('%' :: rest) text := by
  constructor
  · intro fits
    obtain ⟨before, after, split, later⟩ := fits_any_iff.mp fits
    cases before with
    | nil => exact .inl (split ▸ later)
    | cons d before =>
      obtain ⟨-, rfl⟩ := List.cons.inj split
      exact .inr (.any before later)
  · rintro (fits | fits)
    · exact .any [] fits
    · obtain ⟨before, after, rfl, later⟩ := fits_any_iff.mp fits
      exact .any (c :: before) later

theorem fits_one_iff :
    Fits ('_' :: rest) text ↔ ∃ c after, text = c :: after ∧ Fits rest after := by
  constructor
  · intro fits
    cases fits with
    | one c fits => exact ⟨c, _, rfl, fits⟩
    | plain plain => exact absurd rfl plain.2
  · rintro ⟨c, after, rfl, fits⟩
    exact .one c fits

theorem fits_plain_iff (plain : IsPlain c) :
    Fits (c :: rest) text ↔
      ∃ d after, text = d :: after ∧ c.toLower = d.toLower ∧ Fits rest after := by
  constructor
  · intro fits
    cases fits with
    | any => exact absurd rfl plain.1
    | one => exact absurd rfl plain.2
    | plain _ same fits => exact ⟨_, _, rfl, same, fits⟩
  · rintro ⟨d, after, rfl, same, fits⟩
    exact .plain plain same fits

/-- The induction is on the pattern, and for a percent sign on the text as well: each character of
the text is a further place where the rest of the pattern may begin. -/
theorem matchesExactly_iff (pattern text : List Char) :
    matchesExactly (pattern.map Char.toLower) (text.map Char.toLower) = true ↔
      Fits pattern text := by
  induction pattern generalizing text with
  | nil =>
    rw [List.map_nil, matchesExactly_nil, List.isEmpty_iff, List.map_eq_nil_iff]
    constructor
    · rintro rfl
      exact .done
    · intro fits
      cases fits
      rfl
  | cons c rest ih =>
    rw [List.map_cons]
    by_cases any : c = '%'
    · subst any
      have still : ('%' : Char).toLower = '%' := by decide
      rw [still]
      induction text with
      | nil =>
        rw [List.map_nil, matchesExactly_any_nil, fits_any_iff]
        simp [← ih]
      | cons d text shorter =>
        rw [List.map_cons, matchesExactly_any_cons, Bool.or_eq_true, fits_any_cons,
          ← List.map_cons, ih]
        exact or_congr_right shorter
    by_cases one : c = '_'
    · subst one
      have still : ('_' : Char).toLower = '_' := by decide
      rw [still, fits_one_iff]
      cases text with
      | nil => simp [matchesExactly_one_nil]
      | cons d text =>
        rw [List.map_cons, matchesExactly_one_cons, ih]
        simp
    · rw [fits_plain_iff ⟨any, one⟩]
      cases text with
      | nil => simp [matchesExactly_plain_nil (toLower_plain ⟨any, one⟩)]
      | cons d text =>
        rw [List.map_cons, matchesExactly_plain_cons (toLower_plain ⟨any, one⟩), Bool.and_eq_true,
          decide_eq_true_eq, ih]
        simp

theorem isMatch_iff {pattern text : List Char} :
    isMatch pattern text = true ↔ Fits (terminated pattern) (terminated text) :=
  matchesExactly_iff (terminated pattern) (terminated text)

/-! ### Literal search -/

/-- A search text occurs in a text as it stands, in letters of either case. -/
def Occurs (search text : List Char) : Prop :=
  search.map Char.toLower <:+: text.map Char.toLower

/-- A search text in which every sign stands for itself. -/
def IsLiteral (search : List Char) : Prop := ∀ c ∈ search, IsPlain c ∧ c ≠ '\x00'

/-- A text without a null character. -/
def IsUnbroken (text : List Char) : Prop := '\x00' ∉ text

theorem terminated_unbroken {text : List Char} (unbroken : IsUnbroken text) :
    terminated text = text :=
  List.takeWhile_eq_self_iff.mpr fun c member => by
    simpa using ne_of_mem_of_not_mem member unbroken

theorem around_unbroken {search : List Char} (unbroken : IsUnbroken search) :
    IsUnbroken (around search) := by
  simp [IsUnbroken, around] at unbroken ⊢
  exact unbroken

/-- Signs that are all literal fit the same signs, and nothing else. -/
theorem fits_literal_iff {search tail : List Char} (plain : ∀ c ∈ search, IsPlain c) :
    Fits (search ++ tail) text ↔ ∃ found after, text = found ++ after ∧
      search.map Char.toLower = found.map Char.toLower ∧ Fits tail after := by
  induction search generalizing text with
  | nil =>
    constructor
    · intro fits
      exact ⟨[], text, rfl, rfl, fits⟩
    · rintro ⟨found, after, rfl, same, fits⟩
      obtain rfl := List.map_eq_nil_iff.mp same.symm
      exact fits
  | cons c search ih =>
    obtain ⟨first, later⟩ := List.forall_mem_cons.mp plain
    rw [List.cons_append, fits_plain_iff first]
    constructor
    · rintro ⟨d, text, rfl, same, fits⟩
      obtain ⟨found, after, rfl, alike, fits⟩ := (ih later).mp fits
      exact ⟨d :: found, after, rfl, by simp [same, alike], fits⟩
    · rintro ⟨found, after, rfl, alike, fits⟩
      cases found with
      | nil => simp at alike
      | cons d found =>
        simp only [List.map_cons, List.cons.injEq] at alike
        exact ⟨d, found ++ after, rfl, alike.1, (ih later).mpr ⟨found, after, rfl, alike.2, fits⟩⟩

/-- A text fits that agrees with the pattern in all that stands for itself. -/
theorem fits_agreeing {search found after tail : List Char}
    (agree : List.Forall₂ (fun c d => IsPlain c → c.toLower = d.toLower) search found)
    (fits : Fits tail after) : Fits (search ++ tail) (found ++ after) := by
  induction agree with
  | nil => exact fits
  | @cons c d search found same _ ih =>
    by_cases any : c = '%'
    · subst any
      exact .any [d] ih
    by_cases one : c = '_'
    · subst one
      exact .one d ih
    · exact .plain ⟨any, one⟩ (same ⟨any, one⟩) ih

theorem fits_around_iff {search : List Char} :
    Fits (around search) text ↔ ∃ before after, text = before ++ after ∧
      Fits (search ++ ['%']) after := fits_any_iff

theorem fits_anything (text : List Char) : Fits ['%'] text := by
  simpa using Fits.any text .done

theorem occurs_iff {search : List Char} : Occurs search text ↔ ∃ before found after,
    text = before ++ (found ++ after) ∧ search.map Char.toLower = found.map Char.toLower := by
  constructor
  · rintro ⟨before, after, split⟩
    obtain ⟨front, last, rfl, first, rfl⟩ := List.map_eq_append_iff.mp split.symm
    obtain ⟨early, found, rfl, rfl, same⟩ := List.map_eq_append_iff.mp first
    exact ⟨early, found, last, by simp, same.symm⟩
  · rintro ⟨before, found, after, rfl, same⟩
    exact ⟨before.map Char.toLower, after.map Char.toLower, by simp [same]⟩

/-- What a search text occurs in is found by it. -/
theorem Occurs.isMatch {search : List Char} (unbroken : IsUnbroken search)
    (whole : IsUnbroken text) (occurs : Occurs search text) :
    isMatch (around search) text = true := by
  rw [isMatch_iff, terminated_unbroken (around_unbroken unbroken), terminated_unbroken whole]
  obtain ⟨before, found, after, rfl, alike⟩ := occurs_iff.mp occurs
  have same : List.Forall₂ Eq (search.map Char.toLower) (found.map Char.toLower) := by
    rw [alike]
    exact List.forall₂_same.mpr fun _ _ => rfl
  have agree : List.Forall₂ (fun c d => IsPlain c → c.toLower = d.toLower) search found := by
    refine List.Forall₂.imp ?_ (List.forall₂_map_right_iff.mp (List.forall₂_map_left_iff.mp same))
    exact fun _ _ same _ => same
  exact fits_around_iff.mpr ⟨before, found ++ after, rfl,
    fits_agreeing agree (fits_anything after)⟩

/-- A literal search finds nothing else. -/
theorem isMatch_literal_iff {search : List Char} (literal : IsLiteral search)
    (whole : IsUnbroken text) : isMatch (around search) text = true ↔ Occurs search text := by
  have unbroken : IsUnbroken search := fun member => (literal _ member).2 rfl
  refine ⟨fun met => ?_, fun occurs => occurs.isMatch unbroken whole⟩
  rw [isMatch_iff, terminated_unbroken (around_unbroken unbroken), terminated_unbroken whole] at met
  obtain ⟨before, rest, rfl, fits⟩ := fits_around_iff.mp met
  obtain ⟨found, after, rfl, alike, -⟩ :=
    (fits_literal_iff fun c member => (literal c member).1).mp fits
  exact occurs_iff.mpr ⟨before, found, after, rfl, alike⟩

/-- A sign with every wildcard replaced by a letter. -/
def covered (c : Char) : Char := if c = '%' ∨ c = '_' then 'x' else c

/-- A text in which a search text does not occur that is not literal, although it is found. -/
def decoy (search : List Char) : List Char := (terminated search).map covered

theorem decoy_literal {search : List Char} : IsLiteral (decoy search) := by
  intro c member
  obtain ⟨d, among, rfl⟩ := List.mem_map.mp member
  have shown : d ≠ '\x00' := by simpa using List.mem_takeWhile_imp among
  unfold covered
  split
  next => exact ⟨⟨by decide, by decide⟩, by decide⟩
  next plain => exact ⟨not_or.mp plain, shown⟩

theorem decoy_unbroken (search : List Char) : IsUnbroken (decoy search) :=
  fun member => (decoy_literal _ member).2 rfl

theorem decoy_isMatch (search : List Char) : isMatch (around search) (decoy search) = true := by
  rw [isMatch_iff, terminated_unbroken (decoy_unbroken search)]
  have agree : List.Forall₂ (fun c d => IsPlain c → c.toLower = d.toLower) (terminated search)
      (decoy search) := by
    refine List.forall₂_map_right_iff.mpr (List.forall₂_same.mpr fun c _ plain => ?_)
    rw [covered, if_neg (not_or.mpr plain)]
  obtain ⟨tail, ended, fits⟩ : ∃ tail, terminated (search ++ ['%']) = terminated search ++ tail ∧
      Fits tail [] := by
    unfold terminated
    rw [List.takeWhile_append]
    split
    next whole =>
      rw [(List.takeWhile_sublist _).eq_of_length whole]
      exact ⟨['%'], rfl, fits_anything []⟩
    next => exact ⟨[], by simp, .done⟩
  show Fits ('%' :: terminated (search ++ ['%'])) _
  rw [ended]
  simpa using Fits.any [] (fits_agreeing agree fits)

theorem decoy_unoccurring {search : List Char} (occurs : Occurs search (decoy search)) :
    IsLiteral search := by
  intro c member
  obtain ⟨d, among, same⟩ := List.mem_map.mp (occurs.subset (List.mem_map_of_mem member))
  obtain ⟨⟨any, one⟩, shown⟩ := decoy_literal d among
  refine ⟨⟨?_, ?_⟩, ?_⟩ <;> rintro rfl
  · exact any ((toLower_eq_iff (by decide)).mp same)
  · exact one ((toLower_eq_iff (by decide)).mp same)
  · exact shown ((toLower_eq_iff (by decide)).mp same)

end Text.Pattern

/-! ### Customers -/

namespace Directory

open Text.Pattern

variable {search : String} {customer : Customer}

/-- The search text as a pattern fits the name or the address of a customer. -/
def Resembles (search : String) (customer : Customer) : Prop :=
  Fits (terminated (around search.toList)) (terminated customer.name.toList) ∨
    Fits (terminated (around search.toList)) (terminated customer.email.toList)

/-- The search text occurs in the name or in the address of a customer. -/
def IsNamed (search : String) (customer : Customer) : Prop :=
  Occurs search.toList customer.name.toList ∨ Occurs search.toList customer.email.toList

/-- There is no null character in the name and in the address of a customer. -/
def HasUnbrokenTexts (customer : Customer) : Prop :=
  IsUnbroken customer.name.toList ∧ IsUnbroken customer.email.toList

theorem isFound_iff : isFound search customer = true ↔ Resembles search customer := by
  unfold isFound Resembles
  rw [Bool.or_eq_true, isMatch_iff, isMatch_iff]

/-- Who is named by a search is found by it. -/
theorem IsNamed.resembles (named : IsNamed search customer) (unbroken : IsUnbroken search.toList)
    (whole : HasUnbrokenTexts customer) : Resembles search customer := by
  rw [← isFound_iff]
  unfold isFound
  rw [Bool.or_eq_true]
  exact named.imp (·.isMatch unbroken whole.1) (·.isMatch unbroken whole.2)

/-- Searches for literal texts are the only ones that find just those who are named. The others find
one who is called by the text with its wildcards replaced. -/
theorem resembles_literal_iff (filled : search ≠ "") :
    (∀ customer, HasUnbrokenTexts customer →
        (Resembles search customer ↔ IsNamed search customer)) ↔
      IsLiteral search.toList := by
  constructor
  · intro exact
    let stranger : Customer :=
      { (default : Customer) with name := String.ofList (decoy search.toList), email := "" }
    have name : stranger.name.toList = decoy search.toList := String.toList_ofList
    have whole : HasUnbrokenTexts stranger := by
      refine ⟨?_, by simp [IsUnbroken, stranger]⟩
      rw [name]
      exact decoy_unbroken _
    have found : Resembles search stranger := by
      refine .inl (isMatch_iff.mp ?_)
      rw [name]
      exact decoy_isMatch _
    rcases (exact stranger whole).mp found with inName | inEmail
    · rw [name] at inName
      exact decoy_unoccurring inName
    · have none : search.toList = [] := by simpa [Occurs, stranger] using inEmail
      exact absurd (String.toList_eq_nil_iff.mp none) filled
  · intro literal customer whole
    rw [← isFound_iff]
    unfold isFound IsNamed
    rw [Bool.or_eq_true, isMatch_literal_iff literal whole.1, isMatch_literal_iff literal whole.2]

end Directory

namespace Api

open Text.Pattern

/-- A search tells, in pages, exactly the customers whose name or address fits the search text as a
pattern. Everyone is among them in whom the text occurs, and nobody else as long as no sign of it is
a wildcard or a null character; with such a sign, there may be others. A text that is too long for a
pattern fails where there is a customer. -/
theorem search_paged {db : Database} (told : HasToldRows db) {size : Nat} (positive : 0 < size)
    {sought text : String} {order : Directory.SortOrder} (filled : sought ≠ "")
    (sorts : Directory.SortOrder.ofText? text = some order) :
    (db.customers.rows = [] ∨ isOversized (around sought.toList) = false →
      ∃ rows, rows.Sublist db.customers.rows ∧
        (∀ customer ∈ db.customers.rows,
          customer ∈ rows ↔ Directory.Resembles sought customer) ∧
        IsPaged db (fun page => .listCustomers ⟨page, some sought, text⟩) customersValue
          Customer.view? rows order.Precedes size) ∧
    (IsUnbroken sought.toList → ∀ customer, Directory.HasUnbrokenTexts customer →
      Directory.IsNamed sought customer → Directory.Resembles sought customer) ∧
    ((∀ customer, Directory.HasUnbrokenTexts customer →
        (Directory.Resembles sought customer ↔ Directory.IsNamed sought customer)) ↔
      IsLiteral sought.toList) ∧
    (db.customers.rows ≠ [] → isOversized (around sought.toList) = true →
      ∀ (page : PageRequest) (visit : Visit) (user : User),
        visit.Carries db user (.listCustomers ⟨page, some sought, text⟩) →
        (respond visit.environment db visit.request).response.status = 500) := by
  have given : nonempty? (some sought) = some sought := by simpa [nonempty?] using filled
  refine ⟨fun searchable => ?_, fun unbroken customer whole named =>
    named.resembles unbroken whole, Directory.resembles_literal_iff filled,
    fun someone oversized page visit user carries => ?_⟩
  · have canSearch : Directory.CanSearch (some sought) db.customers.rows := by
      intro other same
      cases given.symm.trans same
      exact searchable
    have paged := isPaged_customers told positive sorts canSearch
    rw [given] at paged
    refine ⟨_, List.filter_sublist, fun customer member => ?_, paged⟩
    rw [List.mem_filter]
    exact (and_iff_right member).trans Directory.isFound_iff
  · have ordered : Directory.orderOf text = .ok order := by
      unfold Directory.orderOf
      rw [sorts]
    have filled : db.customers.rows.isEmpty = false := by simpa using someone
    have broken := @Directory.list_oversized db ⟨page, some sought, text⟩ order sought ordered given
      oversized filled
    have failed : Action.perform visit.environment db user
        (.listCustomers ⟨page, some sought, text⟩) = .error (.failed .unforeseen) := by
      show tell 200 customersValue (Directory.list db ⟨page, some sought, text⟩) = _
      rw [broken]
      rfl
    exact respond_broken carries failed

/-! ### A search with a wildcard -/

namespace Sample

/-- The user looks for a text with an underscore. -/
def wildVisit : Visit := asking "/api/customers" "search=a_b"

theorem wildVisit_carries : wildVisit.Carries shelf user
    (.listCustomers ⟨⟨1, 10⟩, some "a_b", "-created_at"⟩) := by
  have parameters : wildVisit.request.parameters = [("search", "a_b")] := by
    cbv
  refine asking_carries rfl ⟨.listCustomers, [], by cbv, rfl, ?_⟩
  unfold wildVisit at parameters
  rw [parameters]
  rfl

theorem wild_listed : Directory.list shelf ⟨⟨1, 10⟩, some "a_b", "-created_at"⟩ =
    showPage shelf ⟨1, 10⟩ Customer.view? [loyalCustomer] := by
  have ordered : Directory.orderOf "-created_at" = .ok ⟨.createdAt, true⟩ := by
    unfold Directory.orderOf
    rw [created_descends]
  have found : Directory.found (some "a_b") shelf.customers.rows = .ok [loyalCustomer] := by
    rfl
  have sorted : Directory.SortOrder.sort ⟨.createdAt, true⟩ [loyalCustomer] = [loyalCustomer] :=
    List.mergeSort_singleton _
  unfold Directory.list
  rw [ordered, found]
  show showPage shelf ⟨1, 10⟩ Customer.view?
    (Directory.SortOrder.sort ⟨.createdAt, true⟩ [loyalCustomer]) = _
  rw [sorted]

end Sample

open Sample in
/-- The customer with the address a@b.cc is told by a search for a_b, in whose name and address this
text does not occur. -/
theorem unnamed_found :
    wildVisit.Carries shelf user (.listCustomers ⟨⟨1, 10⟩, some "a_b", "-created_at"⟩) ∧
    (∀ customer ∈ shelf.customers.rows, ¬ Directory.IsNamed "a_b" customer) ∧
    ∃ view, Customer.view? loyalCustomer = some view ∧
      (respond wildVisit.environment shelf wildVisit.request).response.content =
        .json (customersValue ⟨[view], 1, 1, 10⟩).toJson := by
  have named : ∀ customer ∈ shelf.customers.rows, ¬ Directory.IsNamed "a_b" customer := by
    show ∀ customer ∈ [loyalCustomer], _
    refine List.forall_mem_singleton.mpr ?_
    have sign : '_' ∈ "a_b".toList.map Char.toLower := by decide
    rintro (inName | inEmail)
    · exact absurd (inName.subset sign) (by decide)
    · exact absurd (inEmail.subset sign) (by decide)
  obtain ⟨view, shown, tellable⟩ := loyalCustomer_isSound.shown
  have performed : Action.perform environment shelf user
      (.listCustomers ⟨⟨1, 10⟩, some "a_b", "-created_at"⟩) =
      .ok ⟨shelf, some (success 200 (customersValue ⟨[view], 1, 1, 10⟩))⟩ := by
    show tell 200 customersValue (Directory.list shelf _) = _
    rw [wild_listed, showPage_eq shelf rfl (.cons shown .nil)]
    rfl
  have told := respond_success wildVisit_carries performed
    (isTellable_customersValue (List.forall_mem_singleton.mpr tellable))
  exact ⟨wildVisit_carries, named, view, shown, told.2.1⟩

open Sample in
/-- What is on the shelf is searched. -/
theorem shelf_searched :
    HasToldRows shelf ∧ 0 < 10 ∧ "a_b" ≠ "" ∧
    Directory.SortOrder.ofText? "-created_at" = some ⟨.createdAt, true⟩ ∧
    ∃ rows, (∀ customer ∈ shelf.customers.rows,
        customer ∈ rows ↔ Directory.Resembles "a_b" customer) ∧
      IsPaged shelf (fun page => .listCustomers ⟨page, some "a_b", "-created_at"⟩) customersValue
        Customer.view? rows (Directory.SortOrder.Precedes ⟨.createdAt, true⟩) 10 := by
  have short : isOversized (around "a_b".toList) = false := by decide
  obtain ⟨rows, -, exact, paged⟩ :=
    (@search_paged shelf shelf_told 10 (by decide) "a_b" "-created_at" _ (by decide)
      created_descends).1 (.inr short)
  exact ⟨shelf_told, by decide, by decide, created_descends, rows, exact, paged⟩

end Api

end Outreach
