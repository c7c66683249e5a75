import Outreach.Proofs.Json.Identity
import Outreach.Proofs.Json.Numeral

/-! JSON that is written and read again. The shortest text of a double is a numeral whose value is
rounded to this double, so doubles come back as they were, and with them every value that JSON has:
lists and mappings part by part, as long as they are not nested too deep, no whole number is too
long and no pair of units is split. -/

namespace Outreach

/-! ### Digits -/

/-- Digits that do not begin with zero are those of the number that they make. -/
theorem Text.digits_ofDigits {d : Nat} {rest : List Nat} (nonzero : d ≠ 0)
    (each : ∀ x ∈ d :: rest, x < 10) : digits (ofDigits (d :: rest)) = d :: rest := by
  induction rest using List.reverseRecOn with
  | nil =>
    have one : ofDigits [d] = d := by simp [ofDigits]
    rw [one, digits, if_pos (each d (List.mem_singleton_self d))]
  | append_singleton rest x ih =>
    rw [← List.cons_append, List.forall_mem_append] at each
    have before := ih each.1
    have small : x < 10 := each.2 x (List.mem_singleton_self x)
    have some : ofDigits (d :: rest) ≠ 0 := by
      intro none
      rw [none, digits, if_pos (by decide)] at before
      exact nonzero (List.cons.inj before).1.symm
    have quotient : (10 * ofDigits (d :: rest) + x) / 10 = ofDigits (d :: rest) := by omega
    have last : (10 * ofDigits (d :: rest) + x) % 10 = x := by omega
    rw [← List.cons_append, ofDigits_append_singleton, digits, if_neg (by omega), quotient, last,
      before]

namespace Json

/-- A digit as numerals keep it. -/
def finDigit (d : Nat) : Fin 10 := ⟨d % 10, Nat.mod_lt d (by decide)⟩

def finDigits (digits : List Nat) : List (Fin 10) := digits.map finDigit

theorem val_finDigits {digits : List Nat} (each : ∀ d ∈ digits, d < 10) :
    (finDigits digits).map Fin.val = digits := by
  rw [finDigits, List.map_map]
  exact (List.map_congr_left fun d member => Nat.mod_eq_of_lt (each d member)).trans
    (List.map_id _)

theorem finDigits_eq_nil {digits : List Nat} : finDigits digits = [] ↔ digits = [] :=
  List.map_eq_nil_iff

/-- Digits that are written for the number that they make. -/
def AreWritten (digits : List Nat) : Prop := Text.digits (Text.ofDigits digits) = digits

theorem areWritten_prefix {n : Nat} (some : n ≠ 0) {digits more : List Nat}
    (filled : digits ≠ []) (split : Text.digits n = digits ++ more) : AreWritten digits := by
  obtain ⟨d, rest, nonzero, first⟩ := digits_first some
  cases digits with
  | nil => exact absurd rfl filled
  | cons e others =>
    rw [first] at split
    obtain rfl : d = e := (List.cons.inj split).1
    refine Text.digits_ofDigits nonzero fun x member => Text.digits_lt n x ?_
    rw [first, split]
    exact List.mem_append_left more member

theorem areWritten_zero : AreWritten [0] := by
  show Text.digits 0 = [0]
  rw [Text.digits]
  rfl

/-! ### Numerals by their digits -/

namespace Power

/-- A power of ten in two digits or more, with its sign. -/
def ofInt (exponent : Int) : Power where
  capital := false
  sign := some (exponent < 0)
  first := finDigit ((Text.paddedDigits 2 exponent.natAbs).headD 0)
  others := finDigits (Text.paddedDigits 2 exponent.natAbs).tail

theorem digits_ofInt (exponent : Int) :
    (ofInt exponent).digits = Text.paddedDigits 2 exponent.natAbs := by
  have each := Text.padded_lt 2 exponent.natAbs
  have filled : Text.paddedDigits 2 exponent.natAbs ≠ [] :=
    List.append_ne_nil_of_right_ne_nil _ (Text.digits_ne_nil _)
  unfold digits ofInt
  dsimp only
  generalize Text.paddedDigits 2 exponent.natAbs = written at each filled ⊢
  cases written with
  | nil => exact absurd rfl filled
  | cons first others =>
    have same : finDigit first :: finDigits others = finDigits (first :: others) := rfl
    show (finDigit first :: finDigits others).map Fin.val = first :: others
    rw [same, val_finDigits each]

theorem value_ofInt (exponent : Int) : (ofInt exponent).value = exponent := by
  have signed : (ofInt exponent).sign = some (decide (exponent < 0)) := rfl
  unfold value
  rw [digits_ofInt, Text.ofDigits_padded, signed]
  by_cases negative : exponent < 0
  · rw [decide_eq_true negative, if_pos rfl]
    omega
  · rw [decide_eq_false negative, if_neg (by simp)]
    omega

theorem text_ofInt (exponent : Int) : (ofInt exponent).text =
    'e' :: (if exponent < 0 then '-' else '+') :: Text.padded 2 exponent.natAbs := by
  unfold text
  rw [digits_ofInt, Text.padded_eq]
  simp [ofInt, signText]

end Power

namespace Numeral

/-- A numeral with given digits before and behind the point. -/
def ofDigits (negative : Bool) (whole fraction : List Nat) (power : Option Power) : Numeral :=
  ⟨negative, Text.ofDigits whole, finDigits fraction, power⟩

section
variable {negative : Bool} {whole fraction : List Nat} {power : Option Power}
  (written : AreWritten whole) (each : ∀ d ∈ fraction, d < 10)

include each

theorem fractionDigits_ofDigits :
    (ofDigits negative whole fraction power).fractionDigits = fraction := val_finDigits each

theorem coefficient_ofDigits (written : AreWritten whole) :
    (ofDigits negative whole fraction power).coefficient = Text.ofDigits (whole ++ fraction) := by
  unfold coefficient
  rw [fractionDigits_ofDigits each]
  show Text.ofDigits (Text.digits (Text.ofDigits whole) ++ fraction) = _
  rw [written]

theorem unsignedText_ofDigits (written : AreWritten whole) :
    (ofDigits negative whole fraction power).unsignedText = whole.map Text.digitChar ++
      ((if fraction = [] then [] else '.' :: fraction.map Text.digitChar) ++
        (power.map Power.text).getD []) := by
  unfold unsignedText fractionText
  rw [fractionDigits_ofDigits each]
  have front : Text.ofNat (Text.ofDigits whole) = whole.map Text.digitChar :=
    congrArg (List.map Text.digitChar) written
  have none : (ofDigits negative whole fraction power).fraction = [] ↔ fraction = [] :=
    finDigits_eq_nil
  show Text.ofNat (Text.ofDigits whole) ++ _ = _
  rw [front]
  simp only [none]
  rfl

omit each in
theorem exponent_ofDigits : (ofDigits negative whole fraction power).exponent =
    (power.map Power.value).getD 0 - fraction.length := by
  unfold exponent
  show _ - ((finDigits fraction).length : Int) = _
  rw [finDigits, List.length_map]
  rfl

omit each in
theorem not_isWhole_ofDigits (parted : fraction ≠ [] ∨ power.isSome) :
    ¬ (ofDigits negative whole fraction power).IsWhole := by
  rintro ⟨none, alone⟩
  rcases parted with some | some
  · exact some (finDigits_eq_nil.mp none)
  · have alone : power.isNone = true := alone
    rw [Option.isNone_iff_eq_none.mp alone] at some
    cases some

end

/-- A numeral that is not taken for a whole number spells a value. -/
structure Spells (n : Numeral) (text : List Char) (value : ℚ) : Prop where
  fractional : ¬ n.IsWhole
  text : n.unsignedText = text
  value : (n.coefficient * 10 ^ n.exponent : ℚ) = value

end Numeral

/-! ### The layout of doubles -/

section
variable {c : Nat}

theorem zeros_text (count : Nat) :
    List.replicate count '0' = (List.replicate count 0).map Text.digitChar := by
  rw [List.map_replicate]
  rfl

theorem zeros_lt (count : Nat) : ∀ d ∈ List.replicate count 0, d < 10 := by
  intro d member
  rw [(List.mem_replicate.mp member).2]
  decide

/-- The digits of a number, zeros behind them, and a fraction of zero. -/
theorem spells_round (negative : Bool) (some : c ≠ 0) (zeros : Nat) :
    (Numeral.ofDigits negative (Text.digits c ++ List.replicate zeros 0) [0] none).Spells
      (Text.ofNat c ++ List.replicate zeros '0' ++ ['.', '0']) (c * 10 ^ (zeros : Int)) := by
  have each : ∀ d ∈ [0], d < 10 := zeros_lt 1
  have total : Text.ofDigits (Text.digits c ++ List.replicate zeros 0) = c * powerOfTen zeros := by
    have none := Text.ofDigits_zeros zeros []
    rw [List.append_nil] at none
    rw [Text.ofDigits_append, Text.ofDigits_digits, none, List.length_replicate, Text.ofDigits_nil,
      Nat.add_zero]
  have written : AreWritten (Text.digits c ++ List.replicate zeros 0) := by
    obtain ⟨d, rest, nonzero, first⟩ := digits_first some
    have lower : ∀ x ∈ d :: (rest ++ List.replicate zeros 0), x < 10 := by
      rw [← List.cons_append, ← first]
      exact List.forall_mem_append.mpr ⟨Text.digits_lt c, zeros_lt zeros⟩
    rw [first]
    exact Text.digits_ofDigits nonzero lower
  refine ⟨Numeral.not_isWhole_ofDigits (.inl (by simp)), ?_, ?_⟩
  · rw [Numeral.unsignedText_ofDigits each written, zeros_text]
    simp [Text.ofNat, Text.digitChar]
  · rw [Numeral.coefficient_ofDigits each written, Numeral.exponent_ofDigits,
      Text.ofDigits_append_singleton, total]
    push_cast
    rw [powerOfTen_cast, zpow_natCast]
    norm_num
    ring

/-- The digits of a number behind zero, a point and zeros. -/
theorem spells_small (negative : Bool) (c zeros : Nat) :
    (Numeral.ofDigits negative [0] (List.replicate zeros 0 ++ Text.digits c) none).Spells
      ('0' :: '.' :: List.replicate zeros '0' ++ Text.ofNat c)
      (c * 10 ^ (-((zeros : Int) + (Text.digits c).length))) := by
  have each : ∀ d ∈ List.replicate zeros 0 ++ Text.digits c, d < 10 :=
    List.forall_mem_append.mpr ⟨zeros_lt zeros, Text.digits_lt c⟩
  have filled : List.replicate zeros 0 ++ Text.digits c ≠ [] :=
    List.append_ne_nil_of_right_ne_nil _ (Text.digits_ne_nil c)
  refine ⟨Numeral.not_isWhole_ofDigits (.inl filled), ?_, ?_⟩
  · rw [Numeral.unsignedText_ofDigits each areWritten_zero, if_neg filled, zeros_text]
    simp [Text.ofNat, Text.digitChar]
  · have total : Text.ofDigits ([0] ++ (List.replicate zeros 0 ++ Text.digits c)) = c := by
      have joined : [0] ++ (List.replicate zeros 0 ++ Text.digits c) =
          List.replicate (zeros + 1) 0 ++ Text.digits c := by
        rw [List.replicate_succ]
        rfl
      rw [joined, Text.ofDigits_zeros, Text.ofDigits_digits]
    rw [Numeral.coefficient_ofDigits each areWritten_zero, Numeral.exponent_ofDigits, total]
    congr 2
    simp

/-- The digits of a number with a point between them. -/
theorem spells_between (negative : Bool) (some : c ≠ 0) {point : Nat} (positive : 0 < point)
    (inside : point < (Text.digits c).length) :
    (Numeral.ofDigits negative ((Text.digits c).take point) ((Text.digits c).drop point)
      none).Spells
      ((Text.ofNat c).take point ++ '.' :: (Text.ofNat c).drop point)
      (c * 10 ^ ((point : Int) - (Text.digits c).length)) := by
  have each : ∀ d ∈ (Text.digits c).drop point, d < 10 :=
    fun d member => Text.digits_lt c d (List.mem_of_mem_drop member)
  have split := (List.take_append_drop point (Text.digits c)).symm
  have front : (Text.digits c).take point ≠ [] := by
    intro none
    have length := congrArg List.length none
    rw [List.length_take, List.length_nil] at length
    omega
  have back : (Text.digits c).drop point ≠ [] := by
    intro none
    have length := congrArg List.length none
    rw [List.length_drop, List.length_nil] at length
    omega
  have written := areWritten_prefix some front split
  refine ⟨Numeral.not_isWhole_ofDigits (.inl back), ?_, ?_⟩
  · rw [Numeral.unsignedText_ofDigits each written, if_neg back]
    simp [Text.ofNat]
  · rw [Numeral.coefficient_ofDigits each written, Numeral.exponent_ofDigits,
      List.take_append_drop, Text.ofDigits_digits, List.length_drop]
    congr 2
    simp only [Option.map_none, Option.getD_none]
    omega

/-- The first digit of a number, a fraction with the others if there are any, and a power of ten. -/
theorem spells_power (negative : Bool) {d : Nat} {rest : List Nat} (nonzero : d ≠ 0)
    (first : Text.digits c = d :: rest) (exponent : Int) :
    (Numeral.ofDigits negative [d] rest (some (.ofInt exponent))).Spells
      (Text.digitChar d :: ((if rest = [] then [] else '.' :: rest.map Text.digitChar) ++
        'e' :: (if exponent < 0 then '-' else '+') :: Text.padded 2 exponent.natAbs))
      (c * 10 ^ (exponent - rest.length)) := by
  have lower : ∀ x ∈ d :: rest, x < 10 := first ▸ Text.digits_lt c
  obtain ⟨small, each⟩ := List.forall_mem_cons.mp lower
  have written : AreWritten [d] :=
    Text.digits_ofDigits nonzero (List.forall_mem_singleton.mpr small)
  refine ⟨Numeral.not_isWhole_ofDigits (.inr rfl), ?_, ?_⟩
  · rw [Numeral.unsignedText_ofDigits each written, Option.map_some, Option.getD_some,
      Power.text_ofInt]
    rfl
  · rw [Numeral.coefficient_ofDigits each written, Numeral.exponent_ofDigits, Option.map_some,
      Option.getD_some, Power.value_ofInt, List.singleton_append, ← first, Text.ofDigits_digits]

/-- However digits are laid out, a numeral with their value is written. -/
theorem exists_spelled (negative : Bool) (some : c ≠ 0) (power : Int) :
    ∃ n : Numeral, n.negative = negative ∧ n.Spells
      (Binary64.layout.write (Text.ofNat c) (power + (Text.ofNat c).length)) (c * 10 ^ power) := by
  obtain ⟨d, rest, nonzero, first⟩ := digits_first some
  have length : (Text.ofNat c).length = (Text.digits c).length := List.length_map ..
  have filled : 0 < (Text.digits c).length := List.length_pos_iff.mpr (Text.digits_ne_nil c)
  obtain ⟨place, placed⟩ : ∃ place, power + ((Text.digits c).length : Int) = place := ⟨_, rfl⟩
  unfold Binary64.Layout.write
  rw [length, placed]
  split
  next =>
    dsimp only
    unfold Decimal.pointed
    by_cases below : place ≤ 0
    · rw [if_pos below, if_neg (by omega)]
      have spells := spells_small negative c place.natAbs
      have same : -((place.natAbs : Int) + (Text.digits c).length) = power := by omega
      rw [same] at spells
      exact ⟨_, rfl, spells⟩
    rw [if_neg below, length]
    by_cases round : (Text.digits c).length ≤ place.natAbs
    · rw [if_pos round, if_pos (by omega)]
      have spells := spells_round negative some (place.natAbs - (Text.digits c).length)
      have same : ((place.natAbs - (Text.digits c).length : Nat) : Int) = power := by omega
      rw [same] at spells
      exact ⟨_, rfl, spells⟩
    · rw [if_neg round, if_neg (by omega)]
      have positive : 0 < place.natAbs := by omega
      have spells := spells_between negative some positive (Nat.not_le.mp round)
      have same : (place.natAbs : Int) - (Text.digits c).length = power := by omega
      rw [same] at spells
      exact ⟨_, rfl, spells⟩
  next =>
    have spells := spells_power negative nonzero first (place - 1)
    have count : (Text.digits c).length = rest.length + 1 := by rw [first, List.length_cons]
    have same : place - 1 - (rest.length : Int) = power := by omega
    have letters : Text.ofNat c = Text.digitChar d :: rest.map Text.digitChar := by
      rw [Text.ofNat, first]
      rfl
    rw [same] at spells
    rw [letters]
    refine ⟨_, rfl, spells.fractional, spells.text.trans ?_, spells.value⟩
    cases rest <;> rfl

end

/-! ### Doubles -/

/-- A finite double is written as a numeral that is read as this double. -/
theorem exists_numeral {x : Binary64} (finite : x.isFinite = true) :
    ∃ n : Numeral, n.text = x.toText ∧ ¬ n.IsWhole ∧ n.double = x := by
  cases x with
  | infinite | nan => cases finite
  | finite negative significand exponent canonical =>
    by_cases none : significand = 0
    · subst none
      have lowest : exponent = Binary64.leastExponent :=
        canonical.2.2.2.resolve_left (by decide)
      subst lowest
      have each : ∀ d ∈ [0], d < 10 := zeros_lt 1
      refine ⟨.ofDigits negative [0] [0] none, ?_,
        Numeral.not_isWhole_ofDigits (.inl (by simp)), ?_⟩
      · unfold Numeral.text
        rw [Numeral.unsignedText_ofDigits each areWritten_zero]
        rfl
      · unfold Numeral.double
        rw [Numeral.coefficient_ofDigits each areWritten_zero]
        rfl
    · obtain ⟨coefficient, power, shortest, rounds⟩ :=
        Binary64.shortestDigits_rounds none exponent
      have some : coefficient ≠ 0 := by
        rintro rfl
        have least := rounds.least none
        rw [Nat.cast_zero, zero_mul] at least
        exact absurd least (not_le.mpr (Binary64.quarter_pos exponent))
      obtain ⟨n, sign, fractional, spelled, value⟩ := exists_spelled negative some power
      refine ⟨n, ?_, fractional, ?_⟩
      · unfold Numeral.text Binary64.toText
        dsimp only
        rw [if_neg none, shortest, sign, spelled]
      · unfold Numeral.double
        rw [← value] at rounds
        rw [rounds.ofDecimal_eq canonical none, sign]

/-! ### Words -/

/-- A word that stands for a value is read as this value. -/
theorem readsAs_word (height : Nat) {word : String × Value} (member : word ∈ words) :
    ReadsAs word.1.toList word.2 height := by
  have begins : ∀ word ∈ words, ∃ first others, word.1.toList = first :: others ∧
      isBlank first = false ∧ first ≠ '\x22' ∧ first ≠ '\x7b' ∧ first ≠ '[' := by
    simp only [words, List.forall_mem_cons]
    refine ⟨?_, ?_, ?_, ?_, ?_, ?_, List.forall_mem_nil _⟩ <;>
      exact ⟨_, _, rfl, by decide, by decide, by decide, by decide⟩
  have found : ∀ word ∈ words, ∀ rest place, wordAt? ⟨word.1.toList ++ rest, place⟩ =
      some (word.2, ⟨rest, place + word.1.toList.length⟩) := by
    simp only [words, List.forall_mem_cons]
    refine ⟨?_, ?_, ?_, ?_, ?_, ?_, List.forall_mem_nil _⟩ <;> exact fun _ _ => rfl
  obtain ⟨first, others, written, unblank, plain⟩ := begins word member
  refine ⟨⟨first, others, written, unblank⟩, fun {levels depth} place {rest} _ _ _ => ?_⟩
  have named := found word member rest place
  rw [written] at named ⊢
  rw [List.cons_append] at named ⊢
  rw [readValue_plain plain, named]

/-- A double is read as it was, whether it is finite or not. -/
theorem readsAs_float (x : Binary64) (height : Nat) :
    ReadsAs (writeFloat x) (.float x) height := by
  cases finite : x.isFinite with
  | true =>
    obtain ⟨n, written, fractional, double⟩ := exists_numeral finite
    have short : ¬ n.IsLong := fun long => fractional long.1
    have reads := Numeral.readsAs_text short height
    rw [Numeral.decoded, if_neg fractional, double, written] at reads
    cases x with
    | finite => exact reads
    | infinite | nan => cases finite
  | false =>
    cases x with
    | finite => cases finite
    | nan =>
      have among : ("NaN", Value.float .nan) ∈ words := by simp [words]
      exact readsAs_word height among
    | infinite negative =>
      have among : ("Infinity", Value.float (.infinite false)) ∈ words ∧
        ("-Infinity", Value.float (.infinite true)) ∈ words := by simp [words]
      cases negative
      · exact readsAs_word height among.1
      · exact readsAs_word height among.2

/-! ### Lists -/

theorem ReadsAs.mono {text : List Char} {value : Value} {height more : Nat}
    (reads : ReadsAs text value height) (least : height ≤ more) : ReadsAs text value more where
  begins := reads.begins
  read place _ enough high ends := reads.read place enough (Nat.le_trans least high) ends

/-- The items of a list, separated by commas, and its end. -/
def itemsText (texts : List (List Char)) : List Char := [','].intercalate texts ++ [']']

section
variable {height : Nat}

theorem itemsText_single (text : List Char) : itemsText [text] = text ++ [']'] := by
  simp [itemsText]

theorem itemsText_cons (text next : List Char) (later : List (List Char)) :
    itemsText (text :: next :: later) = text ++ ',' :: itemsText (next :: later) := by
  simp [itemsText, List.intercalate]

/-- Items begin with no blank. -/
theorem skipBlanks_items {text : List Char} {item : Value} (reads : ReadsAs text item height)
    (later : List (List Char)) (rest : List Char) (place : Nat) :
    (Cursor.mk (itemsText (text :: later) ++ rest) place).skipBlanks =
      ⟨itemsText (text :: later) ++ rest, place⟩ := by
  cases later with
  | nil =>
    rw [itemsText_single, List.append_assoc]
    exact reads.skipBlanks _ place
  | cons next others =>
    rw [itemsText_cons, List.append_assoc]
    exact reads.skipBlanks _ place

/-- How a list goes on after an item. -/
def afterItem (levels depth : Nat) (items : List Value) (c : Cursor) :
    Except Failure (Value × Cursor) :=
  match c.rest with
  | ']' :: _ => .ok (.list items, c.skip 1)
  | ',' :: _ => readItems levels depth items (c.skip 1).skipBlanks
  | _ => c.fail

theorem readItems_item {text : List Char} {item : Value} (reads : ReadsAs text item height)
    {levels depth : Nat} (high : height ≤ depth) (seen : List Value) (place : Nat)
    {rest : List Char} (enough : text.length ≤ levels) (ends : EndsValue rest) :
    readItems (levels + 1) depth seen ⟨text ++ rest, place⟩ =
      afterItem levels depth (seen ++ [item]) ⟨rest, place + text.length⟩ := by
  rw [readItems]
  show (readValue levels depth ⟨text ++ rest, place⟩).bind _ = _
  rw [reads.read_within place enough high ends]
  show afterItem levels depth (seen ++ [item]) (Cursor.mk rest _).skipBlanks = _
  rw [skipBlanks_ends _ ends]

/-- The items are read one after the other. What was seen before them stays in front. -/
theorem readItems_written {texts : List (List Char)} {items seen : List Value}
    (each : List.Forall₂ (fun text item => ReadsAs text item height) texts items)
    {levels depth : Nat} (high : height ≤ depth) (filled : texts ≠ []) (place : Nat)
    (rest : List Char) (enough : (itemsText texts).length ≤ levels) :
    readItems levels depth seen ⟨itemsText texts ++ rest, place⟩ =
      .ok (.list (seen ++ items), ⟨rest, place + (itemsText texts).length⟩) := by
  induction each generalizing levels seen place with
  | nil => exact absurd rfl filled
  | @cons text item texts items reads later ih =>
    cases later with
    | nil =>
      rw [itemsText_single, List.length_append, List.length_singleton] at enough
      obtain ⟨levels, rfl⟩ : ∃ more, levels = more + 1 :=
        Nat.exists_eq_succ_of_ne_zero (by omega)
      have ends : EndsValue (']' :: rest) := by simp [EndsValue]
      rw [itemsText_single, List.append_assoc, List.singleton_append,
        readItems_item reads high seen place (by omega) ends, List.length_append]
      rfl
    | @cons next value others values nextReads more =>
      have length : (itemsText (text :: next :: others)).length =
          text.length + 1 + (itemsText (next :: others)).length := by
        rw [itemsText_cons, List.length_append, List.length_cons]
        omega
      obtain ⟨levels, rfl⟩ : ∃ more, levels = more + 1 :=
        Nat.exists_eq_succ_of_ne_zero (by omega)
      have ends : EndsValue (',' :: (itemsText (next :: others) ++ rest)) := by simp [EndsValue]
      have others_read := @ih (seen ++ [item]) levels (List.cons_ne_nil _ _)
        (place + text.length + 1) (by omega)
      rw [itemsText_cons, List.append_assoc, List.cons_append,
        readItems_item reads high seen place (by omega) ends]
      show readItems levels depth (seen ++ [item]) (Cursor.mk
        (itemsText (next :: others) ++ rest) (place + text.length + 1)).skipBlanks = _
      rw [skipBlanks_items nextReads, others_read, ← itemsText_cons, length, List.append_assoc,
        List.singleton_append]
      congr 3
      omega

/-- No value begins with the bracket that ends a list. -/
theorem ReadsAs.opens {text : List Char} {value : Value} (reads : ReadsAs text value height) :
    ∃ first rest, text = first :: rest ∧ isBlank first = false ∧ first ≠ ']' := by
  obtain ⟨first, others, rfl, unblank⟩ := reads.begins
  refine ⟨first, others, rfl, unblank, ?_⟩
  rintro rfl
  have ends : EndsValue [] := by rintro c ⟨⟩
  have read := reads.read 0 (Nat.le_succ _) (Nat.le_refl height) ends
  have unnamed : wordAt? ⟨']' :: (others ++ []), 0⟩ = none := by
    simp [wordAt?, words, List.isPrefixOf]
  rw [List.cons_append, readValue_unquoted (by decide) _ _ _ _ unnamed, if_neg (by decide),
    if_neg (by simp)] at read
  cases read

theorem readValue_bracket {first : Char} (other : first ≠ ']') (unblank : isBlank first = false)
    (tail : List Char) (levels depth place : Nat) :
    readValue (levels + 1) (depth + 1) ⟨'[' :: first :: tail, place⟩ =
      readItems levels depth [] ⟨first :: tail, place + 1⟩ := by
  have skipped : ((Cursor.mk ('[' :: first :: tail) place).skip 1).skipBlanks =
      ⟨first :: tail, place + 1⟩ := skipBlanks_unblank (place + 1) unblank
  rw [readValue]
  dsimp only
  split
  next same => cases same
  next same => cases same
  next same => cases same
  next =>
    rw [if_neg (Nat.succ_ne_zero depth), skipped]
    dsimp only
    split
    next same => exact absurd (List.cons.inj same).1 other
    next => rfl
  next plain same => exact absurd (List.cons.inj same).1.symm plain

theorem readsAs_list {texts : List (List Char)} {items : List Value}
    (each : List.Forall₂ (fun text item => ReadsAs text item height) texts items) :
    ReadsAs ('[' :: itemsText texts) (.list items) (height + 1) where
  begins := ⟨_, _, rfl, rfl⟩
  read {levels depth} place {rest} enough high _ := by
    obtain ⟨depth, rfl⟩ : ∃ more, depth = more + 1 := Nat.exists_eq_succ_of_ne_zero (by omega)
    cases each with
    | nil => rfl
    | @cons text item texts items reads later =>
      obtain ⟨first, others, begun, unblank, other⟩ := reads.opens
      obtain ⟨tail, starts⟩ : ∃ tail, itemsText (text :: texts) ++ rest = first :: tail := by
        cases texts with
        | nil => exact ⟨_, by rw [itemsText_single, begun]; rfl⟩
        | cons next more => exact ⟨_, by rw [itemsText_cons, begun]; rfl⟩
      have read := @readItems_written height _ _ [] (.cons reads later) levels depth
        (Nat.le_of_succ_le_succ high) (List.cons_ne_nil _ _) (place + 1) rest
        (Nat.le_of_succ_le_succ enough)
      rw [List.nil_append, starts] at read
      rw [List.cons_append, starts, readValue_bracket other unblank, read, List.length_cons,
        Nat.add_assoc, Nat.add_comm 1]

end

/-! ### Documents -/

/-- Every whole number in a value has few enough digits to be written and to be read. -/
def HasShortNumbers (value : Value) : Prop :=
  ∀ n, Value.IsPart (.int n) value → (Text.digits n.natAbs).length ≤ maxDigits

/-- In no text of a value the two halves of a pair stand one behind the other. JSON has no text that
would be read so. -/
def HasUnsplitTexts (value : Value) : Prop :=
  ∀ letters, Value.IsPart (.text letters) value → IsUnsplit letters.toList

theorem HasShortNumbers.part {part whole : Value} (short : HasShortNumbers whole)
    (held : Value.IsPart part whole) : HasShortNumbers part :=
  fun n inside => short n (inside.trans held)

theorem HasUnsplitTexts.part {part whole : Value} (unsplit : HasUnsplitTexts whole)
    (held : Value.IsPart part whole) : HasUnsplitTexts part :=
  fun letters inside => unsplit letters (inside.trans held)

theorem hasUnsplitTexts_text {letters : String} (unsplit : IsUnsplit letters.toList) :
    HasUnsplitTexts (.text letters) := by
  intro inner held
  cases held with
  | whole => exact unsplit
  | inside impossible _ => cases impossible

theorem hasUnsplitTexts_int (n : Int) : HasUnsplitTexts (.int n) := by
  intro letters held
  cases held with
  | inside impossible _ => cases impossible

theorem hasUnsplitTexts_empty : HasUnsplitTexts (.dict []) := by
  intro letters held
  cases held with
  | inside direct _ =>
    cases direct with
    | key among => cases among
    | entry among => cases among

theorem hasUnsplitTexts_list {items : List Value} (each : ∀ item ∈ items, HasUnsplitTexts item) :
    HasUnsplitTexts (.list items) := by
  intro letters held
  cases held with
  | inside direct below =>
    cases direct with
    | list among => exact each _ among letters below

theorem HasUnsplitTexts.put {entries : List (Value × Value)} {key : String} {item : Value}
    (unsplit : HasUnsplitTexts (.dict entries)) (named : IsUnsplit key.toList)
    (added : HasUnsplitTexts item) : HasUnsplitTexts (.dict (put entries key item)) := by
  intro letters held
  cases held with
  | inside direct below =>
    cases direct with
    | key among =>
      rcases mem_put among with ⟨old, member, same, -⟩ | rfl
      · rw [same] at below
        exact unsplit letters (.inside (.key member) below)
      · exact hasUnsplitTexts_text named letters below
    | entry among =>
      rcases mem_put among with ⟨old, member, -, kept | replaced⟩ | rfl
      · rw [kept] at below
        exact unsplit letters (.inside (.entry member) below)
      · rw [replaced] at below
        exact added letters below
      · exact added letters below

theorem depth_le_depthOf {item : Value} {items : List Value} (member : item ∈ items) :
    item.depth ≤ Value.depthOf items := by
  induction member with
  | head rest => exact Nat.le_max_left ..
  | tail other _ ih => exact Nat.le_trans ih (Nat.le_max_right ..)

theorem depth_le_entryDepth {entry : Value × Value} {entries : List (Value × Value)}
    (member : entry ∈ entries) : entry.2.depth ≤ Value.entryDepth entries := by
  induction member with
  | head rest => exact Nat.le_trans (Nat.le_max_right ..) (Nat.le_max_left ..)
  | tail other _ ih => exact Nat.le_trans ih (Nat.le_max_right ..)

/-- A value is written as a text that is read as this value. -/
def IsReread (height : Nat) (value : Value) : Prop :=
  ∃ text, write? value = some text ∧ ReadsAs text value height

section
variable {height : Nat}

theorem isReread_list {items : List Value} (each : ∀ item ∈ items, IsReread height item) :
    IsReread (height + 1) (.list items) := by
  obtain ⟨texts, written, reads⟩ : ∃ texts, writeItems? items = some texts ∧
      List.Forall₂ (fun text item => ReadsAs text item height) texts items := by
    induction items with
    | nil => exact ⟨[], rfl, .nil⟩
    | cons item rest ih =>
      obtain ⟨⟨text, written, reads⟩, later⟩ := List.forall_mem_cons.mp each
      obtain ⟨texts, others, readsOthers⟩ := ih later
      refine ⟨text :: texts, ?_, .cons reads readsOthers⟩
      rw [writeItems?, written, others]
      rfl
  refine ⟨_, ?_, readsAs_list reads⟩
  rw [write?, written]
  simp [itemsText]

theorem isReread_dict {entries : List (Value × Value)}
    (keys : ∀ entry ∈ entries, ∃ letters, entry.1 = .text letters ∧ IsUnsplit letters.toList)
    (apart : (entries.map Prod.fst).Nodup) (each : ∀ entry ∈ entries, IsReread height entry.2) :
    IsReread (height + 1) (.dict entries) := by
  obtain ⟨told, same⟩ : ∃ told : List (Told height), told.map Told.read = entries := by
    clear apart
    induction entries with
    | nil => exact ⟨[], rfl⟩
    | cons entry rest ih =>
      obtain ⟨⟨letters, named, unsplit⟩, laterKeys⟩ := List.forall_mem_cons.mp keys
      obtain ⟨⟨text, written, reads⟩, later⟩ := List.forall_mem_cons.mp each
      obtain ⟨told, same⟩ := ih laterKeys later
      refine ⟨⟨letters, entry.2, text, unsplit, written, reads⟩ :: told, ?_⟩
      rw [List.map_cons, same, Told.read, ← named]
  subst same
  refine ⟨_, write?_dict told, readsAs_dict ?_⟩
  have named : (told.map Told.read).map Prod.fst = (told.map Told.key).map Value.text := by
    rw [List.map_map, List.map_map]
    rfl
  rw [named] at apart
  exact apart.of_map _

end

/-- A document is written and read again as it was, up to the depth that it has. -/
theorem isReread {value : Value} (json : IsJson value) (apart : KeysApart value)
    (unsplit : HasUnsplitTexts value) (short : HasShortNumbers value) :
    IsReread value.depth value := by
  induction json with
  | null => exact ⟨_, rfl, readsAs_word 0 (by simp [words] : ("null", Value.null) ∈ words)⟩
  | bool b =>
    cases b
    · exact ⟨_, rfl, readsAs_word 0 (by simp [words] : ("false", Value.bool false) ∈ words)⟩
    · exact ⟨_, rfl, readsAs_word 0 (by simp [words] : ("true", Value.bool true) ∈ words)⟩
  | int n => exact ⟨_, write?_int (short n .whole), readsAs_int (short n .whole) 0⟩
  | float x => exact ⟨_, rfl, readsAs_float x 0⟩
  | text letters => exact ⟨_, rfl, readsAs_text (unsplit letters .whole) 0⟩
  | list each ih =>
    refine isReread_list fun item member => ?_
    have held : Value.IsPart item (.list _) := .inside (.list member) .whole
    obtain ⟨text, written, reads⟩ :=
      ih item member (apart.part held) (unsplit.part held) (short.part held)
    exact ⟨text, written, reads.mono (depth_le_depthOf member)⟩
  | dict keys each ih =>
    refine isReread_dict (fun entry member => ?_) (apart _ .whole) fun entry member => ?_
    · obtain ⟨letters, named⟩ := keys entry member
      refine ⟨letters, named, unsplit letters ?_⟩
      exact named ▸ .inside (.key member) .whole
    · have held : Value.IsPart entry.2 (.dict _) := .inside (.entry member) .whole
      obtain ⟨text, written, reads⟩ :=
        ih entry member (apart.part held) (unsplit.part held) (short.part held)
      exact ⟨text, written, reads.mono (depth_le_entryDepth member)⟩

/-! ### What is written -/

theorem write?_of_mem_items {items : List Value} {texts : List (List Char)}
    (written : writeItems? items = some texts) {item : Value} (member : item ∈ items) :
    ∃ text, write? item = some text := by
  induction items generalizing texts with
  | nil => cases member
  | cons first rest ih =>
    rw [writeItems?] at written
    obtain ⟨text, here, later⟩ := Option.bind_eq_some_iff.mp written
    obtain ⟨others, left, -⟩ := Option.bind_eq_some_iff.mp later
    rcases List.mem_cons.mp member with rfl | further
    · exact ⟨text, here⟩
    · exact ih left further

theorem write?_of_mem_entries {entries : List (Value × Value)} {texts : List (List Char)}
    (written : writeEntries? entries = some texts) {entry : Value × Value}
    (member : entry ∈ entries) : ∃ text, write? entry.2 = some text := by
  induction entries generalizing texts with
  | nil => cases member
  | cons first rest ih =>
    rw [writeEntries?] at written
    obtain ⟨name, -, later⟩ := Option.bind_eq_some_iff.mp written
    obtain ⟨text, here, more⟩ := Option.bind_eq_some_iff.mp later
    obtain ⟨others, left, -⟩ := Option.bind_eq_some_iff.mp more
    rcases List.mem_cons.mp member with rfl | further
    · exact ⟨text, here⟩
    · exact ih left further

/-- Nothing is written that holds a whole number of too many digits. -/
theorem hasShortNumbers_of_write? {value : Value} (json : IsJson value) {text : List Char}
    (written : write? value = some text) : HasShortNumbers value := by
  intro n held
  induction held generalizing text with
  | whole =>
    rw [write?, intText?] at written
    split at written
    next => cases written
    next short => exact Nat.not_lt.mp short
  | @inside member whole direct below ih =>
    cases direct with
    | list among =>
      rw [write?] at written
      obtain ⟨texts, each, -⟩ := Option.map_eq_some_iff.mp written
      obtain ⟨_, here⟩ := write?_of_mem_items each among
      exact ih (json.member (.list among)) here
    | entry among =>
      rw [write?] at written
      obtain ⟨texts, each, -⟩ := Option.map_eq_some_iff.mp written
      obtain ⟨_, here⟩ := write?_of_mem_entries each among
      exact ih (json.member (.entry among)) here
    | key among =>
      cases json with
      | dict keys _ =>
        obtain ⟨letters, named⟩ := keys _ among
        rw [named] at below
        cases below with
        | inside impossible _ => cases impossible
    | tuple => cases json
    | set => cases json
    | leaf => cases json
    | child => cases json

end Json

end Outreach
