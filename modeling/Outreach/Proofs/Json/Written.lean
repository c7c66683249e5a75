import Mathlib.Data.List.Basic
import Mathlib.Data.List.Chain
import Outreach.Json.Reader
import Outreach.Json.Writer
import Outreach.Proofs.Text.Integer

/-! What was written as JSON is read again. Each part of the text is read back wherever it stands
and whatever follows it; a mapping comes back if each of its values does and its keys are texts
without repetition. A text comes back unless the two halves of a pair stand in it one behind the
other, which are read as the character that the pair makes. -/

namespace Outreach.Json

/-! ### Strings -/

theorem hexUnit?_hexDigit {a b c d : Nat} (first : a < 16) (second : b < 16) (third : c < 16)
    (fourth : d < 16) :
    hexUnit? (Text.hexDigit a) (Text.hexDigit b) (Text.hexDigit c) (Text.hexDigit d) =
      some (((a * 16 + b) * 16 + c) * 16 + d) := by
  have one := Text.hexValue?_hexDigit ⟨a, first⟩
  have two := Text.hexValue?_hexDigit ⟨b, second⟩
  have three := Text.hexValue?_hexDigit ⟨c, third⟩
  have four := Text.hexValue?_hexDigit ⟨d, fourth⟩
  dsimp only at one two three four
  unfold hexUnit?
  rw [one, two, three, four]
  rfl

section
variable {opening place : Nat} {rest : List Char} {pieces : List Piece} {cursor : Cursor}

theorem stringPieces_unit {unit : Nat} (small : unit < 0x10000) {next : Char}
    (later : stringPieces opening (next :: rest) (place + 6) = .ok (pieces, cursor)) :
    stringPieces opening (unitText unit ++ next :: rest) place =
      .ok (.unit unit :: pieces, cursor) := by
  have written : unitText unit ++ next :: rest = '\\' :: 'u' ::
      Text.hexDigit (unit / 16 / 16 / 16 % 16) :: Text.hexDigit (unit / 16 / 16 % 16) ::
        Text.hexDigit (unit / 16 % 16) :: Text.hexDigit (unit % 16) :: next :: rest := rfl
  have read := hexUnit?_hexDigit (a := unit / 16 / 16 / 16 % 16) (b := unit / 16 / 16 % 16)
    (c := unit / 16 % 16) (d := unit % 16) (by omega) (by omega) (by omega) (by omega)
  have same : ((unit / 16 / 16 / 16 % 16 * 16 + unit / 16 / 16 % 16) * 16 + unit / 16 % 16) * 16 +
      unit % 16 = unit := by omega
  rw [written, stringPieces, read, same]
  dsimp only
  rw [later]
  rfl

theorem stringPieces_escape {c letter : Char} (escape : simpleEscape? letter = some c)
    (later : stringPieces opening rest (place + 2) = .ok (pieces, cursor)) :
    stringPieces opening ('\\' :: letter :: rest) place = .ok (.char c :: pieces, cursor) := by
  have other : letter ≠ 'u' := by
    rintro rfl
    cases escape
  rw [stringPieces, escape]
  · dsimp only
    rw [later]
    rfl
  · rintro _ _ _ _ _ _ rfl
    exact absurd rfl other
  · rintro rfl
    exact absurd rfl other

theorem stringPieces_plain {c : Char} (noQuote : c ≠ '\x22') (noEscape : c ≠ '\\')
    (shown : 0x20 ≤ c.toNat)
    (later : stringPieces opening rest (place + 1) = .ok (pieces, cursor)) :
    stringPieces opening (c :: rest) place = .ok (.char c :: pieces, cursor) := by
  rw [stringPieces]
  · rw [if_neg noQuote, if_neg (by omega), later]
    rfl
  all_goals
    intros
    exact noEscape ‹_›

end

/-- A unit that begins no pair stands for a character of its own. -/
theorem joinPieces_single {unit : Nat} (single : Text.isHighUnit unit = false)
    (later : List Piece) :
    joinPieces (.unit unit :: later) = Text.ofUnit unit :: joinPieces later := by
  cases later with
  | nil => rfl
  | cons piece rest =>
    cases piece with
    | char c => rfl
    | unit low =>
      rw [joinPieces, if_neg (by simp [single])]

theorem joinPieces_pair {high low : Nat} (first : Text.isHighUnit high = true)
    (second : Text.isLowUnit low = true) (later : List Piece) :
    joinPieces (.unit high :: .unit low :: later) = Text.ofPair high low :: joinPieces later := by
  rw [joinPieces, if_pos (by simp [first, second])]

theorem isHighUnit_small {unit : Nat} (high : Text.isHighUnit unit = true) : unit < 0x10000 := by
  simp only [Text.isHighUnit, Bool.and_eq_true, decide_eq_true_eq] at high
  omega

theorem isLowUnit_small {unit : Nat} (low : Text.isLowUnit unit = true) : unit < 0x10000 := by
  simp only [Text.isLowUnit, Bool.and_eq_true, decide_eq_true_eq] at low
  omega

/-- No character is half of a pair. -/
theorem unit_single (c : Char) :
    Text.isHighUnit c.toNat = false ∧ Text.isLowUnit c.toNat = false := by
  have valid := c.valid
  simp only [UInt32.isValidChar, Nat.isValidChar] at valid
  have same : c.toNat = c.val.toNat := rfl
  simp only [Text.isHighUnit, Text.isLowUnit, Bool.and_eq_false_iff, decide_eq_false_iff_not]
  omega

theorem ofUnit_toNat (c : Char) : Text.ofUnit c.toNat = c := by
  obtain ⟨high, low⟩ := unit_single c
  rw [Text.ofUnit, high, low]
  exact Char.ofNat_toNat c

theorem toNat_lt (c : Char) : c.toNat < 0x110000 := by
  have valid := c.valid
  simp only [UInt32.isValidChar, Nat.isValidChar] at valid
  have same : c.toNat = c.val.toNat := rfl
  omega

/-- The first unit of the pair that a character beyond the first plane makes. -/
def highUnit (c : Char) : Nat := 0xd800 + (c.toNat - 0x10000) / 0x400

def lowUnit (c : Char) : Nat := 0xdc00 + (c.toNat - 0x10000) % 0x400

theorem isHighUnit_highUnit (c : Char) : Text.isHighUnit (highUnit c) = true := by
  have bounds : 0xd800 ≤ highUnit c ∧ highUnit c < 0xdc00 := by
    have := toNat_lt c
    unfold highUnit
    omega
  simpa [Text.isHighUnit] using bounds

theorem isLowUnit_lowUnit (c : Char) : Text.isLowUnit (lowUnit c) = true := by
  have bounds : 0xdc00 ≤ lowUnit c ∧ lowUnit c < 0xe000 := by
    unfold lowUnit
    omega
  simpa [Text.isLowUnit] using bounds

theorem ofPair_units {c : Char} (beyond : 0x10000 ≤ c.toNat) :
    Text.ofPair (highUnit c) (lowUnit c) = c := by
  have same : 0x10000 + (highUnit c - 0xd800) * 0x400 + (lowUnit c - 0xdc00) = c.toNat := by
    unfold highUnit lowUnit
    omega
  rw [Text.ofPair, same]
  exact Char.ofNat_toNat c

/-- What stands in for a half of a pair is what the half is read as. -/
theorem ofUnit_half {c : Char} {unit : Nat} (half : Text.half? c = some unit) :
    (Text.isHighUnit unit || Text.isLowUnit unit) = true ∧ Text.ofUnit unit = c := by
  unfold Text.half? at half
  dsimp only at half
  split at half
  next stands =>
    obtain rfl := Option.some.inj half
    refine ⟨stands.2, ?_⟩
    rw [Text.ofUnit, if_pos stands.2, Nat.add_sub_cancel' stands.1]
    exact Char.ofNat_toNat c
  next => cases half

/-- The ways to write a character into a string. -/
inductive Escapes (c : Char) : List Char → Prop where
  | letter {letter : Char} (stands : simpleEscape? letter = some c) : Escapes c ['\\', letter]
  | plain (noQuote : c ≠ '\x22') (noEscape : c ≠ '\\') (shown : 0x20 ≤ c.toNat) : Escapes c [c]
  | unit (small : c.toNat < 0x10000) : Escapes c (unitText c.toNat)
  | half {unit : Nat} (half : Text.half? c = some unit) : Escapes c (unitText unit)
  | pair (beyond : 0x10000 ≤ c.toNat) : Escapes c (unitText (highUnit c) ++ unitText (lowUnit c))

theorem escapes_escaped (c : Char) : Escapes c (escaped c) := by
  unfold escaped
  split
  next sign =>
    refine .letter (if_pos ?_)
    exact sign.imp_right Or.inl
  next sign =>
  split
  next same => exact .letter (by rw [same]; rfl)
  split
  next same => exact .letter (by rw [same]; rfl)
  split
  next same => exact .letter (by rw [same]; rfl)
  split
  next same => exact .letter (by rw [same]; rfl)
  split
  next same => exact .letter (by rw [same]; rfl)
  split
  next shown => exact .plain (fun same => sign (.inl same)) (fun same => sign (.inr same)) shown.1
  split
  next small => exact .unit small
  next beyond =>
  split
  next unit half => exact .half half
  next => exact .pair (by omega)

/-- The low half that pieces begin with, if they begin with one. -/
def leadingLow? : List Piece → Option Nat
  | .unit unit :: _ => if Text.isLowUnit unit then some unit else none
  | _ => none

theorem isLowUnit_of_high {unit : Nat} (high : Text.isHighUnit unit = true) :
    Text.isLowUnit unit = false := by
  simp only [Text.isHighUnit, Text.isLowUnit, Bool.and_eq_true, decide_eq_true_eq,
    Bool.and_eq_false_iff, decide_eq_false_iff_not] at high ⊢
  omega

/-- A unit stands for a character of its own unless it is joined with the low half behind it. -/
theorem joinPieces_apart {unit : Nat} {later : List Piece}
    (apart : ∀ low, leadingLow? later = some low → Text.isHighUnit unit = false) :
    joinPieces (.unit unit :: later) = Text.ofUnit unit :: joinPieces later := by
  cases high : Text.isHighUnit unit with
  | false => exact joinPieces_single high later
  | true =>
    cases later with
    | nil => rfl
    | cons piece rest =>
      cases piece with
      | char c => rfl
      | unit low =>
        have other : Text.isLowUnit low = false := by
          by_contra isLow
          rw [Bool.not_eq_false] at isLow
          cases high.symm.trans (apart low (if_pos isLow))
        rw [joinPieces, if_neg (by simp [other])]

/-- A character is read back from what was written for it, unless it stands in for a high half and
the low half follows: the two would be joined. -/
theorem stringPieces_escaped {c : Char} {opening place : Nat} {next : Char} {rest : List Char}
    {pieces : List Piece} {cursor : Cursor}
    (apart : ∀ high low, Text.half? c = some high → leadingLow? pieces = some low →
      Text.isHighUnit high = false)
    (later : stringPieces opening (next :: rest) (place + (escaped c).length) =
      .ok (pieces, cursor)) :
    ∃ more, stringPieces opening (escaped c ++ next :: rest) place = .ok (more, cursor) ∧
      joinPieces more = c :: joinPieces pieces ∧
      ∀ low, leadingLow? more = some low → Text.half? c = some low := by
  have written := escapes_escaped c
  generalize escaped c = signs at written later ⊢
  cases written with
  | letter stands => exact ⟨_, stringPieces_escape stands later, rfl, by rintro _ ⟨⟩⟩
  | plain noQuote noEscape shown =>
    exact ⟨_, stringPieces_plain noQuote noEscape shown later, rfl, by rintro _ ⟨⟩⟩
  | unit small =>
    obtain ⟨single, noLow⟩ := unit_single c
    refine ⟨_, stringPieces_unit small later, ?_, ?_⟩
    · rw [joinPieces_single single, ofUnit_toNat]
    · intro low leads
      rw [leadingLow?, noLow] at leads
      cases leads
  | @half unit half =>
    obtain ⟨one, stands⟩ := ofUnit_half half
    have small : unit < 0x10000 := by
      rcases Bool.or_eq_true_iff.mp one with high | low
      · exact isHighUnit_small high
      · exact isLowUnit_small low
    refine ⟨_, stringPieces_unit small later, ?_, ?_⟩
    · rw [joinPieces_apart fun low leads => apart unit low half leads, stands]
    · intro low leads
      rw [leadingLow?] at leads
      split at leads
      next => exact leads ▸ half
      next => cases leads
  | pair beyond =>
    have high := isHighUnit_highUnit c
    have low := isLowUnit_lowUnit c
    have second : stringPieces opening (unitText (lowUnit c) ++ next :: rest) (place + 6) =
        .ok (.unit (lowUnit c) :: pieces, cursor) := stringPieces_unit (isLowUnit_small low) later
    have first : stringPieces opening (unitText (highUnit c) ++
        (unitText (lowUnit c) ++ next :: rest)) place =
        .ok (.unit (highUnit c) :: .unit (lowUnit c) :: pieces, cursor) :=
      stringPieces_unit (isHighUnit_small high) second
    rw [List.append_assoc]
    refine ⟨_, first, by rw [joinPieces_pair high low, ofPair_units beyond], ?_⟩
    intro low leads
    rw [leadingLow?, isLowUnit_of_high high] at leads
    cases leads

/-- The second of two characters stands in for the low half of a pair and the first for the high
one. -/
def IsSplitPair (c d : Char) : Prop :=
  ∃ high low, Text.half? c = some high ∧ Text.half? d = some low ∧
    Text.isHighUnit high = true ∧ Text.isLowUnit low = true

/-- No pair stands in a text in its two halves. -/
def IsUnsplit (text : List Char) : Prop := text.IsChain fun c d => ¬ IsSplitPair c d

theorem isUnsplit_of_whole {text : String} (whole : Text.isWhole text = true) :
    IsUnsplit text.toList := by
  have each : ∀ c ∈ text.toList, Text.half? c = none := by
    simpa [Text.isWhole, Text.isHalf] using whole
  unfold IsUnsplit
  generalize text.toList = letters at each
  induction letters with
  | nil => exact .nil
  | cons c others ih =>
    rw [List.forall_mem_cons] at each
    cases others with
    | nil => exact .singleton c
    | cons d rest =>
      refine List.isChain_cons_cons.mpr ⟨?_, ih each.2⟩
      rintro ⟨high, -, half, -⟩
      cases each.1.symm.trans half

theorem leadingLow?_isLow {pieces : List Piece} {low : Nat}
    (leads : leadingLow? pieces = some low) :
    Text.isLowUnit low = true := by
  unfold leadingLow? at leads
  split at leads
  next =>
    split at leads
    next isLow => exact Option.some.inj leads ▸ isLow
    next => cases leads
  next => cases leads

theorem readString_written {text : List Char} (unsplit : IsUnsplit text) (place : Nat)
    (rest : List Char) :
    readString ⟨text.flatMap escaped ++ '\x22' :: rest, place⟩ =
      .ok (String.ofList text, ⟨rest, place + (text.flatMap escaped).length + 1⟩) := by
  -- What the pieces begin with is kept along, so that it is known what is joined.
  have pieces (opening : Nat) : ∃ pieces,
      stringPieces opening (text.flatMap escaped ++ '\x22' :: rest) place =
        .ok (pieces, ⟨rest, place + (text.flatMap escaped).length + 1⟩) ∧
      joinPieces pieces = text ∧
      ∀ low, leadingLow? pieces = some low → text.head?.bind Text.half? = some low := by
    induction text generalizing place with
    | nil => exact ⟨[], rfl, rfl, by rintro _ ⟨⟩⟩
    | cons c others ih =>
      obtain ⟨pieces, read, joined, begins⟩ := ih unsplit.tail (place + (escaped c).length)
      obtain ⟨next, more, goesOn⟩ := List.exists_cons_of_ne_nil
        (List.append_ne_nil_of_right_ne_nil (others.flatMap escaped) (List.cons_ne_nil '\x22' rest))
      have apart (high low : Nat) (half : Text.half? c = some high)
          (leads : leadingLow? pieces = some low) : Text.isHighUnit high = false := by
        have follows := begins low leads
        cases others with
        | nil => cases follows
        | cons d rest =>
          by_contra isHigh
          rw [Bool.not_eq_false] at isHigh
          exact (List.isChain_cons_cons.mp unsplit).1
            ⟨high, low, half, follows, isHigh, leadingLow?_isLow leads⟩
      rw [goesOn] at read
      obtain ⟨all, readAll, joinedAll, beginsAll⟩ := stringPieces_escaped apart read
      refine ⟨all, ?_, by rw [joinedAll, joined], beginsAll⟩
      rw [List.flatMap_cons, List.append_assoc, goesOn, readAll, List.length_append,
        ← Nat.add_assoc]
  obtain ⟨pieces, read, joined, -⟩ := pieces (place - 1)
  unfold readString
  rw [read, ← joined]
  rfl

/-! ### Values -/

/-- What may follow a value: nothing, or what ends or goes on with a value that holds it. -/
def EndsValue (rest : List Char) : Prop := ∀ c ∈ rest.head?, c = ',' ∨ c = ']' ∨ c = '\x7d'

/-- A text is read as a value wherever it stands, if what follows it ends a value. The text begins
with no blank, and the value is nested no deeper than the height. -/
structure ReadsAs (text : List Char) (value : Value) (height : Nat) : Prop where
  begins : ∃ first rest, text = first :: rest ∧ isBlank first = false
  read : ∀ {levels depth : Nat} (place : Nat) {rest : List Char}, text.length ≤ levels + 1 →
    height ≤ depth → EndsValue rest → readValue (levels + 1) depth ⟨text ++ rest, place⟩ =
      .ok (value, ⟨rest, place + text.length⟩)

theorem skipBlanks_unblank {first : Char} {rest : List Char} (place : Nat)
    (unblank : isBlank first = false) :
    (Cursor.mk (first :: rest) place).skipBlanks = ⟨first :: rest, place⟩ := by
  simp [Cursor.skipBlanks, unblank]

theorem skipBlanks_ends {rest : List Char} (place : Nat) (ends : EndsValue rest) :
    (Cursor.mk rest place).skipBlanks = ⟨rest, place⟩ := by
  cases rest with
  | nil => rfl
  | cons first rest =>
    refine skipBlanks_unblank place ?_
    rcases ends first rfl with rfl | rfl | rfl <;> rfl

theorem ReadsAs.skipBlanks {text : List Char} {value : Value} {height : Nat}
    (reads : ReadsAs text value height) (rest : List Char) (place : Nat) :
    (Cursor.mk (text ++ rest) place).skipBlanks = ⟨text ++ rest, place⟩ := by
  obtain ⟨first, others, rfl, unblank⟩ := reads.begins
  exact skipBlanks_unblank place unblank

theorem readValue_quote (levels depth place : Nat) (rest : List Char) :
    readValue (levels + 1) depth ⟨'\x22' :: rest, place⟩ =
      (readString ⟨rest, place + 1⟩).map fun (text, cursor) => (.text text, cursor) := by
  rw [readValue]
  show (readString ⟨rest, place + 1⟩).bind _ = _
  cases readString ⟨rest, place + 1⟩ <;> rfl

theorem readsAs_text {letters : String} (unsplit : IsUnsplit letters.toList) (height : Nat) :
    ReadsAs (writeText letters) (.text letters) height where
  begins := ⟨'\x22', _, rfl, rfl⟩
  read {levels depth} place {rest} _ _ _ := by
    have read := readString_written unsplit (place + 1) rest
    have written : writeText letters ++ rest =
        '\x22' :: (letters.toList.flatMap escaped ++ '\x22' :: rest) := by simp [writeText]
    have length : (writeText letters).length =
        (letters.toList.flatMap escaped).length + 2 := by simp [writeText]
    rw [written, readValue_quote, read, length, String.ofList_toList, Nat.add_right_comm place,
      Nat.add_assoc (place + _)]
    rfl

/-! ### Whole numbers -/

theorem isDigit_digitChar {d : Nat} (digit : d < 10) : (Text.digitChar d).isDigit = true := by
  revert d
  decide

theorem digits_first {n : Nat} (some : n ≠ 0) : ∃ d rest, d ≠ 0 ∧ Text.digits n = d :: rest := by
  induction n using Nat.strongRecOn with
  | ind n ih =>
    rw [Text.digits]
    split
    next => exact ⟨n, [], some, rfl⟩
    next large =>
      obtain ⟨d, rest, nonzero, first⟩ := ih (n / 10) (by omega) (by omega)
      exact ⟨d, rest ++ [n % 10], nonzero, by rw [first]; rfl⟩

theorem digitChar_ne_zero {d : Nat} (digit : d < 10) (nonzero : d ≠ 0) :
    Text.digitChar d ≠ '0' := by
  revert d
  decide

theorem EndsValue.not_digit {rest : List Char} (ends : EndsValue rest) :
    leadingDigits rest = [] ∧ fractionPart rest = [] ∧ exponentPart rest = (0, 0) := by
  cases rest with
  | nil => exact ⟨rfl, rfl, rfl⟩
  | cons first others => rcases ends first rfl with rfl | rfl | rfl <;> exact ⟨rfl, rfl, rfl⟩

/-- Digits are read as far as they go. -/
theorem leadingDigits_digits {digits : List Nat} (each : ∀ d ∈ digits, d < 10) {rest : List Char}
    (stop : leadingDigits rest = []) :
    leadingDigits (digits.map Text.digitChar ++ rest) = digits.map Text.digitChar := by
  have digital : ∀ c ∈ digits.map Text.digitChar, c.isDigit = true := by
    intro c member
    obtain ⟨d, among, rfl⟩ := List.mem_map.mp member
    exact isDigit_digitChar (each d among)
  have stop : rest.takeWhile Char.isDigit = [] := stop
  rw [leadingDigits, List.takeWhile_append_of_pos digital, stop, List.append_nil]

theorem digits_values {digits : List Nat} (each : ∀ d ∈ digits, d < 10) :
    (digits.map Text.digitChar).map (fun c => c.toNat - 48) = digits := by
  rw [List.map_map]
  refine (List.map_congr_left fun d member => ?_).trans (List.map_id _)
  show (Text.digitChar d).toNat - 48 = d
  rw [Text.digitChar_toNat (each d member)]
  omega

/-- The digits that are read before a fraction. -/
def wholePart : List Char → List Char
  | '0' :: _ => ['0']
  | rest => leadingDigits rest

theorem wholePart_ofNat (n : Nat) {rest : List Char} (stop : leadingDigits rest = []) :
    wholePart (Text.ofNat n ++ rest) = Text.ofNat n := by
  by_cases none : n = 0
  · have zero : Text.ofNat 0 = ['0'] := by
      rw [Text.ofNat, Text.digits]
      rfl
    rw [none, zero]
    rfl
  · obtain ⟨d, others, nonzero, first⟩ := digits_first none
    have digit : d < 10 := Text.digits_lt n d (by simp [first])
    have begun : Text.ofNat n = Text.digitChar d :: others.map Text.digitChar := by
      rw [Text.ofNat, first]
      rfl
    have leading : leadingDigits (Text.ofNat n ++ rest) = Text.ofNat n :=
      leadingDigits_digits (Text.digits_lt n) stop
    rw [begun, List.cons_append] at leading ⊢
    rw [wholePart]
    · exact leading
    · intro _ same
      exact digitChar_ne_zero digit nonzero (List.cons.inj same).1

/-- The parts of a number are read one behind the other. -/
theorem readNumber_eq (negative : Bool) (c : Cursor) : readNumber negative c =
    let next := c.skip (wholePart c.rest).length
    let fraction := fractionPart next.rest
    let next := if fraction = [] then next else next.skip (fraction.length + 1)
    let power := exponentPart next.rest
    let coefficient := Text.ofDigits ((wholePart c.rest ++ fraction).map fun c => c.toNat - 48)
    if fraction = [] ∧ power.2 = 0 then
      if maxDigits < (wholePart c.rest).length then .error .tooManyDigits
      else .ok (.int (if negative then -coefficient else coefficient), next)
    else .ok (.float (Binary64.ofDecimal negative coefficient (power.1 - fraction.length)),
      next.skip power.2) := rfl

/-- A number without a fraction and without an exponent is a whole one. -/
theorem readNumber_whole {c : Cursor} {whole : List Char} (found : wholePart c.rest = whole)
    (unbroken : fractionPart (c.skip whole.length).rest = [])
    (powerless : exponentPart (c.skip whole.length).rest = (0, 0))
    (short : whole.length ≤ maxDigits) (negative : Bool) :
    readNumber negative c = .ok (.int
      (if negative then -(Text.ofDigits (whole.map fun c => c.toNat - 48) : Int)
        else Text.ofDigits (whole.map fun c => c.toNat - 48)), c.skip whole.length) := by
  rw [readNumber_eq, found]
  dsimp only
  rw [unbroken, if_pos rfl, powerless, List.append_nil, if_pos ⟨rfl, rfl⟩,
    if_neg (Nat.not_lt.mpr short)]

theorem readNumber_ofNat {n : Nat} (short : (Text.digits n).length ≤ maxDigits) (negative : Bool)
    (place : Nat) {rest : List Char} (ends : EndsValue rest) :
    readNumber negative ⟨Text.ofNat n ++ rest, place⟩ =
      .ok (.int (if negative then -(n : Int) else n), ⟨rest, place + (Text.ofNat n).length⟩) := by
  obtain ⟨stop, unbroken, powerless⟩ := ends.not_digit
  have length : (Text.ofNat n).length = (Text.digits n).length := List.length_map ..
  have taken : (Cursor.mk (Text.ofNat n ++ rest) place).skip (Text.ofNat n).length =
      ⟨rest, place + (Text.ofNat n).length⟩ := by
    simp [Cursor.skip]
  have value : Text.ofDigits ((Text.ofNat n).map fun c => c.toNat - 48) = n := by
    rw [Text.ofNat, digits_values (Text.digits_lt n), Text.ofDigits_digits]
  rw [readNumber_whole (wholePart_ofNat n stop) (by rw [taken]; exact unbroken)
    (by rw [taken]; exact powerless) (by omega), value, taken]

/-- A word begins with a letter, or with a minus and a letter. -/
theorem wordAt?_digit {d : Nat} (digit : d < 10) (rest : List Char) (place : Nat) :
    wordAt? ⟨Text.digitChar d :: rest, place⟩ = none ∧
    wordAt? ⟨'-' :: Text.digitChar d :: rest, place⟩ = none := by
  have each : ∀ d < 10, ['n', 't', 'f', 'N', 'I', '-'].all
      (fun letter => letter ≠ Text.digitChar d) = true := by decide
  have apart (letter : Char) (member : letter ∈ ['n', 't', 'f', 'N', 'I', '-']) :
      (letter == Text.digitChar d) = false := by
    simpa using List.all_eq_true.mp (each d digit) letter member
  simp [wordAt?, words, List.isPrefixOf, apart]

/-- What begins neither a text nor a record nor a list is a word or a number. -/
theorem readValue_plain {first : Char} (plain : first ≠ '\x22' ∧ first ≠ '\x7b' ∧ first ≠ '[')
    (rest : List Char) (levels depth place : Nat) :
    readValue (levels + 1) depth ⟨first :: rest, place⟩ =
      match wordAt? ⟨first :: rest, place⟩ with
      | some found => .ok found
      | none =>
          if first.isDigit then readNumber false ⟨first :: rest, place⟩
          else if first = '-' ∧ (rest.head?).any Char.isDigit then
            readNumber true ⟨rest, place + 1⟩
          else (Cursor.mk (first :: rest) place).fail := by
  rw [readValue]
  split
  next same => cases same
  next same => exact absurd (List.cons.inj same).1 plain.1
  next same => exact absurd (List.cons.inj same).1 plain.2.1
  next same => exact absurd (List.cons.inj same).1 plain.2.2
  next same =>
    cases same
    rfl

theorem readValue_unquoted {first : Char} (plain : first ≠ '\x22' ∧ first ≠ '\x7b' ∧ first ≠ '[')
    (rest : List Char) (levels depth place : Nat)
    (unnamed : wordAt? ⟨first :: rest, place⟩ = none) :
    readValue (levels + 1) depth ⟨first :: rest, place⟩ =
      if first.isDigit then readNumber false ⟨first :: rest, place⟩
      else if first = '-' ∧ (rest.head?).any Char.isDigit then readNumber true ⟨rest, place + 1⟩
      else (Cursor.mk (first :: rest) place).fail := by
  rw [readValue_plain plain, unnamed]

theorem digitChar_begins {d : Nat} (digit : d < 10) : isBlank (Text.digitChar d) = false ∧
    Text.digitChar d ≠ '\x22' ∧ Text.digitChar d ≠ '\x7b' ∧ Text.digitChar d ≠ '[' := by
  revert d
  decide

theorem readsAs_int {n : Int} (short : (Text.digits n.natAbs).length ≤ maxDigits) (height : Nat) :
    ReadsAs (Text.ofInt n) (.int n) height := by
  obtain ⟨d, others, digit, begun⟩ := Text.ofNat_cons n.natAbs
  have plain := digitChar_begins digit
  have number (negative : Bool) (place : Nat) {rest : List Char} (ends : EndsValue rest) :=
    readNumber_ofNat short negative place ends
  by_cases negative : n < 0
  · have written : Text.ofInt n = '-' :: Text.ofNat n.natAbs := if_pos negative
    refine ⟨⟨'-', _, written, rfl⟩, fun {levels depth} place {rest} _ _ ends => ?_⟩
    rw [written, List.cons_append, begun, List.cons_append, readValue_unquoted (by decide) _ _ _ _
      (wordAt?_digit digit _ _).2, if_neg (by decide), if_pos ⟨rfl, isDigit_digitChar digit⟩,
      ← List.cons_append, ← begun, number true _ ends, if_pos rfl, List.length_cons,
      Nat.add_right_comm, Nat.add_assoc]
    congr 3
    omega
  · have written : Text.ofInt n = Text.ofNat n.natAbs := if_neg negative
    refine ⟨⟨_, _, written.trans begun, plain.1⟩, fun {levels depth} place {rest} _ _ ends => ?_⟩
    rw [written, begun, List.cons_append, readValue_unquoted plain.2 _ _ _ _
      (wordAt?_digit digit _ _).1, if_pos (isDigit_digitChar digit), ← List.cons_append, ← begun,
      number false _ ends, if_neg (by decide), Int.natAbs_of_nonneg (by omega)]

theorem write?_int {n : Int} (short : (Text.digits n.natAbs).length ≤ maxDigits) :
    write? (.int n) = some (Text.ofInt n) := by
  rw [write?]
  exact if_neg (Nat.not_lt.mpr short)

/-! ### Mappings -/

theorem ReadsAs.read_within {text : List Char} {value : Value} {height : Nat}
    (reads : ReadsAs text value height) {levels depth : Nat} (place : Nat) {rest : List Char}
    (enough : text.length ≤ levels) (high : height ≤ depth) (ends : EndsValue rest) :
    readValue levels depth ⟨text ++ rest, place⟩ = .ok (value, ⟨rest, place + text.length⟩) := by
  obtain ⟨first, others, begun, -⟩ := reads.begins
  cases levels with
  | zero =>
    rw [begun] at enough
    cases enough
  | succ more => exact reads.read place enough high ends

/-- An entry of a mapping: its key, and its value with the text from which that is read. -/
structure Told (height : Nat) where
  key : String
  item : Value
  text : List Char
  unsplit : IsUnsplit key.toList
  written : write? item = some text
  reads : ReadsAs text item height

namespace Told

variable {height : Nat}

/-- The text of an entry. -/
def entry (told : Told height) : List Char := writeText told.key ++ ':' :: told.text

/-- What is read from an entry. -/
def read (told : Told height) : Value × Value := (.text told.key, told.item)

def ofText (key letters : String) (named : Text.isWhole key = true)
    (whole : Text.isWhole letters = true) : Told height :=
  ⟨key, .text letters, writeText letters, isUnsplit_of_whole named, rfl,
    readsAs_text (isUnsplit_of_whole whole) height⟩

end Told

section
variable {height : Nat}

/-- How a mapping goes on after an entry. -/
def afterEntry (levels depth : Nat) (entries : List (Value × Value)) (c : Cursor) :
    Except Failure (Value × Cursor) :=
  match c.rest with
  | '\x7d' :: _ => .ok (.dict entries, c.skip 1)
  | ',' :: _ => readEntries levels depth entries (c.skip 1).skipBlanks
  | _ => c.fail

theorem readEntries_entry (told : Told height) {levels depth : Nat} (high : height ≤ depth)
    (seen : List (Value × Value)) (place : Nat) {rest : List Char}
    (enough : told.entry.length ≤ levels) (ends : EndsValue rest) :
    readEntries (levels + 1) depth seen ⟨told.entry ++ rest, place⟩ =
      afterEntry levels depth (put seen told.key told.item) ⟨rest, place + told.entry.length⟩ := by
  have key := readString_written told.unsplit (place + 1) (':' :: (told.text ++ rest))
  have written : told.entry ++ rest = '\x22' :: (told.key.toList.flatMap escaped ++ '\x22' ::
      ':' :: (told.text ++ rest)) := by simp [Told.entry, writeText]
  have length : told.entry.length =
      (told.key.toList.flatMap escaped).length + told.text.length + 3 := by
    simp only [Told.entry, writeText, List.length_append, List.length_cons, List.length_nil]
    omega
  have deep : told.text.length ≤ levels := by omega
  have value := told.reads.read_within
    (place + 1 + (told.key.toList.flatMap escaped).length + 1 + 1) deep high ends
  have done : place + 1 + (told.key.toList.flatMap escaped).length + 1 + 1 + told.text.length =
      place + told.entry.length := by omega
  rw [written, readEntries]
  show (readString ⟨told.key.toList.flatMap escaped ++ '\x22' :: ':' :: (told.text ++ rest),
    place + 1⟩).bind _ = _
  rw [key]
  show (readValue levels depth (Cursor.mk (told.text ++ rest)
    (place + 1 + (told.key.toList.flatMap escaped).length + 1 + 1)).skipBlanks).bind _ = _
  rw [told.reads.skipBlanks, value]
  show afterEntry levels depth (put seen (String.ofList told.key.toList) told.item)
    (Cursor.mk rest _).skipBlanks = _
  rw [skipBlanks_ends _ ends, String.ofList_toList, done]

/-- The entries of a mapping, separated by commas, and its end. -/
def entriesText (entries : List (Told height)) : List Char :=
  [','].intercalate (entries.map Told.entry) ++ ['\x7d']

theorem entriesText_single (told : Told height) : entriesText [told] = told.entry ++ ['\x7d'] := by
  simp [entriesText]

theorem entriesText_cons (told next : Told height) (later : List (Told height)) :
    entriesText (told :: next :: later) = told.entry ++ ',' :: entriesText (next :: later) := by
  simp [entriesText, List.intercalate]

/-- The entries begin with the quote of the first key. -/
theorem entriesText_begins (told : Told height) (later : List (Told height)) :
    ∃ rest, entriesText (told :: later) = '\x22' :: rest := by
  cases later with
  | nil => exact ⟨_, rfl⟩
  | cons next others => exact ⟨_, entriesText_cons told next others⟩

theorem skipBlanks_entries (told : Told height) (later : List (Told height)) (rest : List Char)
    (place : Nat) : (Cursor.mk (entriesText (told :: later) ++ rest) place).skipBlanks =
      ⟨entriesText (told :: later) ++ rest, place⟩ := by
  obtain ⟨more, begun⟩ := entriesText_begins told later
  rw [begun]
  exact skipBlanks_unblank _ rfl

theorem put_told {told : Told height} {seen : List (Told height)}
    (fresh : ∀ before ∈ seen, before.key ≠ told.key) :
    put (seen.map Told.read) told.key told.item = (seen ++ [told]).map Told.read := by
  have none : ((seen.map Told.read).any fun entry => entry.1.asText? == some told.key) = false := by
    simpa [Told.read, Value.asText?] using fresh
  rw [put, if_neg (by simp [none]), List.map_append]
  rfl

/-- The entries are read one after the other. What was seen before them stays in front. -/
theorem readEntries_written {entries seen : List (Told height)} {levels depth : Nat}
    (high : height ≤ depth) (apart : ((seen ++ entries).map Told.key).Nodup)
    (filled : entries ≠ []) (place : Nat) (rest : List Char)
    (enough : (entriesText entries).length ≤ levels) :
    readEntries levels depth (seen.map Told.read) ⟨entriesText entries ++ rest, place⟩ =
      .ok (.dict ((seen ++ entries).map Told.read),
        ⟨rest, place + (entriesText entries).length⟩) := by
  induction entries generalizing levels seen place with
  | nil => exact absurd rfl filled
  | cons told later ih =>
    have added : put (seen.map Told.read) told.key told.item = (seen ++ [told]).map Told.read := by
      rw [List.map_append, List.nodup_append] at apart
      exact put_told fun before member =>
        apart.2.2 _ (List.mem_map_of_mem member) _ (List.mem_cons_self ..)
    obtain ⟨levels, rfl⟩ : ∃ more, levels = more + 1 := by
      obtain ⟨others, begun⟩ := entriesText_begins told later
      rw [begun] at enough
      exact Nat.exists_eq_succ_of_ne_zero (by rintro rfl; cases enough)
    cases later with
    | nil =>
      have length : (entriesText [told]).length = told.entry.length + 1 := by
        simp [entriesText_single]
      have ends : EndsValue ('\x7d' :: rest) := by simp [EndsValue]
      have first := readEntries_entry told high (seen.map Told.read) place
        (by omega : told.entry.length ≤ levels) ends
      rw [entriesText_single, List.append_assoc, List.singleton_append, first, added,
        List.length_append]
      rfl
    | cons next others =>
      have length : (entriesText (told :: next :: others)).length =
          told.entry.length + 1 + (entriesText (next :: others)).length := by
        rw [entriesText_cons, List.length_append, List.length_cons]
        omega
      have ends : EndsValue (',' :: (entriesText (next :: others) ++ rest)) := by simp [EndsValue]
      have first := readEntries_entry told high (seen.map Told.read) place
        (by omega : told.entry.length ≤ levels) ends
      -- What was read goes over to what was seen.
      rw [← List.singleton_append, ← List.append_assoc] at apart
      have others_read := ih apart (List.cons_ne_nil next others)
        (place + told.entry.length + 1) (by omega : _ ≤ levels)
      rw [entriesText_cons, List.append_assoc, List.cons_append, first, added]
      show readEntries levels depth ((seen ++ [told]).map Told.read) (Cursor.mk
        (entriesText (next :: others) ++ rest) (place + told.entry.length + 1)).skipBlanks = _
      rw [skipBlanks_entries, others_read, ← entriesText_cons, length, List.append_assoc,
        List.singleton_append]
      congr 3
      omega

theorem readsAs_dict {entries : List (Told height)} (apart : (entries.map Told.key).Nodup) :
    ReadsAs ('\x7b' :: entriesText entries) (.dict (entries.map Told.read)) (height + 1) where
  begins := ⟨_, _, rfl, rfl⟩
  read {levels depth} place {rest} enough high _ := by
    obtain ⟨depth, rfl⟩ : ∃ more, depth = more + 1 := Nat.exists_eq_succ_of_ne_zero (by omega)
    cases entries with
    | nil => rfl
    | cons told later =>
      obtain ⟨more, begun⟩ := entriesText_begins told later
      have opening : (Cursor.mk ('\x7b' :: (entriesText (told :: later) ++ rest)) place).skip 1 =
          ⟨entriesText (told :: later) ++ rest, place + 1⟩ := rfl
      have entered : readValue (levels + 1) (depth + 1)
          ⟨'\x7b' :: (entriesText (told :: later) ++ rest), place⟩ =
          readEntries levels depth [] ⟨entriesText (told :: later) ++ rest, place + 1⟩ := by
        rw [readValue]
        dsimp only
        rw [if_neg (Nat.succ_ne_zero depth), opening, skipBlanks_entries, begun]
        rfl
      have apart : (([] ++ told :: later).map Told.key).Nodup := apart
      have read := readEntries_written (Nat.le_of_succ_le_succ high) apart
        (List.cons_ne_nil told later) (place + 1) rest (Nat.le_of_succ_le_succ enough)
      rw [List.map_nil, List.nil_append] at read
      rw [List.cons_append, entered, read, List.length_cons, Nat.add_assoc, Nat.add_comm 1]

theorem write?_dict (entries : List (Told height)) :
    write? (.dict (entries.map Told.read)) = some ('\x7b' :: entriesText entries) := by
  have each : writeEntries? (entries.map Told.read) = some (entries.map Told.entry) := by
    induction entries with
    | nil => rfl
    | cons told later ih =>
      have name : keyText? (.text told.key) = some told.key := rfl
      rw [List.map_cons, Told.read, writeEntries?, name, told.written, ih]
      rfl
  rw [write?, each]
  simp [entriesText]

end

/-- A text that is read as a value wherever it stands is read as that value. -/
theorem ReadsAs.read_alone {text : List Char} {value : Value} {height : Nat}
    (reads : ReadsAs text value height) (high : height ≤ maxDepth) :
    Json.read text = .ok value := by
  have found : readValue (text.length + 1) maxDepth ⟨text ++ [], 0⟩ =
      .ok (value, ⟨[], 0 + text.length⟩) :=
    reads.read 0 (Nat.le_succ _) high (by simp [EndsValue])
  have unblank := reads.skipBlanks [] 0
  rw [List.append_nil] at found unblank
  unfold Json.read
  rw [unblank, found]
  rfl

/-- A mapping of texts that stand in it once each is read as it was written, if each of its values
is. -/
theorem read_written {height : Nat} (entries : List (Told height)) (high : height < maxDepth)
    (apart : (entries.map Told.key).Nodup) :
    ∃ text, write? (.dict (entries.map Told.read)) = some text ∧
      read text = .ok (.dict (entries.map Told.read)) :=
  ⟨_, write?_dict entries, (readsAs_dict apart).read_alone high⟩

end Outreach.Json
