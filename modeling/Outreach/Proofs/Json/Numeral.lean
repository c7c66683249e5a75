import Outreach.Proofs.Json.Written
import Outreach.Proofs.Number.Exact

/-! Numbers as JSON writes them. The reader of JSON and the reader of decimals find the same sign,
the same digits and the same power of ten in such a text. The second keeps the number that these
make. The first does so for whole numbers only and takes the nearest double for all others. -/

namespace Outreach.Json

/-- The power of ten behind a number. -/
structure Power where
  capital : Bool
  /-- Whether the sign is a minus, where there is one. -/
  sign : Option Bool
  first : Fin 10
  others : List (Fin 10)

/-- A number of JSON in its parts. Nothing is written for a fraction without digits. -/
structure Numeral where
  negative : Bool
  whole : Nat
  fraction : List (Fin 10)
  power : Option Power

namespace Power

def digits (power : Power) : List Nat := (power.first :: power.others).map Fin.val

def signText : Option Bool → List Char
  | none => []
  | some negative => [if negative then '-' else '+']

def text (power : Power) : List Char :=
  (if power.capital then 'E' else 'e') ::
    (signText power.sign ++ power.digits.map Text.digitChar)

def value (power : Power) : Int :=
  if power.sign = some true then -(Text.ofDigits power.digits : Int)
  else Text.ofDigits power.digits

end Power

namespace Numeral

def fractionDigits (n : Numeral) : List Nat := n.fraction.map Fin.val

def fractionText (n : Numeral) : List Char :=
  if n.fraction = [] then [] else '.' :: n.fractionDigits.map Text.digitChar

def powerText (n : Numeral) : List Char := (n.power.map Power.text).getD []

/-- The text without its sign. -/
def unsignedText (n : Numeral) : List Char :=
  Text.ofNat n.whole ++ (n.fractionText ++ n.powerText)

def text (n : Numeral) : List Char := Decimal.signText n.negative ++ n.unsignedText

/-- All digits before the power, as one number. -/
def coefficient (n : Numeral) : Nat := Text.ofDigits (Text.digits n.whole ++ n.fractionDigits)

/-- The power of ten that goes with the coefficient. -/
def exponent (n : Numeral) : Int := (n.power.map Power.value).getD 0 - n.fraction.length

/-- The number that is written. -/
def value (n : Numeral) : ℚ := (Decimal.finite n.negative n.coefficient n.exponent).value

/-- A number without a fraction and without a power of ten. -/
def IsWhole (n : Numeral) : Prop := n.fraction = [] ∧ n.power.isNone

instance (n : Numeral) : Decidable n.IsWhole := inferInstanceAs (Decidable (_ ∧ _))

/-- A whole number of more digits than JSON is read with. -/
def IsLong (n : Numeral) : Prop := n.IsWhole ∧ maxDigits < (Text.digits n.whole).length

instance (n : Numeral) : Decidable n.IsLong := inferInstanceAs (Decidable (_ ∧ _))

/-- The nearest double. -/
def double (n : Numeral) : Binary64 := Binary64.ofDecimal n.negative n.coefficient n.exponent

/-- What JSON makes of the number. -/
def decoded (n : Numeral) : Value :=
  if n.IsWhole then .int (if n.negative then -(n.whole : Int) else n.whole) else .float n.double

end Numeral

/-! ### Digits -/

theorem fin_digits (digits : List (Fin 10)) : ∀ d ∈ digits.map Fin.val, d < 10 := by
  intro d member
  obtain ⟨digit, -, rfl⟩ := List.mem_map.mp member
  exact digit.isLt

/-- A text that does not begin with a digit. -/
def EndsDigits (rest : List Char) : Prop := ∀ c ∈ rest.head?, c.isDigit = false

theorem EndsDigits.stop {rest : List Char} (ends : EndsDigits rest) : leadingDigits rest = [] := by
  cases rest with
  | nil => rfl
  | cons first others =>
    rw [leadingDigits, List.takeWhile_cons, ends first rfl]
    rfl

theorem EndsValue.digits {rest : List Char} (ends : EndsValue rest) : EndsDigits rest := by
  intro c first
  rcases ends c first with rfl | rfl | rfl <;> rfl

theorem skip_append (text rest : List Char) (place : Nat) :
    (Cursor.mk (text ++ rest) place).skip text.length = ⟨rest, place + text.length⟩ := by
  simp [Cursor.skip]

/-! ### Powers of ten -/

/-- A digit is no sign. -/
theorem digitChar_unsigned {d : Nat} (digit : d < 10) :
    Text.digitChar d ≠ '-' ∧ Text.digitChar d ≠ '+' := by
  revert d
  decide

namespace Power

variable (power : Power)

theorem digits_ne_nil : power.digits ≠ [] := List.cons_ne_nil _ _

theorem digits_lt : ∀ d ∈ power.digits, d < 10 := fin_digits (power.first :: power.others)

/-- A power begins with its letter. -/
theorem text_cons : ∃ letter, (letter = 'e' ∨ letter = 'E') ∧
    power.text = letter :: (signText power.sign ++ power.digits.map Text.digitChar) := by
  unfold text
  split
  · exact ⟨'E', .inr rfl, rfl⟩
  · exact ⟨'e', .inl rfl, rfl⟩

end Power

/-- The sign of a power, its digits, and how many characters stand before them. -/
def signedDigits : List Char → Bool × List Char × Nat
  | '-' :: rest => (true, leadingDigits rest, 2)
  | '+' :: rest => (false, leadingDigits rest, 2)
  | rest => (false, leadingDigits rest, 1)

theorem exponentPart_cons (c : Char) (rest : List Char) : exponentPart (c :: rest) =
    if c = 'e' ∨ c = 'E' then
      if (signedDigits rest).2.1 = [] then (0, 0)
      else
        let value : Int := Text.ofDigits ((signedDigits rest).2.1.map fun c => c.toNat - 48)
        (if (signedDigits rest).1 then -value else value,
          (signedDigits rest).2.2 + (signedDigits rest).2.1.length)
    else (0, 0) := rfl

/-- Digits without a sign are taken as they stand. -/
theorem signedDigits_plain {d : Nat} (digit : d < 10) (rest : List Char) :
    signedDigits (Text.digitChar d :: rest) =
      (false, leadingDigits (Text.digitChar d :: rest), 1) := by
  obtain ⟨noMinus, noPlus⟩ := digitChar_unsigned digit
  unfold signedDigits
  split
  next same => exact absurd (List.cons.inj same).1 noMinus
  next same => exact absurd (List.cons.inj same).1 noPlus
  next => rfl

theorem signedDigits_power (power : Power) {rest : List Char} (ends : EndsDigits rest) :
    signedDigits (Power.signText power.sign ++ power.digits.map Text.digitChar ++ rest) =
      (power.sign == some true, power.digits.map Text.digitChar,
        1 + (Power.signText power.sign).length) := by
  have leading := leadingDigits_digits power.digits_lt ends.stop
  rw [List.append_assoc]
  cases power.sign with
  | none =>
    have plain := signedDigits_plain power.first.isLt
      ((power.others.map Fin.val).map Text.digitChar ++ rest)
    exact plain.trans (congrArg (fun digits => (false, digits, 1)) leading)
  | some negative =>
    cases negative with
    | false => exact congrArg (fun digits => (false, digits, 2)) leading
    | true => exact congrArg (fun digits => (true, digits, 2)) leading

/-- The reader of JSON finds the power of ten. -/
theorem exponentPart_power (power : Power) {rest : List Char} (ends : EndsDigits rest) :
    exponentPart (power.text ++ rest) = (power.value, power.text.length) := by
  obtain ⟨letter, marked, written⟩ := power.text_cons
  have filled : power.digits.map Text.digitChar ≠ [] :=
    List.map_eq_nil_iff.not.mpr power.digits_ne_nil
  rw [written, List.cons_append, exponentPart_cons, if_pos marked, signedDigits_power power ends]
  dsimp only
  rw [if_neg filled, digits_values power.digits_lt, Power.value]
  simp only [beq_iff_eq, List.length_cons, List.length_append]
  congr 1
  omega

/-! ### What stands before the power -/

namespace Numeral

variable (n : Numeral)

/-- Behind the digits of the fraction, or of the whole number, the power is found. -/
theorem powerText_read {rest : List Char} (ends : EndsValue rest) :
    EndsDigits (n.powerText ++ rest) ∧ fractionPart (n.powerText ++ rest) = [] ∧
      exponentPart (n.powerText ++ rest) =
        ((n.power.map Power.value).getD 0, n.powerText.length) := by
  unfold powerText
  cases n.power with
  | none => exact ⟨ends.digits, ends.not_digit.2.1, ends.not_digit.2.2⟩
  | some power =>
    obtain ⟨letter, marked, written⟩ := power.text_cons
    refine ⟨?_, ?_, exponentPart_power power ends.digits⟩
    · rw [Option.map_some, Option.getD_some, written]
      rintro c ⟨⟩
      rcases marked with rfl | rfl <;> rfl
    · rw [Option.map_some, Option.getD_some, written]
      rcases marked with rfl | rfl <;> rfl

theorem fractionText_read {rest : List Char} (ends : EndsValue rest) :
    EndsDigits (n.fractionText ++ (n.powerText ++ rest)) ∧
      fractionPart (n.fractionText ++ (n.powerText ++ rest)) =
        n.fractionDigits.map Text.digitChar := by
  obtain ⟨apart, unbroken, -⟩ := n.powerText_read ends
  unfold fractionText fractionDigits
  split
  next none =>
    rw [none]
    exact ⟨apart, unbroken⟩
  next some =>
    constructor
    · rintro c ⟨⟩
      rfl
    · exact leadingDigits_digits (fin_digits n.fraction) apart.stop

/-- The coefficient of a whole number is this number. -/
theorem coefficient_whole {n : Numeral} (whole : n.IsWhole) : n.coefficient = n.whole := by
  rw [coefficient, fractionDigits, whole.1, List.map_nil, List.append_nil, Text.ofDigits_digits]

theorem length_fractionText :
    n.fractionText.length = if n.fractionDigits.map Text.digitChar = [] then 0
      else (n.fractionDigits.map Text.digitChar).length + 1 := by
  unfold fractionText fractionDigits
  split
  next none => rw [none]; rfl
  next some => rw [if_neg (by simpa using some), List.length_cons]

/-- A number is whole when nothing stands behind its digits. -/
theorem isWhole_iff : n.IsWhole ↔
    n.fractionDigits.map Text.digitChar = [] ∧ n.powerText.length = 0 := by
  unfold IsWhole fractionDigits powerText
  rw [List.map_eq_nil_iff, List.map_eq_nil_iff]
  cases n.power with
  | none => simp
  | some power =>
    obtain ⟨letter, -, written⟩ := power.text_cons
    simp [written]

/-- The reader of JSON reads the number as it is decoded, unless it is too long. -/
theorem readNumber_text {rest : List Char} (place : Nat) (ends : EndsValue rest) :
    readNumber n.negative ⟨n.unsignedText ++ rest, place⟩ =
      if n.IsLong then .error .tooManyDigits
      else .ok (n.decoded, ⟨rest, place + n.unsignedText.length⟩) := by
  obtain ⟨-, -, powered⟩ := n.powerText_read ends
  obtain ⟨apart, fraction⟩ := n.fractionText_read ends
  have written : n.unsignedText ++ rest =
      Text.ofNat n.whole ++ (n.fractionText ++ (n.powerText ++ rest)) := by
    simp [unsignedText]
  have values : ((Text.ofNat n.whole ++ n.fractionDigits.map Text.digitChar).map
      fun c => c.toNat - 48) = Text.digits n.whole ++ n.fractionDigits := by
    rw [List.map_append, Text.ofNat, digits_values (Text.digits_lt n.whole), fractionDigits,
      digits_values (fin_digits n.fraction)]
  have passed (c : Cursor) : (if n.fractionDigits.map Text.digitChar = [] then c
      else c.skip ((n.fractionDigits.map Text.digitChar).length + 1)) =
      c.skip n.fractionText.length := by
    rw [length_fractionText]
    split
    next => rfl
    next => rfl
  have length : n.unsignedText.length =
      (Text.ofNat n.whole).length + n.fractionText.length + n.powerText.length := by
    simp [unsignedText, Nat.add_assoc]
  rw [readNumber_eq]
  dsimp only
  rw [written, wholePart_ofNat n.whole apart.stop, skip_append]
  dsimp only
  rw [fraction, passed, skip_append]
  dsimp only
  rw [powered, values, skip_append]
  -- All parts are found. What is left is whether they are taken for a whole number.
  by_cases whole : n.IsWhole
  · have shape := n.isWhole_iff.mp whole
    have ended : n.powerText = [] := List.length_eq_zero_iff.mp shape.2
    have digits : (Text.ofNat n.whole).length = (Text.digits n.whole).length := List.length_map ..
    have coefficient : Text.ofDigits (Text.digits n.whole ++ n.fractionDigits) = n.whole :=
      coefficient_whole whole
    rw [if_pos shape, digits]
    by_cases long : maxDigits < (Text.digits n.whole).length
    · rw [if_pos long, if_pos ⟨whole, long⟩]
    · have short : ¬ n.IsLong := fun both => long both.2
      rw [if_neg long, if_neg short, decoded, if_pos whole, coefficient, length, ended, digits,
        List.length_nil, Nat.add_zero, ← Nat.add_assoc]
      rfl
  · have short : ¬ n.IsLong := fun long => whole long.1
    rw [if_neg (n.isWhole_iff.not.mp whole), if_neg short, decoded, if_neg whole, length,
      ← Nat.add_assoc, ← Nat.add_assoc]
    have fractional : (n.fractionDigits.map Text.digitChar).length = n.fraction.length := by
      simp [fractionDigits]
    rw [fractional]
    rfl

end Numeral

/-! ### Decimals -/

/-- Digits are split off as far as they go. -/
theorem splitDigits_digits {digits : List Nat} (each : ∀ d ∈ digits, d < 10) {rest : List Char}
    (ends : EndsDigits rest) :
    Decimal.splitDigits (digits.map Text.digitChar ++ rest) = (digits, rest) := by
  have taken := leadingDigits_digits each ends.stop
  have digital : ∀ c ∈ digits.map Text.digitChar, c.isDigit = true := by
    intro c member
    obtain ⟨d, among, rfl⟩ := List.mem_map.mp member
    exact isDigit_digitChar (each d among)
  have left : rest.dropWhile Char.isDigit = rest := by
    cases rest with
    | nil => rfl
    | cons c others =>
      rw [List.dropWhile_cons, ends c rfl]
      rfl
  unfold leadingDigits at taken
  rw [Decimal.splitDigits, taken, digits_values each, List.dropWhile_append_of_pos digital, left]

theorem endsDigits_nil : EndsDigits [] := by
  rintro c ⟨⟩

theorem splitSign_digit {d : Nat} (digit : d < 10) (rest : List Char) :
    Decimal.splitSign (Text.digitChar d :: rest) = (false, Text.digitChar d :: rest) := by
  obtain ⟨noMinus, noPlus⟩ := digitChar_unsigned digit
  unfold Decimal.splitSign
  split
  next same => exact absurd (List.cons.inj same).1 noMinus
  next same => exact absurd (List.cons.inj same).1 noPlus
  next => rfl

theorem splitSign_power (power : Power) :
    Decimal.splitSign (Power.signText power.sign ++ power.digits.map Text.digitChar) =
      (power.sign == some true, power.digits.map Text.digitChar) := by
  cases power.sign with
  | none => exact splitSign_digit power.first.isLt _
  | some negative => cases negative <;> rfl

/-- The reader of decimals finds the power of ten. -/
theorem readExponent_power (power : Power) :
    Decimal.readExponent power.text = some power.value := by
  obtain ⟨letter, marked, written⟩ := power.text_cons
  have split := splitDigits_digits power.digits_lt endsDigits_nil
  rw [List.append_nil] at split
  have digits : power.digits = power.first.val :: power.others.map Fin.val := rfl
  rw [written]
  unfold Decimal.readExponent
  dsimp only
  rw [if_pos marked, splitSign_power]
  dsimp only
  rw [split]
  simp only [digits, Power.value, beq_iff_eq]

namespace Numeral

variable (n : Numeral)

theorem readExponent_text :
    Decimal.readExponent n.powerText = some ((n.power.map Power.value).getD 0) := by
  unfold powerText
  cases n.power with
  | none => rfl
  | some power => exact readExponent_power power

/-- What is read of a numeral behind its first digits: the digits of the fraction. -/
def fractionOf : List Char → List Nat × List Char
  | '.' :: rest => Decimal.splitDigits rest
  | rest => ([], rest)

theorem readNumeral_eq (text : List Char) : Decimal.readNumeral text =
    let whole := Decimal.splitDigits text
    let fraction := fractionOf whole.2
    if whole.1 = [] ∧ fraction.1 = [] then none
    else (Decimal.readExponent fraction.2).bind fun exponent =>
      some (Text.ofDigits (whole.1 ++ fraction.1), exponent - fraction.1.length) := rfl

theorem fractionOf_text :
    fractionOf (n.fractionText ++ n.powerText) = (n.fractionDigits, n.powerText) := by
  have ends : EndsValue [] := by rintro c ⟨⟩
  obtain ⟨apart, -, -⟩ := n.powerText_read ends
  rw [List.append_nil] at apart
  unfold fractionText fractionDigits
  split
  next none =>
    rw [none, List.nil_append, powerText]
    cases n.power with
    | none => rfl
    | some power =>
      obtain ⟨letter, marked, written⟩ := power.text_cons
      rw [Option.map_some, Option.getD_some, written]
      rcases marked with rfl | rfl <;> rfl
  next some => exact splitDigits_digits (fin_digits n.fraction) apart

/-- The reader of decimals finds coefficient and exponent of the number. -/
theorem readNumeral_text :
    Decimal.readNumeral n.unsignedText = some (n.coefficient, n.exponent) := by
  have ends : EndsValue [] := by rintro c ⟨⟩
  obtain ⟨apart, -⟩ := n.fractionText_read ends
  rw [List.append_nil] at apart
  have whole : Decimal.splitDigits n.unsignedText =
      (Text.digits n.whole, n.fractionText ++ n.powerText) :=
    splitDigits_digits (Text.digits_lt n.whole) apart
  have filled : ¬ (Text.digits n.whole = [] ∧ n.fractionDigits = []) := fun none =>
    Text.digits_ne_nil n.whole none.1
  have fractional : n.fractionDigits.length = n.fraction.length := List.length_map ..
  rw [readNumeral_eq, whole]
  dsimp only
  rw [fractionOf_text]
  dsimp only
  rw [if_neg filled, readExponent_text, Option.bind_some, fractional]
  rfl

/-! ### Characters -/

/-- A character that stands for itself in decimals. -/
def isMark (c : Char) : Bool :=
  !Text.isBlank c && c != '_' && decide (0 < c.toNat ∧ c.toNat < 128)

theorem isMark_digits {digits : List Nat} (each : ∀ d ∈ digits, d < 10) :
    ∀ c ∈ digits.map Text.digitChar, isMark c = true := by
  have all : ∀ d < 10, isMark (Text.digitChar d) = true := by decide
  intro c member
  obtain ⟨d, among, rfl⟩ := List.mem_map.mp member
  exact all d (each d among)

theorem isMark_power (power : Power) : ∀ c ∈ power.text, isMark c = true := by
  obtain ⟨letter, marked, written⟩ := power.text_cons
  have sign : ∀ c ∈ Power.signText power.sign, isMark c = true := by
    cases power.sign with
    | none => exact List.forall_mem_nil _
    | some negative => cases negative <;> exact List.forall_mem_singleton.mpr (by decide)
  rw [written]
  refine List.forall_mem_cons.mpr ⟨?_, List.forall_mem_append.mpr
    ⟨sign, isMark_digits power.digits_lt⟩⟩
  rcases marked with rfl | rfl <;> decide

theorem isMark_text : ∀ c ∈ n.text, isMark c = true := by
  have sign : ∀ c ∈ Decimal.signText n.negative, isMark c = true := by
    cases n.negative
    · exact List.forall_mem_nil _
    · exact List.forall_mem_singleton.mpr (by decide)
  have fraction : ∀ c ∈ n.fractionText, isMark c = true := by
    unfold fractionText
    split
    · exact List.forall_mem_nil _
    · exact List.forall_mem_cons.mpr ⟨by decide, isMark_digits (fin_digits n.fraction)⟩
  have power : ∀ c ∈ n.powerText, isMark c = true := by
    unfold powerText
    cases n.power with
    | none => exact List.forall_mem_nil _
    | some power => exact isMark_power power
  apply List.forall_mem_append.mpr ⟨sign, ?_⟩
  apply List.forall_mem_append.mpr ⟨isMark_digits (Text.digits_lt n.whole), ?_⟩
  exact List.forall_mem_append.mpr ⟨fraction, power⟩

/-- Marks are taken as they are. -/
theorem plainDigits?_marks {text : List Char} (each : ∀ c ∈ text, isMark c = true) :
    Decimal.plainDigits? ((Text.trim text).filter (· ≠ '_')) = some text := by
  have parts : ∀ c ∈ text, Text.isBlank c = false ∧ c ≠ '_' ∧ 0 < c.toNat ∧ c.toNat < 128 := by
    intro c member
    have mark := each c member
    simp only [isMark, Bool.and_eq_true, Bool.not_eq_true', bne_iff_ne, decide_eq_true_eq] at mark
    exact ⟨mark.1.1, mark.1.2, mark.2⟩
  rw [Text.trim_unblank fun c member => (parts c member).1,
    List.filter_eq_self.mpr fun c member => decide_eq_true (parts c member).2.1]
  unfold Decimal.plainDigits?
  have plain := fun c member => (parts c member).2.2
  clear parts each
  induction text with
  | nil => rfl
  | cons c rest ih =>
    obtain ⟨here, later⟩ := List.forall_mem_cons.mp plain
    rw [List.mapM_cons, if_pos here, ih later]
    rfl

theorem splitSign_text :
    Decimal.splitSign n.text = (n.negative, n.unsignedText) := by
  obtain ⟨d, others, digit, begun⟩ := Text.ofNat_cons n.whole
  unfold text
  cases n.negative with
  | true => rfl
  | false =>
    have plain := splitSign_digit digit (others ++ (n.fractionText ++ n.powerText))
    rw [← List.cons_append, ← begun] at plain
    exact plain

/-- The reader of decimals reads the number as it is written, unless the power of ten is out of
bounds. -/
theorem ofText?_text :
    Decimal.ofText? n.text = Decimal.bounded? n.negative n.coefficient n.exponent := by
  unfold Decimal.ofText?
  rw [plainDigits?_marks n.isMark_text]
  simp only [bind, Option.bind, splitSign_text, readNumeral_text]

/-- A text begins with its sign or with a digit, so no word is found in its place. -/
theorem readValue_text (levels depth place : Nat) {rest : List Char} (ends : EndsValue rest) :
    readValue (levels + 1) depth ⟨n.text ++ rest, place⟩ =
      if n.IsLong then .error .tooManyDigits
      else .ok (n.decoded, ⟨rest, place + n.text.length⟩) := by
  obtain ⟨d, others, digit, begun⟩ := Text.ofNat_cons n.whole
  have number (place : Nat) := n.readNumber_text place ends
  have first : n.unsignedText ++ rest =
      Text.digitChar d :: (others ++ (n.fractionText ++ n.powerText) ++ rest) := by
    rw [unsignedText, begun, List.cons_append, List.cons_append]
  unfold text
  cases sign : n.negative with
  | true =>
    rw [sign] at number
    have length : (Decimal.signText true ++ n.unsignedText).length =
        1 + n.unsignedText.length := Nat.add_comm ..
    refine Eq.trans ?_ ((number (place + 1)).trans (by rw [length, Nat.add_assoc]))
    show readValue (levels + 1) depth ⟨'-' :: (n.unsignedText ++ rest), place⟩ = _
    rw [first, readValue_unquoted (by decide) _ _ _ _ (wordAt?_digit digit _ _).2,
      if_neg (by decide), if_pos ⟨rfl, isDigit_digitChar digit⟩]
  | false =>
    rw [sign] at number
    refine Eq.trans ?_ (number place)
    show readValue (levels + 1) depth ⟨n.unsignedText ++ rest, place⟩ = _
    rw [first, readValue_unquoted (digitChar_begins digit).2 _ _ _ _ (wordAt?_digit digit _ _).1,
      if_pos (isDigit_digitChar digit)]

/-- A text begins with no blank. -/
theorem text_begins : ∃ first rest, n.text = first :: rest ∧ isBlank first = false := by
  obtain ⟨d, others, digit, begun⟩ := Text.ofNat_cons n.whole
  unfold text unsignedText
  rw [begun]
  cases n.negative with
  | true => exact ⟨_, _, rfl, rfl⟩
  | false => exact ⟨_, _, rfl, (digitChar_begins digit).1⟩

/-- The number is read wherever it stands, unless it is too long. -/
theorem readsAs_text {n : Numeral} (short : ¬ n.IsLong) (height : Nat) :
    ReadsAs n.text n.decoded height where
  begins := n.text_begins
  read place _ _ _ ends := by rw [n.readValue_text _ _ place ends, if_neg short]

/-- The reader of JSON reads the number as it is decoded, unless it is too long. -/
theorem read_text :
    Json.read n.text = if n.IsLong then .error .tooManyDigits else .ok n.decoded := by
  have unblank : (Cursor.mk n.text 0).skipBlanks = ⟨n.text, 0⟩ := by
    obtain ⟨first, rest, written, plain⟩ := n.text_begins
    rw [written]
    exact skipBlanks_unblank 0 plain
  have ends : EndsValue [] := by rintro c ⟨⟩
  have found := n.readValue_text n.text.length maxDepth 0 ends
  rw [List.append_nil] at found
  unfold Json.read
  rw [unblank, found]
  split <;> rfl

end Numeral

end Outreach.Json
