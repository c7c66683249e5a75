/-!
The writing of a label in ASCII. The ASCII characters of the label come first; the others follow as
numbers, each of which tells how far it is from one character and place to the next, in ascending
order of the characters. Main statement: a number that is written is read back, whatever follows it.
-/

namespace Outreach.Domain.Punycode

/-- The digits: letters, then the ten decimal digits. -/
def digit (n : Nat) : Char := Char.ofNat (if n < 26 then 0x61 + n else 0x30 + (n - 26))

def digitValue? (c : Char) : Option Nat :=
  if 'a' ≤ c ∧ c ≤ 'z' then some (c.toNat - 0x61)
  else if '0' ≤ c ∧ c ≤ '9' then some (c.toNat - 0x30 + 26)
  else none

theorem digitValue?_digit (n : Nat) (small : n < 36) : digitValue? (digit n) = some n := by
  have each : ∀ m ∈ List.range 36, digitValue? (digit m) = some m := by decide
  exact each n (List.mem_range.mpr small)

/-- The least value of a digit, counted from the lowest, after which another follows. -/
def threshold (bias place : Nat) : Nat := max 1 (min 26 (36 * (place + 1) - bias))

theorem threshold_pos (bias place : Nat) : 1 ≤ threshold bias place := by
  unfold threshold
  omega

theorem threshold_le (bias place : Nat) : threshold bias place ≤ 26 := by
  unfold threshold
  omega

/-- Divides a distance until it is small, and counts 36 for each division. -/
def divisions (distance : Nat) : Nat × Nat :=
  if 455 < distance then
    let (rest, count) := divisions (distance / 35)
    (rest, count + 36)
  else (distance, 0)
termination_by distance
decreasing_by omega

/-- The bias for the next number, after a distance that led to so many characters. -/
def adapted (distance size : Nat) (isFirst : Bool) : Nat :=
  let scaled := if isFirst then distance / 700 else distance / 2
  let (rest, count) := divisions (scaled + scaled / size)
  count + 36 * rest / (rest + 38)

/-! ### Writing -/

/-- The digits of a number, the lowest first, from the one at a place on. -/
def number (bias place n : Nat) : List Char :=
  if n < threshold bias place then [digit n]
  else
    digit (threshold bias place + (n - threshold bias place) % (36 - threshold bias place)) ::
      number bias (place + 1) ((n - threshold bias place) / (36 - threshold bias place))
termination_by n
decreasing_by
  have positive := threshold_pos bias place
  have := Nat.div_le_self (n - threshold bias place) (36 - threshold bias place)
  omega

/-- What was written so far: its digits, the distance since the last character, the bias, and the
number of characters that are done. -/
structure Progress where
  written : List Char := []
  distance : Nat := 0
  bias : Nat := 72
  done : Nat

/-- Passes a character of the label while those with a code are written. -/
def pass (plain code : Nat) (progress : Progress) (c : Char) : Progress :=
  if c.toNat < code then { progress with distance := progress.distance + 1 }
  else if c.toNat = code then
    let size := progress.done + 1
    { written := progress.written ++ number progress.bias 0 progress.distance
      distance := 0
      bias := adapted progress.distance size (progress.done = plain)
      done := size }
  else progress

/-- Writes the characters with the given codes, from the code that was reached on. -/
def writeFrom (label : List Char) (plain : Nat) :
    (reached : Nat) → Progress → List Nat → List Char
  | _, progress, [] => progress.written
  | reached, progress, code :: rest =>
      let far := progress.distance + (code - reached) * (progress.done + 1)
      let progress := label.foldl (pass plain code) { progress with distance := far }
      writeFrom label plain (code + 1) { progress with distance := progress.distance + 1 } rest

def isAscii (c : Char) : Bool := c.toNat < 0x80

/-- The ASCII form of a label. -/
def encode (label : List Char) : List Char :=
  let plain := label.filter isAscii
  let codes := ((label.filter fun c => !isAscii c).map Char.toNat).eraseDups.mergeSort
  plain ++ (if plain = [] then [] else ['-']) ++
    writeFrom label plain.length 0x80 { done := plain.length } codes

/-! ### Reading -/

/-- A number, of which the digits before a place are read and come to a sum, and what follows it. -/
def readNumber (bias : Nat) : (place weight sum : Nat) → List Char → Option (Nat × List Char)
  | _, _, _, [] => none
  | place, weight, sum, c :: rest =>
      match digitValue? c with
      | none => none
      | some value =>
          if value < threshold bias place then some (sum + value * weight, rest)
          else
            readNumber bias (place + 1) (weight * (36 - threshold bias place))
              (sum + value * weight) rest

theorem length_of_readNumber {bias place weight sum n : Nat} {text rest : List Char}
    (found : readNumber bias place weight sum text = some (n, rest)) :
    rest.length < text.length := by
  induction text generalizing place weight sum with
  | nil => simp [readNumber] at found
  | cons c tail ih =>
      rw [readNumber] at found
      split at found
      · simp at found
      · split at found
        · simp only [Option.some.injEq, Prod.mk.injEq] at found
          simp [found.2]
        · have := ih found
          simp only [List.length_cons]
          omega

/-- Puts the characters that numbers stand for into a text, from the character and place that were
reached on. -/
def readFrom (bias reached position : Nat) (text : List Char) (isFirst : Bool)
    (numbers : List Char) : Option (List Char) :=
  if numbers = [] then some text
  else
    match _ : readNumber bias 0 1 0 numbers with
    | none => none
    | some (distance, rest) =>
        let size := text.length + 1
        let code := reached + (position + distance) / size
        let place := (position + distance) % size
        if code.isValidChar then
          readFrom (adapted distance size isFirst) code (place + 1)
            (text.take place ++ Char.ofNat code :: text.drop place) false rest
        else none
termination_by numbers.length
decreasing_by exact length_of_readNumber (by assumption)

/-- The label that an ASCII form stands for. -/
def decode? (form : List Char) : Option (List Char) :=
  let numbers := (form.reverse.takeWhile (· ≠ '-')).reverse
  readFrom 72 0x80 0 ((form.take (form.length - numbers.length)).dropLast) true numbers

/-! ### Writing and reading -/

theorem readNumber_number (bias : Nat) (n place weight sum : Nat) (rest : List Char) :
    readNumber bias place weight sum (number bias place n ++ rest) =
      some (sum + n * weight, rest) := by
  induction n using Nat.strongRecOn generalizing place weight sum with
  | ind n ih =>
      have positive := threshold_pos bias place
      have bounded := threshold_le bias place
      rw [number]
      split
      · next small =>
          simp [readNumber, digitValue?_digit n (by omega), small]
      · next large =>
          have below : (n - threshold bias place) % (36 - threshold bias place) <
              36 - threshold bias place := Nat.mod_lt _ (by omega)
          have less : (n - threshold bias place) / (36 - threshold bias place) < n := by
            have := Nat.div_le_self (n - threshold bias place) (36 - threshold bias place)
            omega
          simp only [List.cons_append, readNumber]
          rw [digitValue?_digit _ (by omega)]
          simp only [show ¬ threshold bias place + (n - threshold bias place) %
            (36 - threshold bias place) < threshold bias place by omega, ↓reduceIte]
          rw [ih _ less]
          have divided := Nat.mod_add_div (n - threshold bias place) (36 - threshold bias place)
          congr 2
          generalize (n - threshold bias place) / (36 - threshold bias place) = quotient at *
          generalize (n - threshold bias place) % (36 - threshold bias place) = remainder at *
          have whole : n = threshold bias place + remainder +
              (36 - threshold bias place) * quotient := by omega
          have product : quotient * (weight * (36 - threshold bias place)) =
              (36 - threshold bias place) * quotient * weight := by
            rw [Nat.mul_comm weight, ← Nat.mul_assoc, Nat.mul_comm quotient]
          rw [product, Nat.add_assoc, ← Nat.add_mul, ← whole]

end Outreach.Domain.Punycode
