/-!
Halves of pairs. Texts from outside may name a code unit that is half of a pair of which the other
half is missing. It is no character; a private-use character of the last plane stands in for it, so
that it is not lost, and what takes texts by their characters can tell it.
-/

namespace Outreach.Text

def isHighUnit (unit : Nat) : Bool := 0xd800 ≤ unit && unit < 0xdc00

def isLowUnit (unit : Nat) : Bool := 0xdc00 ≤ unit && unit < 0xe000

/-- The character that two halves make. -/
def ofPair (high low : Nat) : Char :=
  Char.ofNat (0x10000 + (high - 0xd800) * 0x400 + (low - 0xdc00))

/-- How far above a half the character is that stands in for it. -/
def halfShift : Nat := 0x100000

/-- The character of a code unit, or what stands in for a half. -/
def ofUnit (unit : Nat) : Char :=
  if isHighUnit unit || isLowUnit unit then Char.ofNat (halfShift + unit) else Char.ofNat unit

/-- The half that a character stands in for. -/
def half? (c : Char) : Option Nat :=
  let unit := c.toNat - halfShift
  if halfShift ≤ c.toNat ∧ (isHighUnit unit || isLowUnit unit) then some unit else none

def isHalf (c : Char) : Bool := (half? c).isSome

/-- Whether a text has only characters. -/
def isWhole (text : String) : Bool := !text.toList.any isHalf

/-- A text with each half replaced as its bytes would be, which are three that begin nothing. -/
def withoutHalves (text : String) : String :=
  let cover := List.replicate 3 '\ufffd'
  String.ofList (text.toList.flatMap fun c => if isHalf c then cover else [c])

theorem half?_ofUnit (unit : Nat) (half : (isHighUnit unit || isLowUnit unit) = true) :
    half? (ofUnit unit) = some unit := by
  have bounds : 0xd800 ≤ unit ∧ unit < 0xe000 := by
    simp only [isHighUnit, isLowUnit, Bool.or_eq_true, Bool.and_eq_true, decide_eq_true_eq] at half
    omega
  have valid : (halfShift + unit).isValidChar := by
    unfold Nat.isValidChar halfShift
    omega
  have code : (Char.ofNat (halfShift + unit)).toNat = halfShift + unit := by
    rw [Char.ofNat, dif_pos valid]
    rfl
  simp [half?, ofUnit, half, code]

end Outreach.Text
