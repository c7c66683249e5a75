/-!
Hexadecimal digits, and bytes written with two of them each.
-/

namespace Outreach.Text

def hexDigit (n : Nat) : Char :=
  if n < 10 then Char.ofNat (48 + n) else Char.ofNat (87 + n)

/-- The value of a hexadecimal digit. -/
def hexValue? (c : Char) : Option Nat :=
  if '0' ≤ c ∧ c ≤ '9' then some (c.toNat - 48)
  else if 'a' ≤ c ∧ c ≤ 'f' then some (c.toNat - 87)
  else if 'A' ≤ c ∧ c ≤ 'F' then some (c.toNat - 55)
  else none

theorem hexValue?_hexDigit (n : Fin 16) : hexValue? (hexDigit n) = some n.val := by
  revert n
  decide

/-- The lower-case hexadecimal text of a number with exactly the given number of places. -/
def hexPadded : (places n : Nat) → List Char
  | 0, _ => []
  | places + 1, n => hexPadded places (n / 16) ++ [hexDigit (n % 16)]

theorem length_hexPadded (places n : Nat) : (hexPadded places n).length = places := by
  induction places generalizing n with
  | zero => rfl
  | succ places ih => simp [hexPadded, ih]

/-- Bytes as pairs of digits. -/
def hexOfBytes (bytes : List UInt8) : List Char := bytes.flatMap fun byte => hexPadded 2 byte.toNat

/-- The bytes that pairs of digits write. -/
def bytesOfHex? : List Char → Option (List UInt8)
  | [] => some []
  | [_] => none
  | high :: low :: rest =>
      match hexValue? high, hexValue? low, bytesOfHex? rest with
      | some h, some l, some bytes => some (UInt8.ofNat (h * 16 + l) :: bytes)
      | _, _, _ => none

theorem length_hexOfBytes (bytes : List UInt8) : (hexOfBytes bytes).length = 2 * bytes.length := by
  induction bytes with
  | nil => rfl
  | cons byte rest ih =>
    simp only [hexOfBytes, List.flatMap_cons, List.length_append, length_hexPadded,
      List.length_cons] at ih ⊢
    omega

end Outreach.Text
