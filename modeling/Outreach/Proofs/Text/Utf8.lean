import Outreach.Text.Utf8

/-! Texts come back from their bytes. The first byte of a character says how many are to follow, and
the bounds of the second keep out what has a shorter form, so that each character is read from just
the bytes that it was written as, whatever comes after them. -/

namespace Outreach.Text.Utf8

variable {n byte bits part low high remaining lead : Nat} {rest : List UInt8}

/-! ### Bytes -/

/-- A byte below 128 is a character of its own. -/
theorem decodeFrom_alone (small : byte < 0x80) :
    decodeFrom none (UInt8.ofNat byte :: rest) = Char.ofNat byte :: decodeFrom none rest := by
  have value := UInt8.toNat_ofNat_of_lt' (show byte < 256 by omega)
  simp only [decodeFrom, next, first, value, small, if_true, List.singleton_append]

theorem decodeFrom_begin {begun : Begun} (fits : byte < 256) (begins : begin? byte = some begun) :
    decodeFrom none (UInt8.ofNat byte :: rest) = decodeFrom (some begun) rest := by
  have value := UInt8.toNat_ofNat_of_lt' fits
  have large : ¬ byte < 0x80 := by
    intro small
    rw [begin?, if_pos (by omega)] at begins
    cases begins
  simp only [decodeFrom, next, first, value, large, if_false, begins, List.nil_append]

/-- A byte with six more bits, after which others follow. -/
theorem decodeFrom_more (small : part < 64) (above : low ≤ part + 128) (below : part + 128 ≤ high) :
    decodeFrom (some ⟨remaining + 2, bits, low, high⟩) (UInt8.ofNat (part + 128) :: rest) =
      decodeFrom (some { remaining := remaining + 1, bits := bits * 64 + part }) rest := by
  have value := UInt8.toNat_ofNat_of_lt' (show part + 128 < 256 by omega)
  have unfinished : ¬ remaining + 2 ≤ 1 := by omega
  simp only [decodeFrom, next, value, above, below, and_self, if_true, unfinished, if_false,
    Nat.add_sub_cancel, List.nil_append]
  rfl

/-- The byte with the last six bits. -/
theorem decodeFrom_last (small : part < 64) (above : low ≤ part + 128) (below : part + 128 ≤ high) :
    decodeFrom (some ⟨1, bits, low, high⟩) (UInt8.ofNat (part + 128) :: rest) =
      Char.ofNat (bits * 64 + part) :: decodeFrom none rest := by
  have value := UInt8.toNat_ofNat_of_lt' (show part + 128 < 256 by omega)
  simp only [decodeFrom, next, value, above, below, and_self, if_true, Nat.le_refl,
    Nat.add_sub_cancel, List.singleton_append]

/-! ### First bytes -/

theorem begin?_two (fits : lead < 32) (long : 2 ≤ lead) :
    begin? (lead + 192) = some { remaining := 1, bits := lead } := by
  revert lead
  decide

theorem begin?_three (fits : lead < 16) : begin? (lead + 224) = some {
    remaining := 2
    bits := lead
    low := if lead = 0 then 0xa0 else 0x80
    high := if lead = 13 then 0x9f else 0xbf } := by
  revert lead
  decide

theorem begin?_four (fits : lead < 5) : begin? (lead + 240) = some {
    remaining := 3
    bits := lead
    low := if lead = 0 then 0x90 else 0x80
    high := if lead = 4 then 0x8f else 0xbf } := by
  revert lead
  decide

/-! ### Characters -/

theorem decodeFrom_two (long : 0x7f < n) (short : n ≤ 0x7ff) :
    decodeFrom none (UInt8.ofNat (n / 64 % 32 + 192) :: UInt8.ofNat (n % 64 + 128) :: rest) =
      Char.ofNat n :: decodeFrom none rest := by
  have begins := begin?_two (show n / 64 % 32 < 32 by omega) (by omega)
  have whole : n / 64 % 32 * 64 + n % 64 = n := by omega
  rw [decodeFrom_begin (by omega) begins, decodeFrom_last (by omega) (by omega) (by omega), whole]

theorem decodeFrom_three (long : 0x7ff < n) (short : n ≤ 0xffff)
    (valid : n < 0xd800 ∨ 0xdfff < n) :
    decodeFrom none (UInt8.ofNat (n / 4096 % 16 + 224) :: UInt8.ofNat (n / 64 % 64 + 128) ::
      UInt8.ofNat (n % 64 + 128) :: rest) = Char.ofNat n :: decodeFrom none rest := by
  have begins := begin?_three (show n / 4096 % 16 < 16 by omega)
  have whole : (n / 4096 % 16 * 64 + n / 64 % 64) * 64 + n % 64 = n := by omega
  -- The second byte has bounds of its own after 0, where a shorter form would do, and after 13,
  -- where halves of pairs would come.
  rw [decodeFrom_begin (by omega) begins,
    decodeFrom_more (by omega) (by split <;> omega) (by split <;> omega),
    decodeFrom_last (by omega) (by omega) (by omega), whole]

theorem decodeFrom_four (long : 0xffff < n) (short : n < 0x110000) :
    decodeFrom none (UInt8.ofNat (n / 262144 % 8 + 240) :: UInt8.ofNat (n / 4096 % 64 + 128) ::
      UInt8.ofNat (n / 64 % 64 + 128) :: UInt8.ofNat (n % 64 + 128) :: rest) =
      Char.ofNat n :: decodeFrom none rest := by
  have begins := begin?_four (show n / 262144 % 8 < 5 by omega)
  have whole : ((n / 262144 % 8 * 64 + n / 4096 % 64) * 64 + n / 64 % 64) * 64 + n % 64 = n := by
    omega
  rw [decodeFrom_begin (by omega) begins,
    decodeFrom_more (by omega) (by split <;> omega) (by split <;> omega),
    decodeFrom_more (by omega) (by omega) (by omega),
    decodeFrom_last (by omega) (by omega) (by omega), whole]

/-- A character is read from its bytes, whatever follows them. -/
theorem decodeFrom_utf8EncodeChar (c : Char) (rest : List UInt8) :
    decodeFrom none (String.utf8EncodeChar c ++ rest) = c :: decodeFrom none rest := by
  have valid : c.val.toNat < 0xd800 ∨ 0xdfff < c.val.toNat ∧ c.val.toNat < 0x110000 := c.valid
  have code : Char.ofNat c.val.toNat = c := Char.ofNat_toNat c
  conv => rhs; rw [← code]
  unfold String.utf8EncodeChar
  generalize c.val.toNat = n at valid ⊢
  dsimp only
  split
  case isTrue one => exact decodeFrom_alone (by omega)
  split
  case isTrue two => exact decodeFrom_two (by omega) two
  split
  case isTrue three => exact decodeFrom_three (by omega) three (by omega)
  case isFalse => exact decodeFrom_four (by omega) (by omega)

/-- A text comes back from its bytes. -/
theorem decode_encode (text : List Char) : decode (encode text) = text := by
  induction text with
  | nil => rfl
  | cons c rest ih =>
    have split : encode (c :: rest) = String.utf8EncodeChar c ++ encode rest := rfl
    rw [decode, split, decodeFrom_utf8EncodeChar]
    exact congrArg (c :: ·) ih

end Outreach.Text.Utf8
