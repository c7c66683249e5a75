import Outreach.Proofs.Calendar.Exchange
import Outreach.Text.Base64
import Outreach.Text.Utf8

/-! Bytes come back from their text of 64 characters, and texts from their bytes. The text of some
bytes has no filling; reading adds it, and takes it for the end of a last group that is not full. -/

namespace Outreach.Text

/-! ### Bytes of a text -/

theorem encode_ascii {text : List Char} (ascii : IsAscii text) :
    Utf8.encode text = bytesOf text := by
  have arrays : (Utf8.encode text).toByteArray = (bytesOf text).toByteArray := utf8Encode_ascii ascii
  have bytes := congrArg (fun array => array.data.toList) arrays
  simpa only [List.toList_data_toByteArray] using bytes

/-- A text comes back from its bytes. -/
theorem fromUTF8?_encode (text : List Char) :
    String.fromUTF8? (Utf8.encode text).toByteArray = some (String.ofList text) := by
  have bytes : (Utf8.encode text).toByteArray = (String.ofList text).toByteArray := by
    rw [String.toByteArray_ofList]
    rfl
  have valid : (Utf8.encode text).toByteArray.IsValidUTF8 := by
    rw [bytes]
    exact (String.ofList text).isValidUTF8
  have same : String.ofByteArray (Utf8.encode text).toByteArray valid = String.ofList text :=
    String.toByteArray_inj.mp bytes
  unfold String.fromUTF8?
  rw [dif_pos (by simpa using valid)]
  exact congrArg some same

namespace Base64

/-! ### Groups of characters -/

theorem value?_digit {n : Nat} (small : n < 64) : value? (UInt8.ofNat (digit n).toNat) = some n := by
  revert n
  decide

theorem digit_ascii {n : Nat} (small : n < 64) : (digit n).toNat < 128 := by
  revert n
  decide

theorem digit_ne_filling {n : Nat} (small : n < 64) : UInt8.ofNat (digit n).toNat ≠ 61 := by
  revert n
  decide

/-- A character of the alphabet is taken into its group. -/
theorem decodeFrom_digit (g : Group) {n : Nat} (small : n < 64) (rest : List UInt8) :
    decodeFrom g (UInt8.ofNat (digit n).toNat :: rest) =
      (decodeFrom (g.take n).2 rest).map ((g.take n).1.toList ++ ·) := by
  rw [decodeFrom, if_neg (digit_ne_filling small), value?_digit small]

/-- The characters of the text of some bytes are letters, digits and two signs. -/
theorem mem_encode {bytes : List UInt8} {c : Char} (member : c ∈ encode bytes) :
    ∃ n, n < 64 ∧ c = digit n := by
  induction bytes using encode.induct with
  | case1 => cases member
  | case2 a =>
    have := a.toNat_lt
    simp only [encode, List.mem_cons, List.not_mem_nil, or_false] at member
    rcases member with rfl | rfl
    · exact ⟨_, by omega, rfl⟩
    · exact ⟨_, by omega, rfl⟩
  | case3 a b =>
    have := a.toNat_lt
    have := b.toNat_lt
    simp only [encode, List.mem_cons, List.not_mem_nil, or_false] at member
    rcases member with rfl | rfl | rfl
    · exact ⟨_, by omega, rfl⟩
    · exact ⟨_, by omega, rfl⟩
    · exact ⟨_, by omega, rfl⟩
  | case4 a b c rest ih =>
    have := a.toNat_lt
    have := b.toNat_lt
    have := c.toNat_lt
    simp only [encode, List.mem_cons] at member
    rcases member with rfl | rfl | rfl | rfl | later
    · exact ⟨_, by omega, rfl⟩
    · exact ⟨_, by omega, rfl⟩
    · exact ⟨_, by omega, rfl⟩
    · exact ⟨_, by omega, rfl⟩
    · exact ih later

theorem encode_ascii (bytes : List UInt8) : IsAscii (encode bytes) := by
  intro c member
  obtain ⟨n, small, rfl⟩ := mem_encode member
  exact digit_ascii small

/-- The filling that is read after the text of some bytes. -/
def filling (bytes : List UInt8) : List UInt8 :=
  List.replicate ((4 - (encode bytes).length % 4) % 4) 61

theorem filling_group (a b c : UInt8) (rest : List UInt8) :
    filling (a :: b :: c :: rest) = filling rest := by
  have more : (encode (a :: b :: c :: rest)).length = (encode rest).length + 4 := rfl
  rw [filling, filling, more, Nat.add_mod_right]

section
variable (low : Nat) {high : Nat}

/-! The bits of a byte lie in two characters that follow each other. Each of the two may share its
place with the bits of a byte beside it. -/

theorem firstByte (a : UInt8) (small : high < 16) :
    UInt8.ofNat (a.toNat / 4 * 4 + (a.toNat % 4 * 16 + high) / 16) = a := by
  have whole : a.toNat / 4 * 4 + (a.toNat % 4 * 16 + high) / 16 = a.toNat := by omega
  rw [whole, UInt8.ofNat_toNat]

theorem secondByte (b : UInt8) (small : high < 4) : UInt8.ofNat
    ((low * 16 + b.toNat / 16) % 16 * 16 + (b.toNat % 16 * 4 + high) / 4) = b := by
  have := b.toNat_lt
  have whole : (low * 16 + b.toNat / 16) % 16 * 16 + (b.toNat % 16 * 4 + high) / 4 = b.toNat := by
    omega
  rw [whole, UInt8.ofNat_toNat]

theorem thirdByte (c : UInt8) :
    UInt8.ofNat ((low * 4 + c.toNat / 64) % 4 * 64 + c.toNat % 64) = c := by
  have := c.toNat_lt
  have whole : (low * 4 + c.toNat / 64) % 4 * 64 + c.toNat % 64 = c.toNat := by omega
  rw [whole, UInt8.ofNat_toNat]

end

/-- The induction takes three bytes at a time, as writing does: four characters bring each three of
them back, and what is left of a last group comes before the filling. -/
theorem decodeFrom_encode (bytes : List UInt8) :
    decodeFrom {} (bytesOf (encode bytes) ++ filling bytes) = some bytes := by
  induction bytes using encode.induct with
  | case1 => rfl
  | case2 a =>
    have := a.toNat_lt
    show decodeFrom {} (UInt8.ofNat (digit (a.toNat / 4)).toNat ::
      UInt8.ofNat (digit (a.toNat % 4 * 16 + 0)).toNat :: [61, 61]) = _
    rw [decodeFrom_digit _ (by omega), decodeFrom_digit _ (by omega)]
    have first := firstByte a (by decide : 0 < 16)
    have ends : decodeFrom ⟨2, (a.toNat % 4 * 16 + 0) % 16, 0⟩ [61, 61] = some [] := rfl
    simp only [Group.take, ends, first, Option.map_some, Option.toList_none,
      Option.toList_some, List.nil_append, List.append_nil]
  | case3 a b =>
    have := a.toNat_lt
    have := b.toNat_lt
    show decodeFrom {} (UInt8.ofNat (digit (a.toNat / 4)).toNat ::
      UInt8.ofNat (digit (a.toNat % 4 * 16 + b.toNat / 16)).toNat ::
      UInt8.ofNat (digit (b.toNat % 16 * 4 + 0)).toNat :: [61]) = _
    rw [decodeFrom_digit _ (by omega), decodeFrom_digit _ (by omega),
      decodeFrom_digit _ (by omega)]
    have first := firstByte a (by omega : b.toNat / 16 < 16)
    have second := secondByte (a.toNat % 4) b (by decide : 0 < 4)
    have ends : decodeFrom ⟨3, (b.toNat % 16 * 4 + 0) % 4, 0⟩ [61] = some [] := rfl
    simp only [Group.take, ends, first, second, Option.map_some, Option.toList_none,
      Option.toList_some, List.nil_append, List.cons_append]
  | case4 a b c rest ih =>
    have := a.toNat_lt
    have := b.toNat_lt
    have := c.toNat_lt
    rw [filling_group]
    show decodeFrom {} (UInt8.ofNat (digit (a.toNat / 4)).toNat ::
      UInt8.ofNat (digit (a.toNat % 4 * 16 + b.toNat / 16)).toNat ::
      UInt8.ofNat (digit (b.toNat % 16 * 4 + c.toNat / 64)).toNat ::
      UInt8.ofNat (digit (c.toNat % 64)).toNat :: (bytesOf (encode rest) ++ filling rest)) = _
    rw [decodeFrom_digit _ (by omega), decodeFrom_digit _ (by omega),
      decodeFrom_digit _ (by omega), decodeFrom_digit _ (by omega)]
    have first := firstByte a (by omega : b.toNat / 16 < 16)
    have second := secondByte (a.toNat % 4) b (by omega : c.toNat / 64 < 4)
    have third := thirdByte (b.toNat % 16) c
    simp only [Group.take, ih, first, second, third, Option.map_some, Option.toList_none,
      Option.toList_some, List.nil_append, List.cons_append]

/-- Bytes are read again from their text. -/
theorem decode?_encode (bytes : List UInt8) :
    decode? (Utf8.encode (encode bytes)) = some bytes := by
  have length : (bytesOf (encode bytes)).length = (encode bytes).length := List.length_map ..
  rw [Text.encode_ascii (encode_ascii bytes), decode?, length]
  exact decodeFrom_encode bytes

end Base64

end Outreach.Text
