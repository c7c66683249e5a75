import Outreach.Http.Target
import Outreach.Proofs.Http.Cookie
import Outreach.Proofs.Text.Utf8

/-! Names and values come back from the text that carries them, whatever characters they hold and
however many they are. What they are written with has none of the signs that tell them apart, and
each byte is read from just the characters that it was written as. A text of ASCII characters in
which no sign of the encoding stands is read as it is, too. -/

namespace Outreach.Form

variable {c sign : Char} {n : Nat}

/-! ### What encoded texts are written with -/

/-- A character that stands in an encoded name or value. -/
def isWritten (c : Char) : Bool := Http.Target.isUnreserved c || c == '+' || c == '%'

/-- A byte that stands for itself is an unreserved character, and its only byte. -/
theorem isPlain_alone {byte : UInt8} (plain : isPlain byte = true) :
    Http.Target.isUnreserved (Char.ofNat byte.toNat) = true ∧
      String.utf8EncodeChar (Char.ofNat byte.toNat) = [byte] := by
  have each : ∀ n < 256, isPlain (UInt8.ofNat n) = true →
      Http.Target.isUnreserved (Char.ofNat n) = true ∧
        String.utf8EncodeChar (Char.ofNat n) = [UInt8.ofNat n] := by decide +kernel
  have found := each byte.toNat byte.toNat_lt
  rw [UInt8.ofNat_toNat] at found
  exact found plain

theorem isUnreserved_hexDigit (small : n < 16) :
    Http.Target.isUnreserved (hexDigit n) = true := by
  revert n
  decide

theorem isWritten_of_isUnreserved (unreserved : Http.Target.isUnreserved c = true) :
    isWritten c = true := by
  rw [isWritten, unreserved, Bool.true_or, Bool.true_or]

theorem encodeByte_written (byte : UInt8) : ∀ c ∈ encodeByte byte, isWritten c = true := by
  have fits := byte.toNat_lt
  unfold encodeByte
  split
  case isTrue plain =>
    intro c member
    rw [List.mem_singleton.mp member]
    exact isWritten_of_isUnreserved (isPlain_alone plain).1
  split
  case isTrue => exact List.forall_mem_singleton.mpr (by decide)
  case isFalse =>
    simp only [List.forall_mem_cons]
    exact ⟨by decide, isWritten_of_isUnreserved (isUnreserved_hexDigit (by omega)),
      isWritten_of_isUnreserved (isUnreserved_hexDigit (by omega)), List.forall_mem_nil _⟩

theorem encodeText_written (text : List Char) : ∀ c ∈ encodeText text, isWritten c = true := by
  intro c member
  obtain ⟨byte, -, within⟩ := List.mem_flatMap.mp member
  exact encodeByte_written byte c within

theorem notMem_encodeText (special : isWritten sign = false) (text : List Char) :
    sign ∉ encodeText text := by
  intro member
  cases special.symm.trans (encodeText_written text sign member)

/-! ### Bytes -/

/-- A plus sign stands for a space. -/
def spaced (c : Char) : Char := if c = '+' then ' ' else c

theorem spaced_of_isUnreserved (unreserved : Http.Target.isUnreserved c = true) :
    spaced c = c := by
  refine if_neg ?_
  rintro rfl
  exact absurd unreserved (by decide)

theorem percentBytes_cons (literal : c ≠ '%') (rest : List Char) :
    percentBytes (c :: rest) = String.utf8EncodeChar c ++ percentBytes rest := by
  match rest with
  | [] => simp [percentBytes]
  | [_] => rfl
  | _ :: _ :: _ => rw [percentBytes, if_neg literal]

theorem hexValue?_hexDigit (small : n < 16) : Text.hexValue? (hexDigit n) = some n := by
  revert n
  decide

theorem percentBytes_escape (byte : UInt8) (rest : List Char) :
    percentBytes ('%' :: hexDigit (byte.toNat / 16) :: hexDigit (byte.toNat % 16) :: rest) =
      byte :: percentBytes rest := by
  have fits := byte.toNat_lt
  have whole : byte.toNat / 16 * 16 + byte.toNat % 16 = byte.toNat := by omega
  rw [percentBytes, if_pos rfl, hexValue?_hexDigit (by omega), hexValue?_hexDigit (by omega)]
  dsimp only
  rw [whole, UInt8.ofNat_toNat]

/-- A byte is read from the characters that it was written as, whatever follows them. -/
theorem percentBytes_encodeByte (byte : UInt8) (rest : List Char) :
    percentBytes ((encodeByte byte).map spaced ++ rest) = byte :: percentBytes rest := by
  have fits := byte.toNat_lt
  unfold encodeByte
  split
  case isTrue plain =>
    obtain ⟨unreserved, alone⟩ := isPlain_alone plain
    have literal : Char.ofNat byte.toNat ≠ '%' := by
      intro sign
      rw [sign] at unreserved
      exact absurd unreserved (by decide)
    rw [List.map_singleton, spaced_of_isUnreserved unreserved, List.singleton_append,
      percentBytes_cons literal, alone, List.singleton_append]
  split
  case isTrue space =>
    have same : byte = UInt8.ofNat 0x20 := by rw [← space, UInt8.ofNat_toNat]
    rw [same]
    exact percentBytes_cons (by decide) rest
  case isFalse =>
    have high := isUnreserved_hexDigit (show byte.toNat / 16 < 16 by omega)
    have low := isUnreserved_hexDigit (show byte.toNat % 16 < 16 by omega)
    simp only [List.map_cons, List.map_nil, spaced_of_isUnreserved high,
      spaced_of_isUnreserved low]
    exact percentBytes_escape byte rest

theorem percentBytes_encoded (bytes : List UInt8) :
    percentBytes ((bytes.flatMap encodeByte).map spaced) = bytes := by
  induction bytes with
  | nil => rfl
  | cons byte rest ih =>
    rw [List.flatMap_cons, List.map_append, percentBytes_encodeByte, ih]

/-- A name or a value comes back from its encoded text. -/
theorem decodeText_encodeText (text : List Char) : decodeText (encodeText text) = text := by
  have bytes : percentBytes ((encodeText text).map spaced) = Text.Utf8.encode text :=
    percentBytes_encoded _
  show Text.Utf8.decode (percentBytes ((encodeText text).map spaced)) = text
  rw [bytes, Text.Utf8.decode_encode]

/-! ### Names with their values -/

theorem splitAt_eq_splitOn (sign : Char) (text : List Char) :
    splitAt sign text = text.splitOn sign := by
  induction text with
  | nil => rfl
  | cons c rest ih =>
    obtain ⟨part, others, parted⟩ := List.exists_cons_of_ne_nil (List.splitOn_ne_nil sign rest)
    rw [splitAt, ih, List.splitOn_cons_eq_if_modifyHead, parted]
    by_cases same : c = sign
    · rw [if_pos same, if_pos (beq_iff_eq.mpr same)]
    · rw [if_neg same, if_neg (mt beq_iff_eq.mp same)]
      rfl

theorem encodePair_written (pair : List Char × List Char) :
    ∀ c ∈ encodePair pair, isWritten c = true ∨ c = '=' := by
  intro c member
  rcases List.mem_append.mp member with name | rest
  · exact .inl (encodeText_written _ c name)
  · rcases List.mem_cons.mp rest with sign | value
    · exact .inr sign
    · exact .inl (encodeText_written _ c value)

theorem encodePair_ne_nil (pair : List Char × List Char) : encodePair pair ≠ [] := by
  simp [encodePair]

theorem decodePair_encodePair (pair : List Char × List Char) :
    decodePair (encodePair pair) = pair := by
  have name : '=' ∉ encodeText pair.1 := notMem_encodeText (by decide) pair.1
  unfold decodePair encodePair
  rw [splitOnce_append name]
  dsimp only
  rw [decodeText_encodeText, decodeText_encodeText]

theorem notMem_encodePair (pair : List Char × List Char) : '&' ∉ encodePair pair := by
  intro member
  exact absurd (encodePair_written pair '&' member) (by decide)

/-- Names and values come back from their encoded text, all of them and in their order. -/
theorem decode_encode (pairs : List (List Char × List Char)) : decode (encode pairs) = pairs := by
  -- Where there are no pairs the text has one part all the same, an empty one, which is left out.
  by_cases empty : pairs = []
  · subst empty
    rfl
  have parted : splitAt '&' (encode pairs) = pairs.map encodePair := by
    rw [splitAt_eq_splitOn, encode, List.splitOn_intercalate]
    · exact List.forall_mem_map.mpr fun pair _ => notMem_encodePair pair
    · exact mt List.map_eq_nil_iff.mp empty
  have filled : (pairs.map encodePair).filter (· ≠ []) = pairs.map encodePair :=
    List.filter_eq_self.mpr (List.forall_mem_map.mpr fun pair _ => by
      simpa using encodePair_ne_nil pair)
  have back : decodePair ∘ encodePair = id := funext decodePair_encodePair
  rw [decode, parted, filled, List.map_map, back, List.map_id]

example : encode [("a b".toList, "é&=".toList), ("%".toList, [])] =
    "a+b=%C3%A9%26%3D&%25=".toList := by decide

/-- A text that carries names and values is written with what they are written with, and with the
signs that tell them apart. -/
theorem encode_written (pairs : List (List Char × List Char)) :
    ∀ c ∈ encode pairs, isWritten c = true ∨ c = '=' ∨ c = '&' := by
  have within (pair : List Char × List Char) :
      ∀ c ∈ encodePair pair, isWritten c = true ∨ c = '=' ∨ c = '&' :=
    fun c member => (encodePair_written pair c member).imp_right .inl
  intro c member
  induction pairs with
  | nil => cases member
  | cons pair rest ih =>
    by_cases last : rest = []
    · subst last
      exact within pair c (by simpa [encode] using member)
    · have more : rest.map encodePair ≠ [] := mt List.map_eq_nil_iff.mp last
      rw [encode, List.map_cons, List.intercalate_cons_of_ne_nil more] at member
      rcases List.mem_append.mp member with first | later
      · rcases List.mem_append.mp first with first | sign
        · exact within pair c first
        · exact .inr (.inr (List.mem_singleton.mp sign))
      · exact ih later

/-! ### Texts that stand for themselves -/

/-- A character that the form encoding reads as it is, wherever it stands. -/
def IsPlain (c : Char) : Prop :=
  c.toNat < 0x80 ∧ c ≠ '%' ∧ c ≠ '+' ∧ c ≠ '&' ∧ c ≠ '='

instance (c : Char) : Decidable (IsPlain c) :=
  inferInstanceAs (Decidable (c.toNat < 0x80 ∧ c ≠ '%' ∧ c ≠ '+' ∧ c ≠ '&' ∧ c ≠ '='))

variable {text name value : List Char}

end Outreach.Form
