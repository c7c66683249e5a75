/-!
Texts without the blanks at their ends, and texts cut where a sign stands and put together again.
The blank characters are those of all scripts.
-/

namespace Outreach.Text

/-! ### Blanks -/

/-- Ranges of the characters that separate words: spaces, tabs, line and paragraph breaks, and the
four information separators. -/
def blankRanges : List (Nat × Nat) := [
  (0x9, 0xd), (0x1c, 0x20), (0x85, 0x85), (0xa0, 0xa0), (0x1680, 0x1680), (0x2000, 0x200a),
  (0x2028, 0x2029), (0x202f, 0x202f), (0x205f, 0x205f), (0x3000, 0x3000)]

def isBlank (c : Char) : Bool :=
  blankRanges.any fun (low, high) => low ≤ c.toNat && c.toNat ≤ high

/-- The text without the characters of the class at its two ends. -/
def trimBy (blank : Char → Bool) (text : List Char) : List Char :=
  ((text.dropWhile blank).reverse.dropWhile blank).reverse

/-- The text without the blanks at its two ends. -/
def trim (text : List Char) : List Char := trimBy isBlank text

theorem isBlank_of_isWhitespace (c : Char) (h : c.isWhitespace = true) : isBlank c = true := by
  simp only [Char.isWhitespace, Bool.or_eq_true, decide_eq_true_eq] at h
  rcases h with ((rfl | rfl) | rfl) | rfl <;> decide

/-! ### Parts -/

/-- The parts of a text between the places where a sign stands. -/
def partsAt (sign : Char) : List Char → List (List Char)
  | [] => [[]]
  | c :: rest =>
      if c = sign then [] :: partsAt sign rest
      else match partsAt sign rest with
        | [] => [[c]]
        | part :: others => (c :: part) :: others

/-- Parts with a sign between them. -/
def joinedBy (sign : Char) : List (List Char) → List Char
  | [] => []
  | [part] => part
  | part :: others => part ++ sign :: joinedBy sign others

theorem partsAt_ne_nil (sign : Char) (text : List Char) : partsAt sign text ≠ [] := by
  cases text with
  | nil => simp [partsAt]
  | cons c rest =>
      rw [partsAt]
      split
      · simp
      · split <;> simp

/-- The parts of a text put together are the text. -/
theorem joinedBy_partsAt (sign : Char) (text : List Char) :
    joinedBy sign (partsAt sign text) = text := by
  induction text with
  | nil => rfl
  | cons c rest ih =>
      rw [partsAt]
      cases found : partsAt sign rest with
      | nil => exact absurd found (partsAt_ne_nil sign rest)
      | cons part others =>
          rw [found] at ih
          split
          · next same => simp [joinedBy, ih, same]
          · cases others with
            | nil => simpa [joinedBy] using ih
            | cons other more => simpa [joinedBy] using ih

/-- No part holds the sign. -/
theorem not_mem_of_mem_partsAt (sign : Char) (text : List Char) :
    ∀ part ∈ partsAt sign text, sign ∉ part := by
  induction text with
  | nil => simp [partsAt]
  | cons c rest ih =>
      rw [partsAt]
      split
      · simpa using ih
      · next other =>
          cases found : partsAt sign rest with
          | nil => simpa using Ne.symm other
          | cons part others =>
              rw [found] at ih
              simp only [List.mem_cons, forall_eq_or_imp] at ih ⊢
              exact ⟨by simp [Ne.symm other, ih.1], ih.2⟩

end Outreach.Text
