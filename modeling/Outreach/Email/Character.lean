import Outreach.Email.Flaw
import Outreach.Text.CharacterName
import Outreach.Text.Parts

/-!
The characters of e-mail addresses, and the refusal of those that do not belong into a part of one.
-/

namespace Outreach.Email

def isAsciiAlphanumeric (c : Char) : Bool := c.isAlpha || c.isDigit

/-- The signs that may stand in an address beside letters and digits. -/
def atomSigns : List Char := "_!#$%&'*+-/=?^\x60\x7b|\x7d~".toList

def isAtom (c : Char) : Bool := isAsciiAlphanumeric c || atomSigns.contains c

def isBeyondAscii (c : Char) : Bool := 0x80 ≤ c.toNat

def isLocal (c : Char) : Bool := isAtom c || isBeyondAscii c || c = '.'

def isHost (c : Char) : Bool := isAsciiAlphanumeric c || c = '-' || c = '.' || isBeyondAscii c

/-- Whether a character may stand in quotes before the at-sign. -/
def isQuotable (c : Char) : Bool := 0x20 ≤ c.toNat && c.toNat ≠ 0x7f

/-- Whether a character may stand in a host that is written in brackets. -/
def isBracketable (c : Char) : Bool := 0x21 ≤ c.toNat && c.toNat ≤ 0xfa

/-- The blanks of all scripts that have a width and end no line. -/
def isSpace (c : Char) : Bool :=
  c = ' ' || (Text.isBlank c && 0xa0 ≤ c.toNat && c ≠ '\u2028' && c ≠ '\u2029')

/-- Inserts into a list in ascending order, unless it is there. -/
def insertOnce {α : Type} [DecidableEq α] (less : α → α → Bool) (a : α) : List α → List α
  | [] => [a]
  | b :: rest =>
      if a = b then b :: rest
      else if less a b then a :: b :: rest
      else b :: insertOnce less a rest

/-- The members of a list, each once, in ascending order. -/
def inOrder {α : Type} [DecidableEq α] (less : α → α → Bool) (list : List α) : List α :=
  list.foldr (insertOnce less) []

/-- The names of the characters that fail a test, each once, in order. -/
def namesOf (allowed : Char → Bool) (text : List Char) : List String :=
  inOrder (· < ·) ((text.filter fun c => !allowed c).map Text.characterName)

/-- Refuses a text with characters that fail a test. -/
def requireAll (allowed : Char → Bool) (flaw : List String → Flaw) (text : List Char) :
    Except Flaw Unit :=
  if text.all allowed then .ok () else .error (flaw (namesOf allowed text))

/-- The characters of a text that would not stay what they are if the text stood among others: what
is not visible, and a mark that has no base. -/
def unsafeIn (allowSpace : Bool) (text : List Char) : List Char :=
  let isHarmless (c : Char) : Bool :=
    if isSpace c then allowSpace else Text.isPrintable c
  text.head?.toList.filter Text.isMark ++ text.filter fun c => !isHarmless c

def requireSafe (allowSpace : Bool) (text : List Char) : Except Flaw Unit :=
  match unsafeIn allowSpace text with
  | [] => .ok ()
  | found => .error (.unsafeCharacters ((inOrder (· < ·) found).map Text.characterName))

theorem requireAll_eq_ok (allowed : Char → Bool) (flaw : List String → Flaw) (text : List Char) :
    requireAll allowed flaw text = .ok () ↔ text.all allowed = true := by
  unfold requireAll
  split <;> simp_all

end Outreach.Email
