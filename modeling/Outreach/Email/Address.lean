import Outreach.Email.Host
import Outreach.Email.Parts
import Outreach.Text.Alphanumeric
import Outreach.Text.Parts

/-!
E-mail addresses: the one form in which an address is kept, or what is wrong with a text that is
none.
-/

namespace Outreach.Email

/-- The most bytes of an address. -/
def maxAddressSize : Nat := 254

/-- The number of bytes of a text. -/
def byteCount (text : List Char) : Nat := text.foldl (fun count c => count + c.utf8Size) 0

/-- How many bytes a text has too many. -/
def excess? (text : List Char) : Option Nat :=
  if maxAddressSize < byteCount text then some (byteCount text - maxAddressSize) else none

/-- The flaw of an address as it was written that is too long. As many characters as there are bytes
too many have to go at most, and fewer if some take several bytes. -/
def longAddress (text : List Char) (excess : Nat) : Flaw :=
  let widest := (text.map Char.utf8Size).foldl max 1
  .longAddress (max 1 (excess / widest)) excess

/-- Refuses an address that is too long in one of its forms. -/
def checkSize (written composed encoded : List Char) : Except Flaw Unit :=
  match excess? written, excess? composed, excess? encoded with
  | some excess, _, _ => .error (longAddress written excess)
  | none, some excess, _ => .error (.longForm excess .composed)
  | none, none, some excess => .error (.longForm excess .encoded)
  | none, none, none => .ok ()

def joinedAt (before domain : List Char) : List Char := before ++ '@' :: domain

/-- The address that a text without a display name stands for. -/
def ofPlain (text : List Char) : Except Flaw (List Char) := do
  let parts ← partsOf text
  let mailbox ← mailbox parts.quoted parts.before
  let host ← host parts.domain
  let address := joinedAt mailbox host.domain
  checkSize (joinedAt parts.before parts.domain) address (joinedAt mailbox host.form)
  if parts.named then .error .displayName
  .ok address

/-! ### Display names -/

def isWord (c : Char) : Bool := isAtom c || (isBeyondAscii c && Text.isAlphanumeric c)

def isWordName (name : List Char) : Bool := name.all fun c => isWord c || Text.isBlank c

def isQuotedName (name : List Char) : Bool :=
  3 ≤ name.length && name.head? = some '\x22' && name.getLast? = some '\x22'

/-- What stands in angle brackets after a display name, if a text has this form. The name is made of
words, or it is anything between double quotes; then the last bracket counts that has such a name in
front of it. -/
def afterDisplayName? (text : List Char) : Option (List Char) :=
  let trimmed := Text.trim text
  if trimmed.getLast? = some '>' then
    let inner := trimmed.dropLast
    let candidates := (List.range inner.length).filter fun place =>
      let name := Text.trim (inner.take place)
      inner[place]? = some '<' && (isWordName name || isQuotedName name) &&
        place + 1 < inner.length && !(inner.drop (place + 1)).contains '\n'
    candidates.getLast?.map fun place => inner.drop (place + 1)
  else none

/-- The most characters a text may have that is looked at. -/
def maxLength : Nat := 2048

/-- The address that a text stands for; a display name in front of it is dropped. -/
def ofText (text : String) : Except Flaw String :=
  if maxLength < text.length then .error (.tooManyCharacters maxLength)
  else
    let plain := (afterDisplayName? text.toList).getD text.toList
    (ofPlain (Text.trim plain)).map String.ofList

/-! ### Laws -/

/-- No form of an address that passes is too long. -/
theorem checkSize_eq_ok {written composed encoded : List Char}
    (passes : checkSize written composed encoded = .ok ()) :
    byteCount written ≤ maxAddressSize ∧ byteCount composed ≤ maxAddressSize ∧
      byteCount encoded ≤ maxAddressSize := by
  have short : ∀ text, excess? text = none → byteCount text ≤ maxAddressSize := by
    intro text none
    unfold excess? at none
    split at none
    · contradiction
    · omega
  unfold checkSize at passes
  split at passes
  · contradiction
  · contradiction
  · contradiction
  · next first second third => exact ⟨short _ first, short _ second, short _ third⟩

end Outreach.Email
