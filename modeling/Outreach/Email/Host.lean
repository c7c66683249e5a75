import Outreach.Domain.Folding
import Outreach.Email.Mailbox
import Outreach.Text.Parts
import Outreach.Text.Quoted

/-!
The part of an e-mail address after the at-sign: a domain name, which is kept folded and in the
characters of its language. Hosts that are written as numbers in brackets are refused all the same,
each with the first thing that is wrong with it, in the words that a refusal repeats: numeric
addresses, of the fourth and the sixth version, are looked at as far as their form goes.
-/

namespace Outreach.Email

open Text (joinedBy partsAt quotedText)

/-! ### Four octets -/

/-- What is wrong with one of four parts. -/
def octetFlaw? (part : List Char) : Option String :=
  if part = [] then some "Empty octet not permitted"
  else if !part.all Char.isDigit then some ("Only decimal digits permitted in " ++ quotedText part)
  else if 3 < part.length then some ("At most 3 characters permitted in " ++ quotedText part)
  else if part ≠ ['0'] ∧ part.head? = some '0' then
    some ("Leading zeros are not permitted in " ++ quotedText part)
  else
    let value := part.foldl (fun sum c => 10 * sum + (c.toNat - 0x30)) 0
    if 255 < value then some ("Octet " ++ toString value ++ " (> 255) not permitted") else none

/-- What is wrong with an address of four octets. -/
def octetsFlaw? (text : List Char) : Option String :=
  if text = [] then some "Address cannot be empty"
  else if text.contains '/' then some ("Unexpected '/' in " ++ quotedText text)
  else
    let parts := partsAt '.' text
    if parts.length ≠ 4 then some ("Expected 4 octets in " ++ quotedText text)
    else (parts.findSome? octetFlaw?).map (· ++ " in " ++ quotedText text)

/-! ### Eight groups of digits -/

def isHexDigit (c : Char) : Bool :=
  c.isDigit || ('a' ≤ c && c ≤ 'f') || ('A' ≤ c && c ≤ 'F')

/-- What is wrong with one of eight parts. -/
def groupFlaw? (part : List Char) : Option String :=
  if !part.all isHexDigit then some ("Only hex digits permitted in " ++ quotedText part)
  else if 4 < part.length then some ("At most 4 characters permitted in " ++ quotedText part)
  else none

def groupCount : Nat := 8

/-- The places of the empty parts between the first and the last. -/
def gaps (parts : List (List Char)) : List Nat :=
  (List.range (parts.length - 1)).filter fun place => 0 < place && parts[place]? = some []

/-- What is wrong with the number of parts before and after the gap, if there is one, or in all. The
parts at either end may be empty only next to the gap. -/
def shapeFlaw? (parts : List (List Char)) : Option String :=
  let startsEmpty := parts.head? = some []
  let endsEmpty := parts.getLast? = some []
  let leading := some "Leading ':' only permitted as part of '::'"
  let trailing := some "Trailing ':' only permitted as part of '::'"
  match gaps parts with
  | _ :: _ :: _ => some "At most one '::' permitted"
  | [place] =>
      let high := if startsEmpty then place - 1 else place
      let low := parts.length - place - 1 - (if endsEmpty then 1 else 0)
      if startsEmpty ∧ 0 < high then leading
      else if endsEmpty ∧ 0 < low then trailing
      else if groupCount ≤ high + low then
        some ("Expected at most " ++ toString (groupCount - 1) ++ " other parts with '::'")
      else none
  | [] =>
      if parts.length ≠ groupCount then
        some ("Exactly " ++ toString groupCount ++ " parts expected without '::'")
      else if startsEmpty then leading
      else if endsEmpty then trailing
      else none

/-- What is wrong with an address of eight groups that names no zone. The last two groups may be
written as four octets. -/
def groupsFlaw? (text : List Char) : Option String :=
  let inText (message : String) := message ++ " in " ++ quotedText text
  let parts := partsAt ':' text
  let last := parts.getLast?.getD []
  if text = [] then some "Address cannot be empty"
  else if parts.length < 3 then some (inText "At least 3 parts expected")
  else
    let hasOctets := last.contains '.'
    match if hasOctets then octetsFlaw? last else none with
    | some flaw => some (inText flaw)
    | none =>
        let parts := if hasOctets then parts.dropLast ++ [['0'], ['0']] else parts
        if groupCount + 1 < parts.length then
          some (inText ("At most " ++ toString groupCount ++ " colons permitted"))
        else ((shapeFlaw? parts).or (parts.findSome? groupFlaw?)).map inText

/-- What is wrong with an address of eight groups, after which the zone may be named that it belongs
to. -/
def scopedFlaw? (text : List Char) : Option String :=
  let zone := (text.dropWhile (· ≠ '%')).drop 1
  if text.contains '/' then some ("Unexpected '/' in " ++ quotedText text)
  else if text.contains '%' ∧ (zone = [] ∨ zone.contains '%') then
    some ("Invalid IPv6 address: \x22" ++ quotedText text ++ "\x22")
  else groupsFlaw? (text.takeWhile (· ≠ '%'))

/-! ### Domains -/

/-- The names that stand for no place on the network. -/
def reservedNames : List String := ["arpa", "invalid", "local", "localhost", "onion", "test"]

def isReserved (domain : List Char) : Bool :=
  reservedNames.any fun name =>
    domain = name.toList || ('.' :: name.toList).isSuffixOf domain

def hasForeignHyphens : List Char → Bool
  | a :: b :: '-' :: '-' :: _ => !(a.toLower = 'x' && b.toLower = 'n')
  | _ => false

/-- What is wrong with a domain in brackets; they are allowed to hold nothing at all. -/
def bracketFlaw (inner : List Char) : Flaw :=
  let line := if inner.getLast? = some '\n' then inner.dropLast else inner
  if line ≠ [] ∧ line.all (fun c => c.isDigit || c = '.') then
    ((octetsFlaw? inner).map .badOctets).getD .bracketedDomain
  else if "IPv6:".toList.isPrefixOf inner then
    ((scopedFlaw? (inner.drop "IPv6:".length)).map .badGroups).getD .bracketedDomain
  else if !inner.contains ':' then .untaggedBrackets
  else if inner.all isBracketable then .unknownTag
  else .badInBrackets (namesOf isBracketable inner)

/-- The most characters of a domain that is looked at. -/
def maxFoldedLength : Nat := 1024

/-- A domain folded. -/
def folded (domain : List Char) : Except Flaw (List Char) :=
  if maxFoldedLength < domain.length then .error .longDomain
  else match Domain.fold domain with
    | .error barred => .error (.barred barred.character barred.place domain)
    | .ok folded => .ok folded

def eachLabel (change : List Char → Except Domain.LabelFlaw (List Char))
    (flaw : Domain.LabelFlaw → Flaw) (domain : List Char) : Except Flaw (List Char) :=
  match (partsAt '.' domain).mapM change with
  | .error found => .error (flaw found)
  | .ok labels => .ok (joinedBy '.' labels)

/-- The form of a domain that goes over the network. -/
def encoded (domain : List Char) : Except Flaw (List Char) :=
  if domain.any isBeyondAscii then eachLabel Domain.formOf .badLabel domain else .ok domain

/-- The most characters of the form of a domain that goes over the network. -/
def maxHostLength : Nat := 253

/-- Refuses a form that is too long or names no place in a public domain; given is also the domain
as it was written. -/
def checkForm (written form : List Char) : Except Flaw Unit := do
  if maxHostLength < form.length then
    let excess := form.length - maxHostLength
    .error (if form = written then .longAfter excess else .longEncoded excess)
  match (partsAt '.' form).find? fun label => Domain.maxFormLength < label.length with
  | some label => .error (.longLabel (label.length - Domain.maxFormLength))
  | none => pure ()
  if !form.contains '.' then .error .noPeriod
  if !(form.getLast?).any Char.isAlpha then .error .noTopLevel
  if isReserved form then .error .reservedName

/-- A domain as it is kept, and the form that goes over the network. -/
structure Host where
  domain : List Char
  form : List Char

/-- The domain that a text names. -/
def host (text : List Char) : Except Flaw Host := do
  if text = [] then .error .nothingAfter
  if text.head? = some '[' ∧ text.getLast? = some ']' then
    .error (bracketFlaw (text.drop 1).dropLast)
  requireAll isHost .badAfter text
  requireSafe false text
  let domain ← folded text
  requireAll isHost .badFolded domain
  checkPeriods .endsWithPeriod .periodAfterAt domain
  if domain.getLast? = some '-' then .error .endsWithHyphen
  if domain.head? = some '-' then .error .hyphenAfterAt
  if hasPair '.' '-' domain || hasPair '-' '.' domain then .error .periodAndHyphen
  if (partsAt '.' domain).any hasForeignHyphens then .error .reservedHyphens
  let form ← encoded domain
  checkForm text form
  let domain ← eachLabel Domain.ofForm .badForm form
  .ok ⟨domain, form⟩

end Outreach.Email
