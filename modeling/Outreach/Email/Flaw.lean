import Outreach.Domain.Label

/-!
What is wrong with a text that is no e-mail address.
-/

namespace Outreach.Email

open Domain (LabelFlaw)

/-- The forms of an address that have to be short enough besides the one that was written. -/
inductive Form where
  | composed | encoded
deriving DecidableEq, Repr

def Form.words : Form → String
  | composed => "after normalization"
  | encoded => "when the part after the @-sign is converted to IDNA ASCII"

/-- A sign that looks like an at-sign and is none. -/
inductive Lookalike where
  | fullWidth | small
deriving DecidableEq, Repr

namespace Lookalike

/-- All of them, the one that is told first in front. -/
def all : List Lookalike := [fullWidth, small]

theorem mem_all (sign : Lookalike) : sign ∈ all := by
  cases sign <;> simp [all]

def character : Lookalike → Char
  | fullWidth => '\uff20'
  | small => '\ufe6b'

def words : Lookalike → String
  | fullWidth => "\x22full-width\x22 at-sign (@)"
  | small => "\x22small commercial at\x22"

end Lookalike

/-- What is wrong with a text that is no address. -/
inductive Flaw where
  | tooManyCharacters (limit : Nat)
  | noAtSign
  | lookalike (sign : Lookalike)
  | nothingBefore
  | nothingAfter
  | longAfter (excess : Nat)
  /-- The domain is too long in the form that goes over the network. -/
  | longEncoded (excess : Nat)
  | longLabel (excess : Nat)
  /-- The address is too long by so many bytes, and by so many characters at least. -/
  | longAddress (characters excess : Nat)
  | longForm (excess : Nat) (form : Form)
  | badBefore (characters : List String)
  | badAfter (characters : List String)
  | badFolded (characters : List String)
  | badInQuotes (characters : List String)
  | badInBrackets (characters : List String)
  | badDisplayName (characters : List String)
  | unsafeCharacters (characters : List String)
  | afterQuote (characters : List String)
  /-- A flaw of the part before the at-sign once it is composed. -/
  | onceComposed (flaw : Flaw)
  | barred (character : Char) (place : Nat) (domain : List Char)
  | longDomain
  | badLabel (flaw : LabelFlaw)
  | badForm (flaw : LabelFlaw)
  | openBracket
  | afterBracket
  | doublePeriod
  | startsWithPeriod
  | periodBeforeAt
  | periodAfterAt
  | hyphenAfterAt
  | endsWithPeriod
  | endsWithHyphen
  | periodAndHyphen
  | reservedHyphens
  | quotedBefore
  | bracketedDomain
  | badOctets (reason : String)
  | badGroups (reason : String)
  | untaggedBrackets
  | unknownTag
  | noPeriod
  | noTopLevel
  | reservedName
  | displayName
deriving DecidableEq, Repr

/-- A number of things, in words. -/
def countText (count : Nat) (thing : String) : String :=
  toString count ++ " " ++ thing ++ (if 1 < count then "s" else "")

/-- How far a text is too long. -/
def excessText (excess : Nat) : String := "(" ++ countText excess "character" ++ " too many)"

def listText (characters : List String) : String := ", ".intercalate characters

def Flaw.message : Flaw → String
  | tooManyCharacters limit => "Length must not exceed " ++ toString limit ++ " characters"
  | noAtSign => "An email address must have an @-sign."
  | lookalike sign =>
      "The email address has the " ++ sign.words ++ " character instead of a regular at-sign."
  | nothingBefore => "There must be something before the @-sign."
  | nothingAfter => "There must be something after the @-sign."
  | longAfter excess =>
      "The email address is too long after the @-sign " ++ excessText excess ++ "."
  | longEncoded excess =>
      "The email address is too long after the @-sign (" ++ countText excess "byte" ++
        " too many after IDNA encoding)."
  | longLabel excess =>
      "After the @-sign, periods cannot be separated by so many characters " ++
        excessText excess ++ "."
  | longAddress characters excess =>
      "The email address is too long (" ++
        (if characters = excess then "" else toString characters ++ "-") ++
        countText excess "character" ++ " too many)."
  | longForm excess form =>
      "The email address is too long (" ++ countText excess "byte" ++ " too many " ++
        form.words ++ ")."
  | badBefore characters =>
      "The email address contains invalid characters before the @-sign: " ++
        listText characters ++ "."
  | badAfter characters =>
      "The part after the @-sign contains invalid characters: " ++ listText characters ++ "."
  | badFolded characters =>
      "The part after the @-sign contains invalid characters after Unicode normalization: " ++
        listText characters ++ "."
  | badInQuotes characters =>
      "The email address contains invalid characters in quotes before the @-sign: " ++
        listText characters ++ "."
  | badInBrackets characters =>
      "The part after the @-sign contains invalid characters in brackets: " ++
        listText characters ++ "."
  | badDisplayName characters =>
      "The display name contains invalid characters when not quoted: " ++
        listText characters ++ "."
  | unsafeCharacters characters =>
      "The email address contains unsafe characters: " ++ listText characters ++ "."
  | afterQuote characters => "Extra character(s) found after close quote: " ++ listText characters
  | onceComposed flaw => "After Unicode normalization: " ++ flaw.message
  | barred c place domain =>
      "The part after the @-sign contains invalid characters (Codepoint " ++
        Domain.pointText c ++ " not allowed at position " ++ toString place ++ " in " ++
        Text.quotedText domain ++ ")."
  | longDomain => "The part after the @-sign contains invalid characters (Domain too long)."
  | badLabel flaw => "The part after the @-sign is invalid (" ++ flaw.message ++ ")."
  | badForm flaw => "The part after the @-sign is not valid IDNA (" ++ flaw.message ++ ")."
  | openBracket =>
      "An open angle bracket at the start of the email address has to be followed by a close " ++
        "angle bracket at the end."
  | afterBracket => "There can't be anything after the email address."
  | doublePeriod => "An email address cannot have two periods in a row."
  | startsWithPeriod => "An email address cannot start with a period."
  | periodBeforeAt => "An email address cannot have a period immediately before the @-sign."
  | periodAfterAt => "An email address cannot have a period immediately after the @-sign."
  | hyphenAfterAt => "An email address cannot have a hyphen immediately after the @-sign."
  | endsWithPeriod => "An email address cannot end with a period."
  | endsWithHyphen => "An email address cannot end with a hyphen."
  | periodAndHyphen => "An email address cannot have a period and a hyphen next to each other."
  | reservedHyphens =>
      "An email address cannot have two letters followed by two dashes immediately after the " ++
        "@-sign or after a period, except Punycode."
  | quotedBefore => "Quoting the part before the @-sign is not allowed here."
  | bracketedDomain => "A bracketed IP address after the @-sign is not allowed here."
  | badOctets reason =>
      "The address in brackets after the @-sign is not valid: It is not an IPv4 address (" ++
        reason ++ ") or is missing an address literal tag."
  | badGroups reason =>
      "The IPv6 address in brackets after the @-sign is not valid (" ++ reason ++ ")."
  | untaggedBrackets =>
      "The part after the @-sign in brackets is not an IPv4 address and has no address literal tag."
  | unknownTag => "The part after the @-sign contains an invalid address literal tag in brackets."
  | noPeriod => "The part after the @-sign is not valid. It should have a period."
  | noTopLevel =>
      "The part after the @-sign is not valid. It is not within a valid top-level domain."
  | reservedName =>
      "The part after the @-sign is a special-use or reserved name that cannot be used with email."
  | displayName =>
      "A display name and angle brackets around the email address are not permitted here."

end Outreach.Email
