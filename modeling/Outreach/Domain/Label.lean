import Outreach.Domain.Direction
import Outreach.Domain.Letter
import Outreach.Domain.Punycode
import Outreach.Text.Composition
import Outreach.Text.Parts
import Outreach.Text.Quoted

/-!
The labels of a domain name: what is wrong with a text that is none, the ASCII form that goes over
the network, and the label that such a form stands for. The checks run in a fixed order, and the
first that fails tells the flaw.
-/

namespace Outreach.Domain

open Text (quotedText)

/-- What is wrong with a text that is no label. Places are counted from one. -/
inductive LabelFlaw where
  | long
  | empty
  | notComposed
  | reservedHyphens
  | outerHyphen
  | startsWithMark
  | joiner (character : Char) (place : Nat) (label : List Char)
  | lonely (character : Char) (place : Nat) (label : List Char)
  | noLetter (character : Char) (place : Nat) (label : List Char)
  | direction (flaw : DirectionFlaw) (label : List Char)
  | emptyForm
  | formEndsWithHyphen
  | malformed
deriving DecidableEq, Repr

/-- The code point of a character, with four digits at least. -/
def pointText (c : Char) : String :=
  let places := if c.toNat < 0x10000 then 4 else if c.toNat < 0x100000 then 5 else 6
  "U+" ++ String.ofList ((Text.hexPadded places c.toNat).map Char.toUpper)

def DirectionFlaw.message (label : List Char) : DirectionFlaw → String
  | unknown place =>
      "Unknown directionality in label " ++ quotedText label ++ " at position " ++ toString place
  | first =>
      "First codepoint in label " ++ quotedText label ++ " must be directionality L, R or AL"
  | foreign place isRightToLeft =>
      "Invalid direction for codepoint at position " ++ toString place ++ " in a " ++
        (if isRightToLeft then "right-to-left" else "left-to-right") ++ " label"
  | mixedNumbers => "Can not mix numeral types in a right-to-left label"
  | last => "Label ends with illegal codepoint directionality"

def LabelFlaw.message : LabelFlaw → String
  | long => "Label too long"
  | empty => "Empty Label"
  | notComposed => "Label must be in Normalization Form C"
  | reservedHyphens => "Label has disallowed hyphens in 3rd and 4th position"
  | outerHyphen => "Label must not start or end with a hyphen"
  | startsWithMark => "Label begins with an illegal combining character"
  | joiner c place label =>
      "Unknown codepoint adjacent to joiner " ++ pointText c ++ " at position " ++ toString place ++
        " in " ++ quotedText label
  | lonely c place label =>
      "Codepoint " ++ pointText c ++ " not allowed at position " ++ toString place ++ " in " ++
        quotedText label
  | noLetter c place label =>
      "Codepoint " ++ pointText c ++ " at position " ++ toString place ++ " of " ++
        quotedText label ++ " not allowed"
  | direction flaw label => flaw.message label
  | emptyForm => "Malformed A-label, no Punycode eligible content found"
  | formEndsWithHyphen => "A-label must not end with a hyphen"
  | malformed => "Invalid A-label"

/-- The most characters that a label may have before it is looked at. -/
def maxLength : Nat := 254

/-- The most characters of the form that goes over the network. -/
def maxFormLength : Nat := 63

def hasReservedHyphens : List Char → Bool
  | _ :: _ :: '-' :: '-' :: _ => true
  | _ => false

/-- Refuses a character that may not stand at its place; given are what is before it, the last
first, and what is after it. -/
def checkCharacter (label before : List Char) (c : Char) (after : List Char) :
    Except LabelFlaw Unit :=
  let place := before.length + 1
  if isLetter c then .ok ()
  else if c = joiner ∨ c = nonJoiner then
    if joinerFits c before after then .ok () else .error (.joiner c place label)
  else match inCompany? c before after with
    | some true => .ok ()
    | some false => .error (.lonely c place label)
    | none => .error (.noLetter c place label)

/-- Checks the characters of a label from a place on. -/
def checkFrom (label : List Char) : (before after : List Char) → Except LabelFlaw Unit
  | _, [] => .ok ()
  | before, c :: rest =>
      match checkCharacter label before c rest with
      | .error flaw => .error flaw
      | .ok () => checkFrom label (c :: before) rest

/-- Refuses a text that is no label. -/
def checkLabel (label : List Char) : Except LabelFlaw Unit := do
  if maxLength < label.length then .error .long
  if label = [] then .error .empty
  if Text.composed label ≠ label then .error .notComposed
  if hasReservedHyphens label then .error .reservedHyphens
  if label.head? = some '-' ∨ label.getLast? = some '-' then .error .outerHyphen
  if label.head?.any Text.isMark then .error .startsWithMark
  checkFrom label [] label
  match directionFlaw? label with
  | some flaw => .error (.direction flaw label)
  | none => .ok ()

/-- What a form begins with that stands for a label beyond ASCII. -/
def formPrefix : List Char := "xn--".toList

/-- The label that a text in ASCII stands for. -/
def ofForm (form : List Char) : Except LabelFlaw (List Char) := do
  let form := form.map Char.toLower
  if formPrefix.isPrefixOf form then
    let rest := form.drop formPrefix.length
    if rest = [] then .error .emptyForm
    if rest.getLast? = some '-' then .error .formEndsWithHyphen
    match Punycode.decode? rest with
    | none => .error .malformed
    | some label =>
        checkLabel label
        .ok label
  else
    checkLabel form
    .ok form

/-- The form of a label, however long it is: ASCII as it is, and other text encoded. -/
def anyFormOf (label : List Char) : Except LabelFlaw (List Char) :=
  if label.all Punycode.isAscii then (ofForm label).map fun _ => label
  else (checkLabel label).map fun _ => formPrefix ++ Punycode.encode label

/-- The form of a label that goes over the network. -/
def formOf (label : List Char) : Except LabelFlaw (List Char) :=
  match anyFormOf label with
  | .error flaw => .error flaw
  | .ok form => if maxFormLength < form.length then .error .long else .ok form

/-- A form that is made is never too long for the network. -/
theorem length_le_of_formOf {label form : List Char} (made : formOf label = .ok form) :
    form.length ≤ maxFormLength := by
  unfold formOf at made
  split at made
  · contradiction
  · split at made
    · contradiction
    · cases made
      omega

end Outreach.Domain
