import Outreach.Schema.Issue
import Outreach.Value.Literal
import Outreach.Value.Same

/-!
Checking data against a schema. A check yields a value or the list of all issues; where a record
has several fields, the issues of all of them are gathered in the order of the fields.
-/

namespace Outreach

/-- The outcome of a check. -/
inductive Checked (α : Type) where
  | accepted (value : α)
  | rejected (issues : List Issue)
deriving Repr

namespace Checked

def refuse {α : Type} (cause : Issue.Cause) : Checked α := rejected [⟨[], cause⟩]

def map {α β : Type} (f : α → β) : Checked α → Checked β
  | accepted value => accepted (f value)
  | rejected issues => rejected issues

/-- Checks on what was accepted. -/
def andThen {α β : Type} (checked : Checked α) (next : α → Checked β) : Checked β :=
  match checked with
  | accepted value => next value
  | rejected issues => rejected issues

/-- Both outcomes, with the issues of both. -/
def both {α β : Type} (f : Checked (α → β)) (checked : Checked α) : Checked β :=
  match f, checked with
  | accepted f, accepted value => accepted (f value)
  | accepted _, rejected issues => rejected issues
  | rejected issues, accepted _ => rejected issues
  | rejected issues, rejected more => rejected (issues ++ more)

instance : Applicative Checked where
  pure := accepted
  map := map
  seq f checked := both f (checked ())

def under {α : Type} (segment : String) : Checked α → Checked α
  | accepted value => accepted value
  | rejected issues => rejected (issues.map (Issue.under segment))

def toOption {α : Type} : Checked α → Option α
  | accepted value => some value
  | rejected _ => none

def isAccepted {α : Type} : Checked α → Bool
  | accepted _ => true
  | rejected _ => false

end Checked

/-- What a record says about a field: nothing, or a value. -/
inductive Entry (α : Type) where
  | absent
  | given (value : α)
deriving DecidableEq, Repr, Inhabited

namespace Entry

def getD {α : Type} (default : α) : Entry α → α
  | absent => default
  | given value => value

def toOption {α : Type} : Entry α → Option α
  | absent => none
  | given value => some value

/-- What is given, or else what was there; null takes away what was there. -/
def orKept? {α : Type} (kept : α) : Entry (Option α) → Option α
  | absent => some kept
  | given value => value

/-- Whether something is given that is not the same as before. -/
def differs {α : Type} (isSame : α → Bool) : Entry α → Bool
  | absent => false
  | given value => !isSame value

end Entry

/-- Reads data as a value of a kind. -/
abbrev Reader (α : Type) := Value → Checked α

/-- How records are told from other data: by data alone, or as the contents of a request, where
anything with fields would do. -/
inductive Origin where
  | data | request
deriving DecidableEq, Repr

/-- What is said of a value that is no record. -/
def Origin.notRecord (origin : Origin) (name : String) : Issue.Cause :=
  match origin with
  | data => .notRecord name
  | request => .notObject

namespace Schema

/-- The attributes of what is no mapping but may be read like one. -/
def ownFields? (value : Value) : Option (List (Value × Value)) :=
  match value with
  | .decimal _ | .date _ | .moment _ | .token _ | .rule _ =>
      some (value.attributes.map fun (name, part) => (.text name, part))
  | _ => none

/-- The fields of data as they are read for a record. Where anything with fields would do, it may
come with a mapping of fields that go before its own. -/
def fieldsOf? (origin : Origin) : Value → Option (List (Value × Value))
  | .dict entries => some entries
  | value =>
      match origin, value with
      | .data, _ => none
      | .request, .tuple [bearer, .dict entries] => (ownFields? bearer).map (entries ++ ·)
      | .request, value => ownFields? value

/-- Reads the fields of a record of the named kind. -/
def record {α : Type} (origin : Origin) (name : String)
    (build : List (Value × Value) → Checked α) : Reader α := fun value =>
  match fieldsOf? origin value with
  | some entries => build entries
  | none => .refuse (origin.notRecord name)

/-- A field that has to be given. -/
def required {α : Type} (entries : List (Value × Value)) (name : String) (read : Reader α) :
    Checked α :=
  match Value.lookup entries name with
  | some value => (read value).under name
  | none => .rejected [⟨[name], .missing⟩]

/-- A field that may be left out. -/
def permitted {α : Type} (entries : List (Value × Value)) (name : String) (read : Reader α) :
    Checked (Entry α) :=
  match Value.lookup entries name with
  | some value => ((read value).under name).map .given
  | none => .accepted .absent

/-- Null, or a value of a kind. -/
def nullable {α : Type} (read : Reader α) : Reader (Option α)
  | .null => .accepted none
  | value => (read value).map some

/-- The items of a list from the given number on, all of one kind. -/
def items {α : Type} (read : Reader α) : (index : Nat) → List Value → Checked (List α)
  | _, [] => .accepted []
  | index, item :: rest =>
      .both (((read item).under (toString index)).map List.cons) (items read (index + 1) rest)

/-- A list whose items are all of one kind. -/
def list {α : Type} (read : Reader α) : Reader (List α)
  | .list values | .tuple values => items read 0 values
  | .set values => items read 0 values
  | _ => .refuse .notList

/-- Any value. -/
def anything : Reader Value := .accepted

/-- A text that has only characters. -/
def wholeText (text : String) : Checked String :=
  if Text.isWhole text then .accepted text else .refuse .brokenText

/-- Text. Bytes that are the encoding of a text are taken for it. -/
def text : Reader String
  | .bytes bytes =>
      match String.fromUTF8? bytes.toByteArray with
      | some text => .accepted text
      | none => .refuse .brokenText
  | value =>
      match value.asText? with
      | some text => wholeText text
      | none => .refuse .notText

/-- Text of a bounded number of characters. -/
def boundedText (least most : Nat) : Reader String := fun value =>
  (text value).andThen fun text =>
    if most < text.length then .refuse (.tooLong most)
    else if text.length < least then .refuse (.tooShort least)
    else .accepted text

/-- One of the words of a vocabulary. -/
def oneOf (words : List String) : Reader String := fun value =>
  match value with
  | .text word =>
      (wholeText word).andThen fun word =>
        if words.contains word then .accepted word else .refuse (.notAmong words)
  | _ => .refuse (.notAmong words)

/-- A key as places name it: a text as it is, a whole number of 64 bits in digits, a truth value
among them. -/
def keySegment : Value → String
  | .bool b => if b then "1" else "0"
  | .int n => toString n
  | key =>
      match key.asText? with
      | some text => text
      | none => key.inspect

/-- The entries of a mapping under the texts of their keys. Of keys with one text the last entry
stays, in the place of the first. -/
def textEntries : List (Value × Value) → Checked (List (Value × Value)) :=
  go []
where
  go (known : List (Value × Value)) : List (Value × Value) → Checked (List (Value × Value))
    | [] => .accepted known
    | (key, item) :: rest =>
        match text key with
        | .accepted letters =>
            let isKnown := (Value.lookup known letters).isSome
            go (if isKnown then
              Value.replaceEntry (fun other => other.asText? == some letters) item known
              else known ++ [(.text letters, item)]) rest
        | .rejected issues =>
            let placed := issues.map fun issue => (issue.under "[key]").under (keySegment key)
            match go known rest with
            | .accepted _ => .rejected placed
            | .rejected more => .rejected (placed ++ more)

/-- A mapping whose keys are texts. -/
def mapping : Reader (List (Value × Value))
  | .dict entries => textEntries entries
  | _ => .refuse .notMapping

end Schema

end Outreach
