import Outreach.Email.Character

/-!
The part of an e-mail address before the at-sign. It is kept composed, and otherwise as written,
except for the names of mailboxes that every domain shares.
-/

namespace Outreach.Email

/-- The names of mailboxes that every domain shares; case does not tell them apart. -/
def sharedMailboxes : List String := [
  "info", "marketing", "sales", "support", "abuse", "noc", "security", "postmaster", "hostmaster",
  "usenet", "news", "webmaster", "www", "uucp", "ftp"]

def hasPair (a b : Char) (text : List Char) : Bool :=
  (text.zip (text.drop 1)).any fun (x, y) => x = a && y = b

def checkPeriods (atEnd atStart : Flaw) (text : List Char) : Except Flaw Unit :=
  if text.getLast? = some '.' then .error atEnd
  else if text.head? = some '.' then .error atStart
  else if hasPair '.' '.' text then .error .doublePeriod
  else .ok ()

def isDotAtom (text : List Char) : Bool :=
  text.all isLocal && text ≠ [] && text.head? ≠ some '.' && text.getLast? ≠ some '.' &&
    !hasPair '.' '.' text

/-- A text in quotes that needs them. -/
def inQuotes (text : List Char) : List Char :=
  '\x22' :: text.flatMap (fun c => if c = '\x22' ∨ c = '\\' then ['\\', c] else [c]) ++ ['\x22']

/-- The part before the at-sign as it is written, in quotes only if it has to be. -/
def checkMailbox (quoted : Bool) (text : List Char) : Except Flaw (List Char) := do
  if text = [] then .error .nothingBefore
  if isDotAtom text then
    requireSafe false text
    .ok text
  else if quoted then
    requireAll isQuotable .badInQuotes text
    requireSafe true text
    .ok (inQuotes text)
  else
    requireAll isLocal .badBefore text
    checkPeriods .periodBeforeAt .startsWithPeriod text
    .ok text

/-- The part before the at-sign composed; what becomes of it has to be such a part too. -/
def composedMailbox (quoted : Bool) (text : List Char) : Except Flaw (List Char) := do
  let text ← checkMailbox quoted text
  let composed := Text.composed text
  if composed = text then .ok text
  else match checkMailbox quoted composed with
    | .error flaw => .error (.onceComposed flaw)
    | .ok _ => .ok composed

/-- The part before the at-sign as it is kept; there may be no quotes. -/
def mailbox (quoted : Bool) (text : List Char) : Except Flaw (List Char) := do
  let text ← composedMailbox quoted text
  if quoted then .error .quotedBefore
  let lower := text.map Char.toLower
  .ok (if sharedMailboxes.contains (String.ofList lower) then lower else text)

end Outreach.Email
