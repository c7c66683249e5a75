import Outreach.Email.Character

/-!
The parts of a text that is taken for an e-mail address: a display name, the text before the
at-sign, and the domain.
-/

namespace Outreach.Email

/-- The text before the first of some signs outside quotes, and the text from it on. A sign that a
mark follows and changes is no sign. -/
def splitAtSign (signs : List Char) : (inQuotes escaped : Bool) → List Char → List Char × List Char
  | _, _, [] => ([], [])
  | true, escaped, c :: rest =>
      let (before, after) :=
        if Text.isAbsorbed c rest then splitAtSign signs true escaped rest
        else if c = '\\' ∧ ¬escaped then splitAtSign signs true true rest
        else if c = '\x22' ∧ ¬escaped then splitAtSign signs false false rest
        else splitAtSign signs true false rest
      (c :: before, after)
  | false, _, c :: rest =>
      let isAbsorbed := Text.isAbsorbed c rest
      if signs.contains c && !isAbsorbed then ([], c :: rest)
      else
        let (before, after) := splitAtSign signs (c = '\x22' && !isAbsorbed) false rest
        (c :: before, after)

/-- The flaw of a text without an at-sign; a sign that looks like one may have taken its place. -/
def missingSign (text : List Char) : Flaw :=
  match Lookalike.all.find? fun sign => text.contains sign.character with
  | some sign => .lookalike sign
  | none => .noAtSign

def splitOrRefuse (signs text : List Char) : Except Flaw (List Char × List Char) :=
  match splitAtSign signs false false text with
  | (_, []) => .error (missingSign text)
  | parts => .ok parts

/-- The text inside quotes up to the closing one, and what follows that. -/
def insideQuotes : (escaped : Bool) → List Char → List Char × List Char
  | _, [] => ([], [])
  | true, c :: rest =>
      let (inside, after) := insideQuotes false rest
      (c :: inside, after)
  | false, c :: rest =>
      if c = '\\' then insideQuotes true rest
      else if c = '\x22' then ([], rest)
      else
        let (inside, after) := insideQuotes false rest
        (c :: inside, after)

/-- A text without the quotes around it, and whether there were any. -/
def unquote (text : List Char) : Except Flaw (List Char × Bool) :=
  match text with
  | '\x22' :: rest =>
      match insideQuotes false rest with
      | (inside, []) => .ok (inside, true)
      | (_, after) => .error (.afterQuote (after.map Text.characterName))
  | text => .ok (text, false)

/-- The parts of a text that is taken for an address. -/
structure Parts where
  before : List Char
  quoted : Bool
  domain : List Char
  named : Bool

/-- The address inside angle brackets. -/
def bracketed (text : List Char) : Except Flaw (List Char × List Char) :=
  if !text.contains '>' then .error .openBracket
  else
    let text := (text.reverse.dropWhile (· = ' ')).reverse
    if text.getLast? ≠ some '>' then .error .afterBracket
    else splitOrRefuse ['@'] ((text.drop 1).reverse.dropWhile (· = '>')).reverse

def checkDisplayName (name : List Char) : Except Flaw Unit := do
  let (name, quoted) ← unquote (Text.trimBy Text.isBlank name)
  if !quoted then requireAll (fun c => isAtom c || c = ' ') .badDisplayName name
  requireSafe true name

def partsOf (text : List Char) : Except Flaw Parts := do
  let (left, right) ← splitOrRefuse ['@', '<'] text
  let named := right.head? = some '<'
  let (before, right) ←
    if named then do
      checkDisplayName left
      bracketed right
    else .ok (left, right)
  let (before, quoted) ← unquote before
  .ok ⟨before, quoted, right.drop 1, named⟩

theorem splitAtSign_append (signs : List Char) (text : List Char) (inQuotes escaped : Bool) :
    (splitAtSign signs inQuotes escaped text).1 ++ (splitAtSign signs inQuotes escaped text).2 =
      text := by
  induction text generalizing inQuotes escaped with
  | nil => simp [splitAtSign]
  | cons c rest ih =>
      cases inQuotes with
      | true =>
          simp only [splitAtSign]
          split
          · simp [ih]
          · split
            · simp [ih]
            · split <;> simp [ih]
      | false =>
          simp only [splitAtSign]
          split
          · simp
          · simp [ih]

end Outreach.Email
