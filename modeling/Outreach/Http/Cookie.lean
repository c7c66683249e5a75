import Outreach.Calendar.Moment
import Outreach.Form.Encoding
import Outreach.Text.Parts

/-!
Cookies: reading those that a request carries, and writing those that a response sets. A value may
be written in quotes, where a backslash stands before a sign or before the three octal digits of
one.
-/

namespace Outreach.Http.Cookie

/-! ### Reading -/

def octalValue? (c : Char) : Option Nat := if '0' ≤ c ∧ c ≤ '7' then some (c.toNat - 48) else none

/-- The sign that three octal digits stand for. -/
def octalSign? (a b c : Char) : Option Char := do
  let a ← octalValue? a
  let b ← octalValue? b
  let c ← octalValue? c
  if a < 4 then some (Char.ofNat (a * 64 + b * 8 + c)) else none

/-- The text that stands between quotes. -/
def unescape : List Char → List Char
  | '\\' :: a :: b :: c :: rest =>
      match octalSign? a b c with
      | some sign => sign :: unescape rest
      | none =>
          if a = '\n' then '\\' :: unescape (a :: b :: c :: rest)
          else a :: unescape (b :: c :: rest)
  | '\\' :: a :: rest => if a = '\n' then '\\' :: unescape (a :: rest) else a :: unescape rest
  | c :: rest => c :: unescape rest
  | [] => []

/-- The value that is written in a request. -/
def unquote (text : List Char) : List Char :=
  if 2 ≤ text.length ∧ text.head? = some '\x22' ∧ text.getLast? = some '\x22' then
    unescape ((text.drop 1).dropLast)
  else text

/-- One cookie; without an equals sign it is a value without a name. -/
def ofPart (part : List Char) : List Char × List Char :=
  let (name, value) :=
    if part.contains '=' then Form.splitOnce '=' part else ([], part)
  (Text.trim name, unquote (Text.trim value))

/-- The cookies that a request carries. -/
def read (header : String) : List (String × String) :=
  ((Form.splitAt ';' header.toList).map fun part =>
    let (name, value) := ofPart part
    (String.ofList name, String.ofList value)).filter fun (name, value) =>
      !(name.isEmpty && value.isEmpty)

/-- The value of a cookie; of several with one name the last. -/
def value? (header : Option String) (name : String) : Option String :=
  header.bind fun header => (read header).reverse.lookup name

/-! ### Writing -/

/-- Signs that stand in a value as they are. -/
def plainSigns : List Char := "!#$%&'*+-.^_\x60|~:".toList

def isPlain (c : Char) : Bool := c.isAlphanum || plainSigns.contains c

/-- Signs that stand as they are at least between quotes. -/
def isShown (c : Char) : Bool := isPlain c || " ()/<=>?@[]\x7b\x7d".toList.contains c

def octalDigits (n : Nat) : List Char :=
  [Text.digitChar (n / 64), Text.digitChar (n / 8 % 8), Text.digitChar (n % 8)]

def escaped (c : Char) : List Char :=
  if c = '\x22' ∨ c = '\\' then ['\\', c]
  else if isShown c then [c]
  else '\\' :: octalDigits c.toNat

/-- A value as it is written, in quotes where it needs them. -/
def quoted (text : List Char) : List Char :=
  if text ≠ [] ∧ text.all isPlain then text
  else '\x22' :: text.flatMap escaped ++ ['\x22']

/-- A cookie to set, for all paths. It goes only to this site, except where the user follows a
link to it. -/
structure Setting where
  name : String
  value : String
  /-- The seconds for which it is kept. -/
  lifetime : Int
  /-- When it ends, where that is told besides. -/
  expires : Option Moment := none
  /-- Whether scripts are kept from it. -/
  httpOnly : Bool := false
  /-- Whether it goes over safe connections only. -/
  secure : Bool := false
deriving Repr

/-- The names of what is told about a cookie; no cookie can be called so. -/
def reservedNames : List String := [
  "expires", "path", "comment", "domain", "max-age", "secure", "httponly", "version", "samesite"]

/-- Whether a cookie can have a name. -/
def isName (name : String) : Bool :=
  !name.isEmpty && name.toList.all isPlain &&
    !reservedNames.contains (String.ofList (name.toList.map Char.toLower))

def dayNames : List String := ["Mon", "Tue", "Wed", "Thu", "Fri", "Sat", "Sun"]

def monthNames : List String :=
  ["Jan", "Feb", "Mar", "Apr", "May", "Jun", "Jul", "Aug", "Sep", "Oct", "Nov", "Dec"]

/-- A moment as headers write it. -/
def dateText (m : Moment) : String :=
  let two (n : Nat) : String := String.ofList (Text.padded 2 n)
  dayNames.getD m.date.weekday "" ++ ", " ++ two m.date.day ++ " " ++
    monthNames.getD (m.date.month - 1) "" ++ " " ++ String.ofList (Text.padded 4 m.date.year) ++
    " " ++ two m.time.hour ++ ":" ++ two m.time.minute ++ ":" ++ two m.time.second ++ " GMT"

/-- The header that sets a cookie. -/
def Setting.header (cookie : Setting) : String × String :=
  let parts : List (List String) := [
    [cookie.name ++ "=" ++ String.ofList (quoted cookie.value.toList)],
    (cookie.expires.map fun m => "expires=" ++ dateText m).toList,
    if cookie.httpOnly then ["HttpOnly"] else [],
    ["Max-Age=" ++ String.ofList (Text.ofInt cookie.lifetime), "Path=/", "SameSite=lax"],
    if cookie.secure then ["Secure"] else []]
  ("set-cookie", "; ".intercalate parts.flatten)

/-- The setting that takes a cookie away. -/
def removal (name : String) (now : Moment) : Setting where
  name
  value := ""
  lifetime := 0
  expires := some now

end Outreach.Http.Cookie
