import Outreach.Form.Encoding

/-!
Addresses: the target that a request names, taken apart into a path and a query, and the address of
a redirection, written with all characters that an address may hold.
-/

namespace Outreach.Http

structure Target where
  /-- The path, decoded. -/
  path : String
  /-- The query, encoded. -/
  query : String
deriving DecidableEq, Repr

namespace Target

/-- Signs that part an address or its parts. -/
def delimiters : List Char := "!$&'()*+,;=:/?[]@".toList

def isUnreserved (c : Char) : Bool := c.isAlphanum || "-._~".toList.contains c

/-- A text in which every byte that stands neither for a given sign nor for an unreserved one is
written with a percent sign and two digits. -/
def quote (signs text : List Char) : List Char :=
  text.flatMap fun c =>
    if isUnreserved c || signs.contains c then [c]
    else (String.utf8EncodeChar c).flatMap fun byte =>
      ['%', Form.hexDigit (byte.toNat / 16), Form.hexDigit (byte.toNat % 16)]

/-- Quotes a text that may be quoted in parts already: a percent sign with two digits stays. -/
def quoteRest (signs : List Char) : List Char → List Char
  | '%' :: high :: low :: rest =>
      if (Text.hexValue? high).isSome && (Text.hexValue? low).isSome then
        '%' :: high :: low :: quoteRest signs rest
      else quote signs ['%'] ++ quoteRest signs (high :: low :: rest)
  | c :: rest => quote signs [c] ++ quoteRest signs rest
  | [] => []

/-- Goes through the steps of a path; two dots take back the step before. -/
def walk (steps : List (List Char)) : List (List Char) :=
  steps.foldl (fun walked step =>
    if step = ['.'] then walked
    else if step = ['.', '.'] then
      if walked = [] ∨ walked = [[]] then walked else walked.dropLast
    else walked ++ [step]) []

/-- A path without steps that lead nowhere or back. -/
def straightened (path : List Char) : List Char :=
  ['/'].intercalate (walk (Form.splitAt '/' path))

/-- The target that a text names. What follows a number sign is not sent. -/
def ofText (text : String) : Target :=
  let sent := text.toList.takeWhile (· ≠ '#')
  let (path, query) := Form.splitOnce '?' sent
  { path := String.ofList (Form.percentDecode (straightened path))
    query := String.ofList (quoteRest delimiters query) }

/-- The path as it is named in answers: without line ends, and only up to a sign that would begin
a query. -/
def shownPath (path : String) : String :=
  String.ofList ((path.toList.takeWhile fun c => c ≠ '?' && c ≠ '#').filter fun c =>
    c ≠ '\n' && c ≠ '\r' && c ≠ '\t')

/-- An address to which a client is sent. -/
def location (address : String) : String :=
  String.ofList (quote ('%' :: '#' :: delimiters) address.toList)

end Target

end Outreach.Http
