/-!
Patterns in texts. One that stands for itself is looked for and replaced from left to right; what
was put in is not looked at again.

In one with wildcards, a percent sign stands for any text, an underscore for any one character, and
every other character for itself. ASCII letters match without regard to case. A text ends at its
first null character. Such a pattern is matched against all suffixes of a text at once: the verdicts
for a pattern follow from those for the pattern without its first character, so that matching takes
time proportional to the product of the lengths.
-/

namespace Outreach.Text

/-! ### Occurrences -/

/-- Whether a text occurs in another; the empty text occurs in every one. -/
def occursIn (part whole : List Char) : Bool :=
  part.isPrefixOf whole || match whole with
    | [] => false
    | _ :: rest => occursIn part rest

/-- Replaces the occurrences of `first :: others` from left to right, dropping the given number of
characters before the next look. -/
def replaceFrom (first : Char) (others replacement : List Char) :
    (skip : Nat) → List Char → List Char
  | _, [] => []
  | skip + 1, _ :: rest => replaceFrom first others replacement skip rest
  | 0, c :: rest =>
      if c = first ∧ others.isPrefixOf rest then
        replacement ++ replaceFrom first others replacement others.length rest
      else c :: replaceFrom first others replacement 0 rest

/-- Replaces every occurrence of a pattern; the empty pattern occurs nowhere. -/
def replaceAll (pattern replacement text : List Char) : List Char :=
  match pattern with
  | [] => text
  | first :: others => replaceFrom first others replacement 0 text

/-! ### Wildcards -/

namespace Pattern

/-- For every suffix of a list of verdicts, whether it holds a positive one. -/
def anyLater : List Bool → List Bool
  | [] => []
  | verdict :: rest =>
      let later := anyLater rest
      (verdict || later.head?.getD false) :: later

/-- For every suffix of a text, from the whole text to the empty one, whether the pattern matches
it. -/
def verdicts : (pattern text : List Char) → List Bool
  | [], text => text.map (fun _ => false) ++ [true]
  | '%' :: rest, text => anyLater (verdicts rest text)
  | '_' :: rest, text => (verdicts rest text).drop 1 ++ [false]
  | c :: rest, text =>
      List.zipWith (fun d verdict => c = d && verdict) text ((verdicts rest text).drop 1) ++ [false]

/-- Whether a pattern matches a text, character by character. -/
def matchesExactly (pattern text : List Char) : Bool := (verdicts pattern text).head?.getD false

/-- A text up to its first null character. -/
def terminated (text : List Char) : List Char := text.takeWhile fun c => c ≠ '\x00'

/-- What is compared of a text. -/
def folded (text : List Char) : List Char := (terminated text).map Char.toLower

/-- Whether a pattern matches a text. -/
def isMatch (pattern text : List Char) : Bool := matchesExactly (folded pattern) (folded text)

/-- The pattern for texts in which a search text occurs, if the search has no wildcards. -/
def around (search : List Char) : List Char := '%' :: search ++ ['%']

/-- The most bytes a pattern may have that is matched against anything. -/
def maxBytes : Nat := 50000

def isOversized (pattern : List Char) : Bool := maxBytes < (String.ofList pattern).utf8ByteSize

end Pattern

end Outreach.Text
