import Outreach.Schema.Checked

/-!
Vocabularies: kinds of things that are few and have a word each, by which data names them.
-/

namespace Outreach

class Vocabulary (α : Type) where
  all : List α
  word : α → String
  mem_all : ∀ a : α, a ∈ all
  word_injective : ∀ a b : α, word a = word b → a = b

namespace Vocabulary

variable {α : Type} [Vocabulary α]

def words (α : Type) [Vocabulary α] : List String := (all : List α).map word

/-- The thing that a word names. -/
def ofWord? (text : String) : Option α := all.find? fun a => word a = text

theorem ofWord?_word (a : α) : ofWord? (word a) = some a := by
  unfold ofWord?
  cases found : (all : List α).find? fun b => word b = word a with
  | none => simpa using List.find?_eq_none.mp found a (mem_all a)
  | some b => rw [word_injective b a (by simpa using List.find?_some found)]

theorem word_of_ofWord? {text : String} {a : α} (named : ofWord? text = some a) :
    word a = text := by
  simpa using List.find?_some named

/-- Reads a word. -/
def read : Reader α
  | .text text =>
      match ofWord? text with
      | some a => .accepted a
      | none => .refuse (.notAmong (words α))
  | _ => .refuse (.notAmong (words α))

def toValue (a : α) : Value := .text (word a)

end Vocabulary

end Outreach
