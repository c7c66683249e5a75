import Outreach.Text.Half
import Outreach.Value.Basic

/-!
Values whose texts have only characters. Only they can be sent.
-/

namespace Outreach.Value

mutual

/-- Whether all texts in data, keys among them, have only characters. -/
def isWhole : Value → Bool
  | text letters => Text.isWhole letters
  | list items | tuple items | set items => areWhole items
  | dict entries => haveWholeTexts entries
  | _ => true

def areWhole : List Value → Bool
  | [] => true
  | item :: rest => isWhole item && areWhole rest

def haveWholeTexts : List (Value × Value) → Bool
  | [] => true
  | (key, item) :: rest => isWhole key && isWhole item && haveWholeTexts rest

end

theorem areWhole_eq_all (items : List Value) : areWhole items = items.all isWhole := by
  induction items with
  | nil => rfl
  | cons item rest ih => simp [areWhole, ih]

end Outreach.Value
