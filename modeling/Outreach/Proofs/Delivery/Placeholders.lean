import Outreach.Delivery.Message
import Outreach.Proofs.Text.Replacement
import Outreach.Schema.Dump

/-! Filling in a message's placeholders. The name is put in before the address is, so what the name
writes may be taken for a placeholder of the address. The message is what one pass over the body
makes exactly if putting the name in makes no new placeholder of the address. A name that has
nothing in common with that placeholder never does, and any other name does in some body. -/

namespace Outreach.Message

/-- The body with both placeholders filled in at once, in one pass from left to right. -/
def fillAtOnce (name email body : List Char) : List Char :=
  Text.substitute [(namePlaceholder, name), (emailPlaceholder, email)] body

/-- A detail as it is filled in; one that is missing is empty. -/
def letters (value : Option String) : List Char := (value.getD "").toList

theorem placeholders_apart : Text.AreApart namePlaceholder emailPlaceholder where
  one := ⟨by decide, by decide⟩
  two := ⟨by decide, by decide⟩
  behind := by decide
  ahead := by decide

theorem detail_ofOption (value : Option String) :
    detail (.ofOption .text value) = .ok (letters value) := by
  cases value with
  | none => rfl
  | some s =>
    unfold detail
    split
    next empty =>
      have blank : s = "" := by simpa [Value.ofOption, Value.isEmpty] using empty
      rw [blank]
      rfl
    next => rfl

/-- The names that are filled in as one pass does it in every body: those that have no ending, no
beginning and no part in common with the placeholder of the address. -/
theorem fill_always_iff (name email : List Char) :
    (∀ body, fill name email body = fillAtOnce name email body) ↔
      email = emailPlaceholder ∨
        (Text.IsClear emailPlaceholder name ∧ Text.IsClear name emailPlaceholder) :=
  Text.replaceAll_replaceAll_always_iff placeholders_apart (by decide) name email

example :
    Text.IsClear emailPlaceholder "Ada".toList ∧ Text.IsClear "Ada".toList emailPlaceholder := by
  decide

/-- A body that gives a text is filled in for every customer, and as one pass over it does exactly
if the name makes no new placeholder of the address, or the address is that placeholder. -/
theorem render_fills_at_once_iff {content : Value} {customer : Profile} {body : List Char}
    {name email : Option String} (written : Message.body content = .ok body)
    (named : customer.name = .ofOption .text name)
    (addressed : customer.email = .ofOption .text email) :
    ∃ message, render content customer = .ok message ∧
      (message = String.ofList (fillAtOnce (letters name) (letters email) body) ↔
        letters email = emailPlaceholder ∨
          Text.occurrences emailPlaceholder (Text.replaceAll namePlaceholder (letters name) body) =
            Text.occurrences emailPlaceholder body) := by
  refine ⟨String.ofList (fill (letters name) (letters email) body), ?_, ?_⟩
  · rw [render, written, named, addressed, detail_ofOption, detail_ofOption]
    rfl
  · rw [String.ofList_inj]
    exact Text.replaceAll_replaceAll_iff placeholders_apart _ _ _

/-- A body that greets the customer by name. -/
def greeting : Value := .dict [(.text "body", .text "Hi \x7b\x7bname\x7d\x7d")]

def ada : Profile := { name := .text "Ada" }

theorem ada_greeted_at_once :
    ∃ message, render greeting ada = .ok message ∧
      message = String.ofList (fillAtOnce "Ada".toList [] "Hi \x7b\x7bname\x7d\x7d".toList) := by
  have written : body greeting = .ok "Hi \x7b\x7bname\x7d\x7d".toList := rfl
  have named : ada.name = .ofOption .text (some "Ada") := rfl
  have addressed : ada.email = .ofOption .text none := rfl
  obtain ⟨message, rendered, same⟩ := render_fills_at_once_iff written named addressed
  exact ⟨message, rendered, same.mpr (.inr (by decide))⟩

/-- A name that writes the placeholder of the address is filled in with the address. -/
theorem name_taken_for_placeholder :
    render greeting { name := .text "\x7b\x7bemail\x7d\x7d", email := .text "a@b.cc" } =
        .ok "Hi a@b.cc" ∧
      String.ofList (fillAtOnce emailPlaceholder "a@b.cc".toList
        "Hi \x7b\x7bname\x7d\x7d".toList) = "Hi \x7b\x7bemail\x7d\x7d" := by
  decide

end Outreach.Message
