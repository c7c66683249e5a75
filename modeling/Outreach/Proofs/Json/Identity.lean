import Outreach.Proofs.Json.Tree

/-! A value that was read from a JSON text is the same as itself. Members are compared place by
place and entries key by key, and as no object has a key twice, the entry that is found under a key
is the one that was looked for. There is one not-a-number only. -/

namespace Outreach

open Value

/-! ### Numbers -/

namespace Decimal

end Decimal

namespace Value

end Value

/-! ### Values read from texts -/

/-- No mapping in a value has a key twice. -/
def KeysApart (value : Value) : Prop :=
  ∀ entries, IsPart (.dict entries) value → (entries.map Prod.fst).Nodup

theorem KeysApart.part {part whole : Value} (apart : KeysApart whole) (held : IsPart part whole) :
    KeysApart part := fun entries below => apart entries (below.trans held)

theorem keysApart_list {items : List Value} (each : ∀ item ∈ items, KeysApart item) :
    KeysApart (.list items) := by
  intro entries held
  cases held with
  | inside member below =>
    cases member with
    | list among => exact each _ among entries below

theorem keysApart_dict {entries : List (Value × Value)}
    (keys : ∀ entry ∈ entries, ∃ letters, entry.1 = .text letters)
    (apart : (entries.map Prod.fst).Nodup) (each : ∀ entry ∈ entries, KeysApart entry.2) :
    KeysApart (.dict entries) := by
  intro others held
  cases held with
  | whole => exact apart
  | inside member below =>
    cases member with
    | key among =>
      obtain ⟨letters, same⟩ := keys _ among
      rw [same] at below
      cases below with
      | inside impossible _ => cases impossible
    | entry among => exact each _ among others below

/-- A value without members that is no mapping has no key twice. -/
theorem keysApart_atom {value : Value} (alone : ∀ member, ¬ HasMember member value)
    (notDict : ∀ entries, value ≠ .dict entries) : KeysApart value := by
  intro entries held
  cases held with
  | whole => exact absurd rfl (notDict entries)
  | inside member _ => exact absurd member (alone _)

theorem keysApart_text (letters : String) : KeysApart (.text letters) :=
  keysApart_atom (by rintro _ ⟨⟩) (by rintro _ ⟨⟩)

/-- A value as JSON has them, in which no object has a key twice. -/
def IsDocument (value : Value) : Prop := IsJson value ∧ KeysApart value

theorem IsDocument.part {value part : Value} (document : IsDocument value)
    (placed : Value.IsPart part value) : IsDocument part :=
  ⟨document.1.part placed, document.2.part placed⟩

theorem isDocument_builtUp : Json.IsBuiltUp IsDocument where
  text letters := ⟨.text letters, keysApart_text letters⟩
  int n := ⟨.int n, keysApart_atom (by rintro _ ⟨⟩) (by rintro _ ⟨⟩)⟩
  float x := ⟨.float x, keysApart_atom (by rintro _ ⟨⟩) (by rintro _ ⟨⟩)⟩
  word entry member := by
    refine ⟨Json.isJson_builtUp.word entry member, ?_⟩
    have atom : ∀ entry ∈ Json.words, (∀ member, ¬ HasMember member entry.2) ∧
        ∀ entries, entry.2 ≠ .dict entries := by
      simp only [Json.words, List.forall_mem_cons]
      refine ⟨?_, ?_, ?_, ?_, ?_, ?_, by simp⟩ <;> exact ⟨by rintro _ ⟨⟩, by rintro _ ⟨⟩⟩
    exact keysApart_atom (atom entry member).1 (atom entry member).2
  list items each := ⟨.list fun item member => (each item member).1,
    keysApart_list fun item member => (each item member).2⟩
  empty := ⟨.dict (by simp) (by simp), keysApart_dict (by simp) (by simp) (by simp)⟩
  put entries key item old new := by
    have json := Json.put_isJson old.1 new.1 key
    refine ⟨json, ?_⟩
    cases json with
    | dict keys each =>
      refine keysApart_dict keys (Json.put_keys (old.2 _ .whole) item) fun entry member => ?_
      rcases Json.mem_put member with ⟨earlier, among, -, kept | replaced⟩ | rfl
      · rw [kept]
        exact old.2.part (.inside (.entry among) .whole)
      · rw [replaced]
        exact new.2
      · exact new.2

theorem Json.read_isDocument {text : List Char} {value : Value} (accepted : read text = .ok value) :
    IsDocument value := read_good isDocument_builtUp accepted

end Outreach
