import Mathlib.Data.List.Basic
import Outreach.Http.Cookie
import Outreach.Proofs.Text.Integer

/-! A cookie comes back as it was set, if its name is one that cookies can have and its value needs no
quotes. -/

namespace Outreach

theorem Form.splitOnce_append {sign : Char} {before after : List Char} (first : sign ∉ before) :
    splitOnce sign (before ++ sign :: after) = (before, after) := by
  have keeps : ∀ c ∈ before, decide (c ≠ sign) = true := by
    intro c member
    have other : c ≠ sign := by
      rintro rfl
      exact first member
    simpa using other
  have taken : (before ++ sign :: after).takeWhile (· ≠ sign) = before := by
    rw [List.takeWhile_append_of_pos keeps]
    simp
  unfold splitOnce
  rw [taken]
  simp

theorem Form.splitAt_of_notMem {sign : Char} {text : List Char} (apart : sign ∉ text) :
    splitAt sign text = [text] := by
  induction text with
  | nil => rfl
  | cons c rest ih =>
    obtain ⟨other, later⟩ := not_or.mp (mt List.mem_cons.mpr apart)
    rw [splitAt, if_neg (Ne.symm other), ih later]

namespace Http.Cookie

/-- The name and the value that are read of a cookie when a client brings it back that was told to
set it. What the client is told besides follows after a semicolon. -/
def ofHeader (header : String) : List Char × List Char :=
  ofPart (Form.splitOnce ';' header.toList).1

theorem isPlain_bounds {c : Char} (plain : isPlain c = true) : 0x21 ≤ c.toNat ∧ c.toNat < 0x7f := by
  unfold isPlain at plain
  rcases Bool.or_eq_true_iff.mp plain with letter | sign
  · have ranges : c.isAlphanum = (decide ('A'.val ≤ c.val ∧ c.val ≤ 'Z'.val) ||
      ('a'.val ≤ c.val && c.val ≤ 'z'.val) || ('0'.val ≤ c.val && c.val ≤ '9'.val)) := rfl
    simp only [ranges, Bool.or_eq_true, Bool.and_eq_true, decide_eq_true_eq,
      UInt32.le_iff_toNat_le] at letter
    change ((65 ≤ c.toNat ∧ c.toNat ≤ 90) ∨ (97 ≤ c.toNat ∧ c.toNat ≤ 122)) ∨
      (48 ≤ c.toNat ∧ c.toNat ≤ 57) at letter
    omega
  · have each : plainSigns.all (fun c => 0x21 ≤ c.toNat ∧ c.toNat < 0x7f) = true := by decide
    simpa using List.all_eq_true.mp each c (List.contains_iff_mem.mp sign)

theorem isPlain_unblank {c : Char} (plain : isPlain c = true) : Text.isBlank c = false := by
  have bounds := isPlain_bounds plain
  have apart : ∀ range ∈ Text.blankRanges, range.2 < 0x21 ∨ 0x7f ≤ range.1 := by decide
  refine List.any_eq_false.mpr fun range member => ?_
  simp only [Bool.and_eq_true, decide_eq_true_eq]
  have := apart range member
  omega

theorem trim_plain {text : List Char} (plain : ∀ c ∈ text, isPlain c = true) :
    Text.trim text = text := Text.trim_unblank fun c member => isPlain_unblank (plain c member)

theorem notMem_plain (sign : Char) {text : List Char} (special : isPlain sign = false)
    (plain : ∀ c ∈ text, isPlain c = true) : sign ∉ text := by
  intro member
  cases special.symm.trans (plain sign member)

theorem unquote_plain {text : List Char} (plain : ∀ c ∈ text, isPlain c = true) :
    unquote text = text := by
  have unquoted : text.head? ≠ some '\x22' := by
    intro first
    exact notMem_plain '\x22' (by decide) plain (List.mem_of_head? first)
  exact if_neg fun both => unquoted both.2.1

/-- A value of plain signs is written as it is; one of no signs is written as a pair of quotes. -/
theorem unquote_quoted {text : List Char} (plain : ∀ c ∈ text, isPlain c = true) :
    unquote (Text.trim (quoted text)) = text ∧ ';' ∉ quoted text := by
  cases text with
  | nil => decide
  | cons c rest =>
    have written : quoted (c :: rest) = c :: rest :=
      if_pos ⟨List.cons_ne_nil c rest, List.all_eq_true.mpr plain⟩
    rw [written, trim_plain plain, unquote_plain plain]
    exact ⟨rfl, notMem_plain ';' (by decide) plain⟩

/-- The header begins with the name and the value. -/
theorem header_begins (cookie : Setting) : ∃ rest, cookie.header.2.toList =
    (cookie.name.toList ++ '=' :: quoted cookie.value.toList) ++ ';' :: rest := by
  have parts : ∃ next others, cookie.header.2 = "; ".intercalate
      ((cookie.name ++ "=" ++ String.ofList (quoted cookie.value.toList)) :: next :: others) := by
    unfold Setting.header
    cases cookie.expires with
    | some m => exact ⟨_, _, rfl⟩
    | none => cases cookie.httpOnly <;> exact ⟨_, _, rfl⟩
  obtain ⟨next, others, written⟩ := parts
  rw [written, String.toList_intercalate]
  simp [List.intercalate]

theorem isName_plain {name : String} (named : isName name = true) :
    name ≠ "" ∧ ∀ c ∈ name.toList, isPlain c = true := by
  simp only [isName, Bool.and_eq_true, Bool.not_eq_true'] at named
  exact ⟨by simpa using named.1.1, List.all_eq_true.mp named.1.2⟩

theorem ofHeader_setting {cookie : Setting} (named : isName cookie.name = true)
    (plain : ∀ c ∈ cookie.value.toList, isPlain c = true) :
    ofHeader cookie.header.2 = (cookie.name.toList, cookie.value.toList) := by
  have name := (isName_plain named).2
  obtain ⟨back, whole⟩ := unquote_quoted plain
  obtain ⟨rest, begins⟩ := header_begins cookie
  have first : ';' ∉ cookie.name.toList ++ '=' :: quoted cookie.value.toList := by
    simp [notMem_plain ';' (by decide) name, whole]
  unfold ofHeader ofPart
  rw [begins, Form.splitOnce_append first]
  dsimp only
  rw [if_pos (by simp), Form.splitOnce_append (notMem_plain '=' (by decide) name)]
  dsimp only
  rw [trim_plain name, back]

/-- A client that brings one cookie, with a value of plain signs, is read as it is. -/
theorem value?_alone {name value : String} (named : isName name = true)
    (plain : ∀ c ∈ value.toList, isPlain c = true) :
    value? (some (name ++ "=" ++ value)) name = some value := by
  obtain ⟨filled, letters⟩ := isName_plain named
  have written : (name ++ "=" ++ value).toList = name.toList ++ '=' :: value.toList := by simp
  have whole : ';' ∉ name.toList ++ '=' :: value.toList := by
    simp [notMem_plain ';' (by decide) letters,
      notMem_plain ';' (by decide) plain]
  have part : ofPart (name.toList ++ '=' :: value.toList) = (name.toList, value.toList) := by
    unfold ofPart
    rw [if_pos (by simp), Form.splitOnce_append (notMem_plain '=' (by decide) letters)]
    dsimp only
    rw [trim_plain letters, trim_plain plain, unquote_plain plain]
  have held : read (name ++ "=" ++ value) = [(name, value)] := by
    unfold read
    rw [written, Form.splitAt_of_notMem whole, List.map_singleton, part]
    simp [filled]
  show (read (name ++ "=" ++ value)).reverse.lookup name = some value
  rw [held]
  simp

end Http.Cookie

end Outreach
