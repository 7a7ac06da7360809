import Mathlib.Data.List.DropRight
import Mathlib.Data.Nat.Digits.Defs
import TickTree.Config.Numeral
import TickTree.Text.Blank

/-!
# The language of numerals

A numeral is a plus sign or none and then some decimal digits, and the number that it stands for is
what these digits denote in base ten. As the number may be of any size, so may be the numeral, and
its value is exact. A text holds a numeral if there is nothing else in it but blanks at its two
ends.

## Main definitions

* `Numeral.Writes`: a text is a numeral for a number
* `Text.Padded`: a text with blanks around it

## Main results

* `Numeral.read?_eq_some_iff`: what is read is what is written
* `Numeral.read?_trim_eq_some_iff`: the same with blanks around it
-/

namespace TickTree

/-! ### Numerals -/

namespace Numeral

/-- A text is a numeral for a number: behind a plus sign or none, there are one or more decimal
digits, the least significant last, that denote the number. -/
def Writes (text : List Char) (n : Nat) : Prop :=
  ∃ sign digits, text = sign ++ digits.map Nat.digitChar ∧ (sign = [] ∨ sign = ['+']) ∧
    digits ≠ [] ∧ (∀ d ∈ digits, d < 10) ∧ Nat.ofDigits 10 digits.reverse = n

theorem isDigit_of_mem_map_digitChar {digits : List Nat} (h : ∀ d ∈ digits, d < 10) :
    ∀ c ∈ digits.map Nat.digitChar, c.isDigit = true := by
  intro c hc
  obtain ⟨d, hd, hc⟩ := List.mem_map.1 hc
  rw [← hc, Nat.isDigit_digitChar, decide_eq_true (h d hd)]

/-- A decimal digit is the character of a number below ten. -/
theorem exists_digitChar_eq {c : Char} (h : c.isDigit = true) : ∃ d < 10, Nat.digitChar d = c := by
  have ⟨hlow, hhigh⟩ := Char.isDigit_iff_toNat.1 h
  have hzero : '0'.toNat = 48 := rfl
  have hnine : '9'.toNat = 57 := rfl
  have hlt : c.toNat - 48 < 10 := by omega
  refine ⟨c.toNat - 48, hlt, Char.toNat_inj.1 ?_⟩
  rw [Nat.toNat_digitChar_of_lt_ten hlt]
  omega

/-- Decimal digits are the characters of numbers below ten. -/
theorem exists_map_digitChar_eq {text : List Char} (h : ∀ c ∈ text, c.isDigit = true) :
    ∃ digits : List Nat, (∀ d ∈ digits, d < 10) ∧ digits.map Nat.digitChar = text := by
  induction text with
  | nil => exact ⟨[], by simp, rfl⟩
  | cons c text ih =>
    rw [List.forall_mem_cons] at h
    obtain ⟨d, hd, hc⟩ := exists_digitChar_eq h.1
    obtain ⟨digits, hdigits, htext⟩ := ih h.2
    exact ⟨d :: digits, List.forall_mem_cons.2 ⟨hd, hdigits⟩, by rw [List.map_cons, hc, htext]⟩

/-- The value of a row of digits is what they denote, however many they are. -/
theorem value_map_digitChar {digits : List Nat} (h : ∀ d ∈ digits, d < 10) :
    value (digits.map Nat.digitChar) = Nat.ofDigits 10 digits.reverse := by
  induction digits using List.reverseRecOn with
  | nil => rfl
  | append_singleton digits d ih =>
    rw [List.forall_mem_append, List.forall_mem_singleton] at h
    have hd : (Nat.digitChar d).toNat - '0'.toNat = d := by
      rw [Nat.toNat_digitChar_of_lt_ten h.2]
      exact Nat.add_sub_cancel_left 48 d
    rw [List.map_append, List.map_singleton, value, List.foldl_concat, hd, List.reverse_concat,
      Nat.ofDigits_cons, ← ih h.1, Nat.add_comm]
    rfl

/-- A text is its sign and what is behind the sign. -/
theorem exists_sign_append_unsigned (text : List Char) :
    ∃ sign, (sign = [] ∨ sign = ['+']) ∧ text = sign ++ unsigned text := by
  unfold unsigned
  split
  · exact ⟨['+'], .inr rfl, rfl⟩
  · exact ⟨[], .inl rfl, rfl⟩

theorem unsigned_append {sign digits : List Char} (hsign : sign = [] ∨ sign = ['+'])
    (hdigits : ∀ c ∈ digits, c.isDigit = true) : unsigned (sign ++ digits) = digits := by
  rcases hsign with hnone | hplus
  · -- Digits do not begin with a sign.
    rw [hnone, List.nil_append]
    unfold unsigned
    split
    · exact absurd (hdigits '+' (by simp)) (by decide)
    · rfl
  · rw [hplus]
    rfl

/-- Exactly the numerals are read, and what is read is the number that they stand for. -/
theorem read?_eq_some_iff {text : List Char} {n : Nat} : read? text = some n ↔ Writes text n := by
  rw [read?, Option.ite_none_right_eq_some, Option.some_inj, List.all_eq_true]
  constructor
  · intro ⟨⟨hne, hall⟩, hvalue⟩
    obtain ⟨sign, hsign, htext⟩ := exists_sign_append_unsigned text
    obtain ⟨digits, hdigits, heq⟩ := exists_map_digitChar_eq hall
    rw [← heq] at hne hvalue htext
    refine ⟨sign, digits, htext, hsign, fun hnil => hne (by rw [hnil]; rfl), hdigits, ?_⟩
    rw [← value_map_digitChar hdigits, hvalue]
  · intro ⟨sign, digits, htext, hsign, hne, hdigits, hvalue⟩
    have hall := isDigit_of_mem_map_digitChar hdigits
    rw [htext, unsigned_append hsign hall, value_map_digitChar hdigits]
    exact ⟨⟨fun hnil => hne (List.map_eq_nil_iff.1 hnil), hall⟩, hvalue⟩

end Numeral

/-! ### Blanks around a text -/

namespace Text

/-- A text with blanks around it, or with none. -/
def Padded (core text : List Char) : Prop :=
  ∃ before after, text = before ++ core ++ after ∧
    (∀ c ∈ before, isBlank c = true) ∧ ∀ c ∈ after, isBlank c = true

/-- What is cut off are blanks. -/
theorem padded_trim (text : List Char) : Padded (trim text) text := by
  have htrim : trim text = (text.dropWhile isBlank).rdropWhile isBlank := rfl
  refine ⟨text.takeWhile isBlank, (text.dropWhile isBlank).rtakeWhile isBlank, ?_,
    fun c hc => List.mem_takeWhile_imp hc, fun c hc => List.mem_rtakeWhile_imp hc⟩
  rw [htrim, List.append_assoc, List.rdropWhile_append_rtakeWhile,
    List.takeWhile_append_dropWhile]

theorem dropWhile_padded {before core : List Char} (hbefore : ∀ c ∈ before, isBlank c = true)
    (hne : core ≠ []) (hcore : ∀ c ∈ core, isBlank c = false) (after : List Char) :
    (before ++ core ++ after).dropWhile isBlank = core ++ after := by
  rw [List.append_assoc, List.dropWhile_append_of_pos hbefore]
  obtain ⟨c, rest, hcons⟩ := List.exists_cons_of_ne_nil hne
  rw [hcons, List.forall_mem_cons] at hcore
  rw [hcons, List.cons_append, List.dropWhile_cons_of_neg (by simp [hcore.1])]

/-- All blanks are cut off. -/
theorem Padded.trim_eq {core text : List Char} (h : Padded core text) (hne : core ≠ [])
    (hcore : ∀ c ∈ core, isBlank c = false) : trim text = core := by
  obtain ⟨before, after, htext, hbefore, hafter⟩ := h
  -- Seen from its end, the text is padded as well.
  have hback : (after.reverse ++ core.reverse ++ []).dropWhile isBlank = core.reverse ++ [] :=
    dropWhile_padded (by simpa using hafter) (by simpa using hne) (by simpa using hcore) []
  rw [List.append_nil, List.append_nil] at hback
  rw [trim, htext, dropWhile_padded hbefore hne hcore, List.reverse_append, hback,
    List.reverse_reverse]

end Text

/-! ### Numerals between blanks -/

namespace Numeral

/-- A numeral is not empty, and there are no blanks in it. -/
theorem Writes.ne_nil {text : List Char} {n : Nat} (h : Writes text n) : text ≠ [] := by
  obtain ⟨sign, digits, htext, -, hne, -, -⟩ := h
  rw [htext]
  exact List.append_ne_nil_of_right_ne_nil _ (fun hnil => hne (List.map_eq_nil_iff.1 hnil))

theorem isBlank_of_isDigit {c : Char} (h : c.isDigit = true) : Text.isBlank c = false := by
  obtain ⟨d, hd, rfl⟩ := exists_digitChar_eq h
  revert d
  decide

theorem Writes.isBlank_eq_false {text : List Char} {n : Nat} (h : Writes text n) :
    ∀ c ∈ text, Text.isBlank c = false := by
  obtain ⟨sign, digits, htext, hsign, -, hdigits, -⟩ := h
  intro c hc
  rw [htext, List.mem_append] at hc
  rcases hc with hc | hc
  · rcases hsign with hnone | hplus
    · simp [hnone] at hc
    · rw [hplus, List.mem_singleton] at hc
      rw [hc]
      decide
  · exact isBlank_of_isDigit (isDigit_of_mem_map_digitChar hdigits c hc)

/-- What is read between blanks is the number of the numeral that stands there. -/
theorem read?_trim_eq_some_iff {text : List Char} {n : Nat} :
    read? (Text.trim text) = some n ↔ ∃ numeral, Text.Padded numeral text ∧ Writes numeral n := by
  rw [read?_eq_some_iff]
  constructor
  · intro h
    exact ⟨Text.trim text, Text.padded_trim text, h⟩
  · intro ⟨numeral, hpadded, hwrites⟩
    rwa [hpadded.trim_eq hwrites.ne_nil hwrites.isBlank_eq_false]

end Numeral

end TickTree
