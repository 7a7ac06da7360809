import Mathlib.Data.List.Nodup
import Mathlib.Data.Nat.Digits.Defs
import TickTree.Text.Quoted

/-!
# Quoted texts can be read back

A quoted text has one beginning and one end: whatever characters the text has, the first quote that
no backslash marks is the one that closes it. What stands between the quotes belongs to one text
only, although a character may be written in three ways, one of them of any length. And if all
control characters are special, then there is none in what is written, so that it stays on one line.

Which characters are special makes no difference to this, apart from the controls.

## Main definitions

* `Quoted.Form`: the three ways in which a character is written
* `Quoted.atQuote?`: a text up to the first quote that no backslash marks
* `IsControl`: control characters and separators of lines

## Main results

* `Quoted.encode_append_inj`: a quoted text and what follows it can be told apart, whatever follows
* `Quoted.atQuote?_flatMap_escape`: the quote at the end is the first that is not marked
* `Quoted.not_isControl_of_mem_encode`: no control character is written
* `isSpecial_of_isControl`: the special characters of the program include the controls
-/

namespace TickTree.Text

/-- A control character, or a character that separates lines or paragraphs. -/
def IsControl (c : Char) : Prop :=
  c.toNat < 0x20 ∨ (0x7f ≤ c.toNat ∧ c.toNat ≤ 0x9f) ∨ c.toNat = 0x2028 ∨ c.toNat = 0x2029

instance (c : Char) : Decidable (IsControl c) :=
  inferInstanceAs (Decidable (_ ∨ _ ∨ _ ∨ _))

theorem Unprintable.contains_of_mem {range : Nat × Nat} {code : Nat} (h : range ∈ ranges)
    (hfirst : range.1 ≤ code) (hlast : code ≤ range.2) : contains code = true := by
  rw [contains, Array.any_eq_true']
  exact ⟨range, h, by simp [hfirst, hlast]⟩

/-- All control characters are special characters of the program. -/
theorem isSpecial_of_isControl {c : Char} (h : IsControl c) : isSpecial c = true := by
  have hearly : (0x7f, 0xa0) ∈ Unprintable.early := by decide +kernel
  have hbasic : (0x2028, 0x202f) ∈ Unprintable.basic := by decide +kernel
  unfold IsControl at h
  by_cases hascii : c.toNat < 0x80
  · simp only [isSpecial, if_pos hascii, Bool.or_eq_true, decide_eq_true_eq, beq_iff_eq]
    omega
  · rw [isSpecial, if_neg hascii, Bool.or_eq_true]
    left
    by_cases hlatin : c.toNat ≤ 0xa0
    · have hmem : (0x7f, 0xa0) ∈ Unprintable.ranges := by simp [Unprintable.ranges, hearly]
      exact Unprintable.contains_of_mem hmem (by omega) hlatin
    · have hmem : (0x2028, 0x202f) ∈ Unprintable.ranges := by simp [Unprintable.ranges, hbasic]
      exact Unprintable.contains_of_mem hmem (by omega) (by omega)

namespace Quoted

/-! ### Code points -/

/-- The character of a hexadecimal digit. -/
def hexDigit (d : Fin 16) : Char := Nat.digitChar d

theorem hexDigit_injective : Function.Injective hexDigit := by
  intro d e
  revert d e
  decide

/-- A number is written in digits that denote it. -/
theorem exists_map_hexDigit_eq (n : Nat) : ∃ digits : List (Fin 16),
    digits.map hexDigit = hexDigits n ∧ Nat.ofDigits 16 (digits.reverse.map Fin.val) = n := by
  induction n using Nat.strong_induction_on with
  | _ n ih =>
    rw [hexDigits, Nat.toDigits_eq_if (by decide)]
    by_cases hsmall : n < 16
    · exact ⟨[⟨n, hsmall⟩], by simp [hexDigit, hsmall], by simp⟩
    · obtain ⟨digits, hdigits, hvalue⟩ := ih (n / 16) (by omega)
      refine ⟨digits ++ [⟨n % 16, by omega⟩], ?_, ?_⟩
      · rw [if_neg hsmall, List.map_append, hdigits]
        rfl
      · rw [List.reverse_concat, List.map_cons, Nat.ofDigits_cons, hvalue]
        exact Nat.mod_add_div n 16

theorem hexDigits_injective : Function.Injective hexDigits := by
  intro m n h
  obtain ⟨digits, hm, hvalue⟩ := exists_map_hexDigit_eq m
  obtain ⟨digits', hn, hvalue'⟩ := exists_map_hexDigit_eq n
  have hsame : digits = digits' :=
    List.map_injective_iff.2 hexDigit_injective (by rw [hm, hn, h])
  rw [← hvalue, ← hvalue', hsame]

theorem exists_hexDigit_eq_of_mem {n : Nat} {c : Char} (h : c ∈ hexDigits n) :
    ∃ d, hexDigit d = c := by
  obtain ⟨digits, hdigits, -⟩ := exists_map_hexDigit_eq n
  rw [← hdigits] at h
  obtain ⟨d, -, hd⟩ := List.mem_map.1 h
  exact ⟨d, hd⟩

/-- Two texts that are the same up to the first place of a character have the same in front of it
and behind it. -/
theorem append_cons_inj {a : Char} {xs ys s t : List Char} (hxs : a ∉ xs) (hys : a ∉ ys)
    (h : xs ++ a :: s = ys ++ a :: t) : xs = ys ∧ s = t := by
  induction xs generalizing ys with
  | nil =>
    cases ys with
    | nil => exact ⟨rfl, (List.cons.inj h).2⟩
    | cons y ys => exact absurd (List.cons.inj h).1 (List.ne_of_not_mem_cons hys)
  | cons x xs ih =>
    cases ys with
    | nil => exact absurd (List.cons.inj h).1.symm (List.ne_of_not_mem_cons hxs)
    | cons y ys =>
      obtain ⟨hhead, htail⟩ := List.cons.inj h
      obtain ⟨hsame, hrest⟩ :=
        ih (List.not_mem_of_not_mem_cons hxs) (List.not_mem_of_not_mem_cons hys) htail
      exact ⟨by rw [hhead, hsame], hrest⟩

/-- Behind a code point in braces, the text goes on. -/
theorem codePoint_append_inj {c d : Char} {s t : List Char}
    (h : codePoint c ++ s = codePoint d ++ t) : c = d ∧ s = t := by
  have hbrace (n : Nat) : '\x7d' ∉ hexDigits n := by
    intro hmem
    obtain ⟨d, hd⟩ := exists_hexDigit_eq_of_mem hmem
    revert d
    decide
  simp only [codePoint, List.append_assoc, List.singleton_append, List.append_cancel_left_eq] at h
  obtain ⟨hdigits, hrest⟩ := append_cons_inj (hbrace _) (hbrace _) h
  exact ⟨Char.toNat_inj.1 (hexDigits_injective hdigits), hrest⟩

/-! ### One character -/

/-- The characters that are written as a letter behind a backslash, each with its letter. -/
def letters : List (Char × Char) :=
  [('\x00', '0'), ('\t', 't'), ('\r', 'r'), ('\n', 'n'), ('"', '"'), ('\\', '\\')]

/-- The three ways in which a character is written. -/
inductive Form (special : Char → Bool) (c : Char) : List Char → Prop
  /-- A letter behind a backslash. -/
  | letter {l : Char} : (c, l) ∈ letters → Form special c ['\\', l]
  /-- The code point in braces. -/
  | codePoint : special c = true → Form special c (codePoint c)
  /-- The character itself. -/
  | plain : c ≠ '"' → c ≠ '\\' → special c = false → Form special c [c]

variable {special : Char → Bool} {c d : Char} {written written' s t : List Char}

theorem form_escape (special : Char → Bool) (c : Char) : Form special c (escape special c) := by
  unfold escape
  split
  case h_7 =>
    split
    case isTrue hspecial => exact .codePoint hspecial
    case isFalse hspecial =>
      apply Form.plain
      · assumption
      · assumption
      · simpa using hspecial
  all_goals exact .letter (by decide)

/-- No letter is that of two characters, and no code point begins like a letter. -/
theorem letters_inj {l : Char} (hc : (c, l) ∈ letters) (hd : (d, l) ∈ letters) : c = d := by
  have hall : ∀ p ∈ letters, ∀ q ∈ letters, p.2 = q.2 → p.1 = q.1 := by decide
  exact hall _ hc _ hd rfl

theorem letter_ne_u {l : Char} (h : (c, l) ∈ letters) : l ≠ 'u' := by
  have hall : ∀ p ∈ letters, p.2 ≠ 'u' := by decide
  exact hall _ h

/-- What is written for a character tells the character, whatever follows. -/
theorem Form.append_inj (h : Form special c written) (h' : Form special d written')
    (heq : written ++ s = written' ++ t) : c = d ∧ s = t := by
  -- The first two characters tell the form.
  cases h with
  | letter hl =>
    cases h' with
    | letter hl' =>
      obtain ⟨-, htail⟩ := List.cons.inj heq
      obtain ⟨hsame, hrest⟩ := List.cons.inj htail
      rw [hsame] at hl
      exact ⟨letters_inj hl hl', hrest⟩
    | codePoint _ =>
      obtain ⟨-, htail⟩ := List.cons.inj heq
      exact absurd (List.cons.inj htail).1 (letter_ne_u hl)
    | plain _ hbackslash _ => exact absurd (List.cons.inj heq).1.symm hbackslash
  | codePoint _ =>
    cases h' with
    | letter hl' =>
      obtain ⟨-, htail⟩ := List.cons.inj heq
      exact absurd (List.cons.inj htail).1.symm (letter_ne_u hl')
    | codePoint _ => exact codePoint_append_inj heq
    | plain _ hbackslash _ => exact absurd (List.cons.inj heq).1.symm hbackslash
  | plain _ hbackslash _ =>
    cases h' with
    | letter _ => exact absurd (List.cons.inj heq).1 hbackslash
    | codePoint _ => exact absurd (List.cons.inj heq).1 hbackslash
    | plain _ _ _ => exact List.cons.inj heq

/-! ### The closing quote -/

/-- What stands in front of the first quote that no backslash marks, and what stands behind it. -/
def atQuote? : List Char → Option (List Char × List Char)
  | [] => none
  | ['\\'] => none
  | '\\' :: c :: rest =>
    (atQuote? rest).map fun (inside, behind) => ('\\' :: c :: inside, behind)
  | '"' :: rest => some ([], rest)
  | c :: rest => (atQuote? rest).map fun (inside, behind) => (c :: inside, behind)

/-- A text has no quote that is not marked, and marks nothing behind it. -/
def IsInside (text : List Char) : Prop :=
  ∀ rest, atQuote? (text ++ rest) =
    (atQuote? rest).map fun (inside, behind) => (text ++ inside, behind)

theorem isInside_nil : IsInside [] := by
  intro rest
  simp

theorem IsInside.append (h : IsInside s) (h' : IsInside t) : IsInside (s ++ t) := by
  intro rest
  rw [List.append_assoc, h, h']
  cases atQuote? rest <;> simp

theorem isInside_flatMap {f : Char → List Char} (h : ∀ c, IsInside (f c)) (text : List Char) :
    IsInside (text.flatMap f) := by
  induction text with
  | nil => exact isInside_nil
  | cons c text ih =>
    rw [List.flatMap_cons]
    exact (h c).append ih

theorem isInside_marked (c : Char) : IsInside ['\\', c] := by
  intro rest
  rfl

theorem isInside_singleton (hquote : c ≠ '"') (hbackslash : c ≠ '\\') : IsInside [c] := by
  intro rest
  rw [List.singleton_append, atQuote?]
  · rfl
  · exact fun h _ => hbackslash h
  · exact fun _ _ h _ => hbackslash h
  · exact hquote

theorem isInside_map {α : Type} {f : α → Char} (hquote : ∀ a, f a ≠ '"')
    (hbackslash : ∀ a, f a ≠ '\\') (as : List α) : IsInside (as.map f) := by
  induction as with
  | nil => exact isInside_nil
  | cons a as ih => exact (isInside_singleton (hquote a) (hbackslash a)).append ih

theorem isInside_codePoint (c : Char) : IsInside (codePoint c) := by
  obtain ⟨digits, hdigits, -⟩ := exists_map_hexDigit_eq c.toNat
  rw [codePoint, ← hdigits]
  have hopen : IsInside ['\\', 'u', '\x7b'] :=
    (isInside_marked 'u').append (isInside_singleton (by decide) (by decide))
  have hclose : IsInside ['\x7d'] := isInside_singleton (by decide) (by decide)
  exact (hopen.append (isInside_map (by decide) (by decide) digits)).append hclose

theorem Form.isInside (h : Form special c written) : IsInside written := by
  cases h with
  | letter _ => exact isInside_marked _
  | codePoint _ => exact isInside_codePoint c
  | plain hquote hbackslash _ => exact isInside_singleton hquote hbackslash

/-- The closing quote is the first that is not marked, whatever follows it. -/
theorem atQuote?_flatMap_escape (special : Char → Bool) (text rest : List Char) :
    atQuote? (text.flatMap (escape special) ++ '"' :: rest) =
      some (text.flatMap (escape special), rest) := by
  rw [isInside_flatMap (fun c => (form_escape special c).isInside), atQuote?]
  simp

/-! ### Whole texts -/

theorem Form.ne_nil (h : Form special c written) : written ≠ [] := by
  cases h with
  | letter _ => exact List.cons_ne_nil _ _
  | codePoint _ => exact List.cons_ne_nil _ _
  | plain _ _ _ => exact List.cons_ne_nil _ _

/-- What stands between the quotes belongs to one text. -/
theorem flatMap_escape_injective (special : Char → Bool) :
    Function.Injective fun text : List Char => text.flatMap (escape special) := by
  intro text text' h
  induction text generalizing text' with
  | nil =>
    cases text' with
    | nil => rfl
    | cons d text' =>
      have hnil := (List.append_eq_nil_iff.1 h.symm).1
      exact absurd hnil (form_escape special d).ne_nil
  | cons c text ih =>
    cases text' with
    | nil =>
      have hnil := (List.append_eq_nil_iff.1 h).1
      exact absurd hnil (form_escape special c).ne_nil
    | cons d text' =>
      obtain ⟨hhead, htail⟩ := (form_escape special c).append_inj (form_escape special d) h
      rw [hhead, ih htail]

theorem encode_append (special : Char → Bool) (text rest : List Char) :
    encode special text ++ rest = '"' :: (text.flatMap (escape special) ++ '"' :: rest) := by
  simp [encode]

/-- A quoted text and what follows it can be told apart. -/
theorem encode_append_inj {text text' : List Char}
    (h : encode special text ++ s = encode special text' ++ t) : text = text' ∧ s = t := by
  rw [encode_append, encode_append] at h
  have hquote := congrArg atQuote? (List.cons.inj h).2
  rw [atQuote?_flatMap_escape, atQuote?_flatMap_escape] at hquote
  obtain ⟨hinside, hbehind⟩ := Prod.mk.inj (Option.some.inj hquote)
  exact ⟨flatMap_escape_injective special hinside, hbehind⟩

theorem not_isControl_of_mem_codePoint (h : d ∈ codePoint c) : ¬ IsControl d := by
  have hopen : ∀ d ∈ ['\\', 'u', '\x7b'], ¬ IsControl d := by simp [IsControl]
  have hdigit : ∀ digit, ¬ IsControl (hexDigit digit) := by decide
  have hclose : ∀ d ∈ ['\x7d'], ¬ IsControl d := by simp [IsControl]
  rw [codePoint, List.mem_append, List.mem_append] at h
  rcases h with (hfront | hmiddle) | hback
  · exact hopen d hfront
  · obtain ⟨digit, hd⟩ := exists_hexDigit_eq_of_mem hmiddle
    rw [← hd]
    exact hdigit digit
  · exact hclose d hback

theorem Form.not_isControl (hspecial : ∀ c, IsControl c → special c = true)
    (h : Form special c written) (hd : d ∈ written) : ¬ IsControl d := by
  cases h with
  | letter hl =>
    have hall : ∀ p ∈ letters, ∀ d ∈ ['\\', p.2], ¬ IsControl d := by simp [letters, IsControl]
    exact hall _ hl d hd
  | codePoint _ => exact not_isControl_of_mem_codePoint hd
  | plain _ _ hplain =>
    rw [List.mem_singleton.1 hd]
    intro hcontrol
    exact absurd (hspecial c hcontrol) (by simp [hplain])

/-- No control character is written if all of them are special. -/
theorem not_isControl_of_mem_encode (hspecial : ∀ c, IsControl c → special c = true)
    {text : List Char} (h : d ∈ encode special text) : ¬ IsControl d := by
  have hquote : ¬ IsControl '"' := by decide
  rw [encode, List.mem_append, List.mem_cons, List.mem_singleton, List.mem_flatMap] at h
  rcases h with (hopen | ⟨c, -, hinside⟩) | hclose
  · rwa [hopen]
  · exact (form_escape special c).not_isControl hspecial hinside
  · rwa [hclose]

end Quoted

theorem quoteWith_injective (special : Char → Bool) : Function.Injective (quoteWith special) := by
  intro text text' h
  have hencode := String.ofList_injective h
  have hsame := Quoted.encode_append_inj (congrArg (· ++ []) hencode)
  exact String.toList_inj.1 hsame.1

end TickTree.Text
