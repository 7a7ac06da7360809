import Mathlib
import TickTree.Proofs.Config.FirstError
import TickTree.Proofs.Text.Quoted

/-!
# The texts of refused configurations

The text of an error has four parts: the name of a variable, a space, some fixed words and what the
error shows of the value. No name has a space in it, and no words are the beginning of others, so
that the text falls apart in one way only. What is shown is a number or the quoted value itself, and
both can be read back. So two errors with the same text are the same.

As the value is quoted, the text is a single line and ends with the quotation, whatever the value
has in it.

## Main definitions

* `Complaint`: what is wrong with a value, and the words for it
* `Setting.Refusal`: the errors about a variable, with the parts of their texts
* `Text.OneLine`: a text without line breaks and other controls

## Main results

* `Setting.Refusal.messageWith_eq`: the text of an error and its parts
* `Setting.Refusal.eq_of_messageWith_eq`: an error is known by its text
* `Setting.Refusal.oneLine_messageWith`: the text of an error is on one line
* `messages_are_unambiguous`: what this says about the configurations that are refused
-/

namespace TickTree

/-- What is wrong with the value of a variable. -/
inductive Complaint
  | number
  | doorCount
  | chance
  deriving DecidableEq

/-- The words between the name of a variable and what is shown of its value. -/
def Complaint.words : Complaint → String
  | number => "is not a valid unsigned number: "
  | doorCount => "must be between 1 and 10000, got "
  | chance => "must be a percentage between 0 and 100, got "

/-- The errors about a variable. Each has its words, and shows the value or the number in it. -/
inductive Setting.Refusal (special : Char → Bool) :
    Setting → Complaint → String → EntryError → Prop
  | number (setting : Setting) (raw : String) :
    Refusal special setting .number (Text.quoteWith special raw) (.invalidValue setting.key raw)
  | doorCount (n : Nat) :
    Refusal special .doorCount .doorCount (toString n) (.invalidDoorCount n 10000)
  | chance (kind : ActionKind) (n : Nat) :
    Refusal special (.chance kind) .chance (toString n) (.invalidChance (Setting.chance kind).key n)

/-- A configuration is refused with an error about one of its variables. -/
theorem Config.exists_refusal {lookup : String → Option String} {error : EntryError}
    (h : read lookup = .error error) (special : Char → Bool) :
    ∃ setting complaint shown, Setting.Refusal special setting complaint shown error := by
  obtain ⟨before, setting, raw, -, -, hreports⟩ := read_eq_error_iff.1 h
  by_cases hnumber : ∃ n, setting.Understands raw n
  · obtain ⟨n, hn⟩ := hnumber
    rcases hreports.number n hn with ⟨rfl, rfl⟩ | ⟨kind, rfl, rfl⟩
    · exact ⟨_, _, _, .doorCount n⟩
    · exact ⟨_, _, _, .chance kind n⟩
  · rw [hreports.value_iff.2 (not_exists.1 hnumber)]
    exact ⟨_, _, _, .number setting raw⟩

/-! ### The parts of a text -/

theorem Setting.space_notMem_key (setting : Setting) : ' ' ∉ setting.key.toList := by
  have hall : ∀ setting ∈ all, ' ' ∉ setting.key.toList := by decide
  exact hall setting setting.mem_all

/-- No words are the beginning of others, so they can be told apart from what follows. -/
theorem Complaint.words_append_inj {complaint complaint' : Complaint} {shown shown' : String}
    (h : complaint.words ++ shown = complaint'.words ++ shown') :
    complaint = complaint' ∧ shown = shown' := by
  -- The first ten characters tell the words apart.
  have hlength (complaint : Complaint) : 10 ≤ complaint.words.toList.length := by
    cases complaint <;> decide
  have hstart : complaint.words.toList.take 10 = complaint'.words.toList.take 10 := by
    have hsame := congrArg (fun text : String => text.toList.take 10) h
    simpa only [String.toList_append, List.take_append_of_le_length (hlength _)] using hsame
  have hcomplaint : complaint = complaint' := by
    revert hstart
    cases complaint <;> cases complaint' <;> decide
  rw [hcomplaint] at h
  exact ⟨hcomplaint, (String.append_right_inj _).1 h⟩

namespace Setting.Refusal

variable {special : Char → Bool} {setting setting' : Setting} {complaint complaint' : Complaint}
  {shown shown' : String} {error error' : EntryError}

theorem append_spaced {key spaced words : String} (h : spaced = " " ++ words) (shown : String) :
    key ++ spaced ++ shown = key ++ (" " ++ (words ++ shown)) := by
  rw [h]
  simp only [String.append_assoc]

/-- The text of an error and its parts. -/
theorem messageWith_eq (h : Refusal special setting complaint shown error) :
    error.messageWith special = setting.key ++ (" " ++ (complaint.words ++ shown)) := by
  cases h with
  | number raw => exact append_spaced (by decide) _
  | doorCount n =>
    have hfront : "DOOR_COUNT must be between 1 and " ++ toString 10000 ++ ", got " =
        Setting.doorCount.key ++ " must be between 1 and 10000, got " := by decide
    calc (EntryError.invalidDoorCount n 10000).messageWith special
      _ = Setting.doorCount.key ++ " must be between 1 and 10000, got " ++ toString n :=
        congrArg (· ++ toString n) hfront
      _ = _ := append_spaced (by decide) _
  | chance kind n => exact append_spaced (by decide) _

/-- What is shown tells the number or the value. -/
theorem eq_of_shown_eq (h : Refusal special setting complaint shown error)
    (h' : Refusal special setting complaint shown error') : error = error' := by
  generalize hshown : shown = shown' at h'
  cases h with
  | number setting raw =>
    cases h' with
    | number _ raw' => rw [Text.quoteWith_injective special hshown]
  | doorCount n =>
    cases h' with
    | doorCount n' => rw [Nat.repr_injective hshown]
  | chance kind n =>
    cases h' with
    | chance _ n' => rw [Nat.repr_injective hshown]

/-- An error is known by its text. -/
theorem eq_of_messageWith_eq (h : Refusal special setting complaint shown error)
    (h' : Refusal special setting' complaint' shown' error')
    (heq : error.messageWith special = error'.messageWith special) : error = error' := by
  -- The name ends at the first space, and the words where no others go on.
  have hspace : " ".toList = [' '] := by decide
  rw [h.messageWith_eq, h'.messageWith_eq, ← String.toList_inj] at heq
  simp only [String.toList_append, hspace, List.singleton_append] at heq
  obtain ⟨hkey, hbehind⟩ :=
    Text.Quoted.append_cons_inj setting.space_notMem_key setting'.space_notMem_key heq
  simp only [← String.toList_append, String.toList_inj] at hkey hbehind
  obtain ⟨hcomplaint, hshown⟩ := Complaint.words_append_inj hbehind
  obtain rfl := key_injective hkey
  obtain rfl := hcomplaint
  obtain rfl := hshown
  exact h.eq_of_shown_eq h'

end Setting.Refusal

/-! ### One line -/

/-- A text on one line: it has no line break and no other control character. -/
def Text.OneLine (text : String) : Prop := ∀ c ∈ text.toList, ¬ IsControl c

instance (text : String) : Decidable (Text.OneLine text) :=
  decidable_of_iff (text.toList.all fun c => ¬ Text.IsControl c) (by simp [Text.OneLine])

theorem Text.OneLine.append {s t : String} (h : OneLine s) (h' : OneLine t) : OneLine (s ++ t) := by
  intro c hc
  rw [String.toList_append, List.mem_append] at hc
  rcases hc with hfront | hback
  · exact h c hfront
  · exact h' c hback

/-- A number is written in digits. -/
theorem Text.oneLine_toString (n : Nat) : OneLine (toString n) := by
  intro c hc
  have hmem : c ∈ Nat.toDigits 10 n := Nat.toList_repr ▸ hc
  have ⟨hlow, hhigh⟩ :=
    Char.isDigit_iff_toNat.1 (Nat.isDigit_of_mem_toDigits (by decide) (by decide) hmem)
  have hzero : '0'.toNat = 48 := rfl
  have hnine : '9'.toNat = 57 := rfl
  unfold IsControl
  omega

section

variable {special : Char → Bool} (hspecial : ∀ c, Text.IsControl c → special c = true)

include hspecial

/-- A quoted text is on one line, whatever the text has in it. -/
theorem Text.oneLine_quoteWith (text : String) : OneLine (quoteWith special text) := by
  intro c hc
  rw [quoteWith, String.toList_ofList] at hc
  exact Quoted.not_isControl_of_mem_encode hspecial hc

/-- The text of an error is on one line. -/
theorem Setting.Refusal.oneLine_messageWith {setting : Setting} {complaint : Complaint}
    {shown : String} {error : EntryError} (h : Refusal special setting complaint shown error) :
    Text.OneLine (error.messageWith special) := by
  have hkey : ∀ setting ∈ all, Text.OneLine setting.key := by decide
  have hspace : Text.OneLine " " := by decide
  have hwords : Text.OneLine complaint.words := by
    clear h
    cases complaint <;> decide
  have hshown : Text.OneLine shown := by
    cases h with
    | number _ raw => exact Text.oneLine_quoteWith hspecial raw
    | doorCount n => exact Text.oneLine_toString n
    | chance _ n => exact Text.oneLine_toString n
  rw [h.messageWith_eq]
  exact (hkey setting setting.mem_all).append (hspace.append (hwords.append hshown))

end

/-- A configuration that is refused says why in a text without line breaks and other controls, and
the text tells the error: which variable, and which number or value, character by character. A value
that is shown stands in quotes. Of the quotes behind the one that opens it, the first that no
backslash marks is the last character of the text. Which characters are written as code points makes
no difference, as long as all controls are. -/
theorem messages_are_unambiguous (special : Char → Bool)
    (hspecial : ∀ c, Text.IsControl c → special c = true) :
    (∀ (lookup lookup' : String → Option String) (error error' : EntryError),
      Config.read lookup = .error error → Config.read lookup' = .error error' →
        error.messageWith special = error'.messageWith special → error = error') ∧
    (∀ (lookup : String → Option String) (error : EntryError), Config.read lookup = .error error →
      Text.OneLine (error.messageWith special)) ∧
    ∀ key raw : String, ∃ inside : List Char,
      ((EntryError.invalidValue key raw).messageWith special).toList =
        key.toList ++ " is not a valid unsigned number: ".toList ++ '"' :: (inside ++ ['"']) ∧
      Text.Quoted.atQuote? (inside ++ ['"']) = some (inside, []) := by
  refine ⟨?_, ?_, ?_⟩
  · intro lookup lookup' error error' hread hread' heq
    obtain ⟨_, _, _, hrefusal⟩ := Config.exists_refusal hread special
    obtain ⟨_, _, _, hrefusal'⟩ := Config.exists_refusal hread' special
    exact hrefusal.eq_of_messageWith_eq hrefusal' heq
  · intro lookup error hread
    obtain ⟨_, _, _, hrefusal⟩ := Config.exists_refusal hread special
    exact hrefusal.oneLine_messageWith hspecial
  · intro key raw
    refine ⟨raw.toList.flatMap (Text.Quoted.escape special), ?_, ?_⟩
    · have htext : (EntryError.invalidValue key raw).messageWith special =
          key ++ " is not a valid unsigned number: " ++ Text.quoteWith special raw := rfl
      have hquoted : (Text.quoteWith special raw).toList =
          '"' :: (raw.toList.flatMap (Text.Quoted.escape special) ++ ['"']) := by
        rw [Text.quoteWith, String.toList_ofList, Text.Quoted.encode, List.cons_append]
      rw [htext, String.toList_append, String.toList_append, hquoted]
    · exact Text.Quoted.atQuote?_flatMap_escape special raw.toList []

/-- A quote and a line break are a value that is refused, and so is this value as it is shown. The
two texts differ. -/
theorem messages_are_unambiguous_marked :
    Config.read (fun key => [("BT_SEED", "\"\n")].lookup key) =
      .error (.invalidValue "BT_SEED" "\"\n") ∧
    Config.read (fun key => [("BT_SEED", "\\\"\\n")].lookup key) =
      .error (.invalidValue "BT_SEED" "\\\"\\n") ∧
    (EntryError.invalidValue "BT_SEED" "\"\n").message ≠
      (EntryError.invalidValue "BT_SEED" "\\\"\\n").message ∧
    Text.OneLine (EntryError.invalidValue "BT_SEED" "\"\n").message := by
  have hread : Config.read (fun key => [("BT_SEED", "\"\n")].lookup key) =
      .error (.invalidValue "BT_SEED" "\"\n") := by decide +kernel
  have hread' : Config.read (fun key => [("BT_SEED", "\\\"\\n")].lookup key) =
      .error (.invalidValue "BT_SEED" "\\\"\\n") := by decide +kernel
  obtain ⟨hinjective, hline, -⟩ :=
    messages_are_unambiguous Text.isSpecial fun _ => Text.isSpecial_of_isControl
  refine ⟨hread, hread', ?_, hline _ _ hread⟩
  intro heq
  exact absurd (hinjective _ _ _ _ hread hread' heq) (by decide)

end TickTree
