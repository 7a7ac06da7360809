import TickTree.Proofs.Config.Language

/-!
# The first bad variable

Of the variables that configure a visit, several may be bad, but only one error is reported. The
variables are read in a fixed order, and the first bad one decides: the error names it and shows its
value as it stands, or the number that the value stands for if this is merely out of range. What the
variables after it hold makes no difference, and nothing but the eight variables is ever looked at.

## Main definitions

* `Setting.Bad`: a variable that is set, but to nothing that it may hold
* `Setting.FirstBad`: the first bad variable, with those that are read before it
* `Setting.Understands`: the number that a text stands for, if the variable has room for it
* `Setting.Reports`: the error about a value

## Main results

* `Setting.read_eq_error_iff`: a bad variable is refused with the error about its value
* `Config.read_eq_error_iff_findSome?`: the error of a configuration is the first of its variables
* `first_bad_variable_is_reported`: which error is reported, and what it depends on
-/

namespace TickTree

theorem Except.bind_eq_error_iff {ε α β : Type} {x : Except ε α} {f : α → Except ε β} {e : ε} :
    (x >>= f) = .error e ↔ x = .error e ∨ ∃ a, x = .ok a ∧ f a = .error e := by
  cases x <;> simp [bind, Except.bind]

namespace Setting

/-! ### The error about one variable -/

section

variable (setting : Setting) (lookup : String → Option String)

/-- A variable is bad if it is set, but not to a numeral for a number in its range. -/
def Bad : Prop := ∀ value, ¬ setting.Holds lookup value

/-- A text stands for a number: it is a numeral between blanks, and the number fits the width of the
variable. -/
def Understands (raw : String) (n : Nat) : Prop :=
  (∃ numeral, Text.Padded numeral raw.toList ∧ Numeral.Writes numeral n) ∧ n < setting.capacity

/-- The error about the value of a variable. It shows the value itself if this does not stand for a
number, and otherwise the number, which is out of range. -/
structure Reports (raw : String) (error : EntryError) : Prop where
  value_iff : error = .invalidValue setting.key raw ↔ ∀ n, ¬ setting.Understands raw n
  number : ∀ n, setting.Understands raw n →
    (setting = doorCount ∧ error = .invalidDoorCount n 10000) ∨
      ∃ kind, setting = chance kind ∧ error = .invalidChance setting.key n

end

variable {setting : Setting} {lookup lookup' : String → Option String} {raw : String}
  {error error' : EntryError} {n : Nat}

/-- There is one error about a value. -/
theorem Reports.unique (h : setting.Reports raw error) (h' : setting.Reports raw error') :
    error = error' := by
  by_cases hnumber : ∃ n, setting.Understands raw n
  · obtain ⟨n, hn⟩ := hnumber
    rcases h.number n hn with ⟨hdoor, herror⟩ | ⟨kind, hkind, herror⟩
    · rcases h'.number n hn with ⟨-, herror'⟩ | ⟨kind', hkind', -⟩
      · rw [herror, herror']
      · exact nomatch hdoor.symm.trans hkind'
    · rcases h'.number n hn with ⟨hdoor', -⟩ | ⟨-, -, herror'⟩
      · exact nomatch hkind.symm.trans hdoor'
      · rw [herror, herror']
  · have hnone : ∀ n, ¬ setting.Understands raw n := not_exists.1 hnumber
    rw [h.value_iff.2 hnone, h'.value_iff.2 hnone]

/-- A number that is out of range is what the error about it shows. -/
theorem eq_of_outOfRange?_eq_some (h : setting.outOfRange? n = some error) :
    (setting = doorCount ∧ error = .invalidDoorCount n 10000) ∨
      ∃ kind, setting = chance kind ∧ error = .invalidChance setting.key n := by
  cases setting with
  | doorCount =>
    obtain ⟨-, herror⟩ := Option.ite_none_right_eq_some.1 h
    exact .inl ⟨rfl, (Option.some.inj herror).symm⟩
  | seed => exact nomatch h
  | chance kind =>
    obtain ⟨-, herror⟩ := Option.ite_none_right_eq_some.1 h
    exact .inr ⟨kind, rfl, (Option.some.inj herror).symm⟩

theorem reports_of_parse?_eq_none (h : setting.parse? raw = none) :
    setting.Reports raw (.invalidValue setting.key raw) := by
  have hnone : ∀ n, ¬ setting.Understands raw n := by
    intro n hn
    rw [setting.parse?_eq_some_iff.2 hn] at h
    exact nomatch h
  exact ⟨⟨fun _ => hnone, fun _ => rfl⟩, fun n hn => absurd hn (hnone n)⟩

theorem reports_of_outOfRange? (hparse : setting.parse? raw = some n)
    (hrange : setting.outOfRange? n = some error) : setting.Reports raw error := by
  have hnumber := eq_of_outOfRange?_eq_some hrange
  constructor
  · -- The error about a number is no error about a value.
    constructor
    · intro hvalue
      rcases hnumber with ⟨-, herror⟩ | ⟨_, -, herror⟩
      · exact nomatch herror.symm.trans hvalue
      · exact nomatch herror.symm.trans hvalue
    · intro hnone
      exact absurd (setting.parse?_eq_some_iff.1 hparse) (hnone n)
  · intro m hm
    have hsame := hparse.symm.trans (setting.parse?_eq_some_iff.2 hm)
    rwa [Option.some.inj hsame] at hnumber

/-- Whatever is refused is refused with the error about the value. -/
theorem reports_of_read_eq_error (h : setting.read lookup = .error error) :
    ∃ raw, lookup setting.key = some raw ∧ setting.Reports raw error := by
  rw [read] at h
  cases hlookup : lookup setting.key with
  | none => simp [hlookup] at h
  | some raw =>
    refine ⟨raw, rfl, ?_⟩
    rw [hlookup] at h
    cases hparse : setting.parse? raw with
    | none =>
      simp only [hparse, Except.error.injEq] at h
      rw [← h]
      exact reports_of_parse?_eq_none hparse
    | some n =>
      cases hrange : setting.outOfRange? n with
      | none => simp [hparse, hrange] at h
      | some refusal =>
        simp only [hparse, hrange, Except.error.injEq] at h
        rw [← h]
        exact reports_of_outOfRange? hparse hrange

theorem bad_iff : setting.Bad lookup ↔ ∃ error, setting.read lookup = .error error := by
  simp only [Bad, ← read_eq_ok_iff]
  cases setting.read lookup <;> simp

/-- A variable is refused exactly if it is bad, and with the error about its value. -/
theorem read_eq_error_iff : setting.read lookup = .error error ↔
    setting.Bad lookup ∧ ∃ raw, lookup setting.key = some raw ∧ setting.Reports raw error := by
  constructor
  · intro h
    exact ⟨bad_iff.2 ⟨error, h⟩, reports_of_read_eq_error h⟩
  · intro ⟨hbad, raw, hraw, hreports⟩
    obtain ⟨refusal, hread⟩ := bad_iff.1 hbad
    obtain ⟨raw', hraw', hreports'⟩ := reports_of_read_eq_error hread
    obtain rfl := Option.some.inj (hraw.symm.trans hraw')
    rw [hread, hreports.unique hreports']

/-- Only its own value decides how a variable is read. -/
theorem read_congr (h : lookup' setting.key = lookup setting.key) :
    setting.read lookup' = setting.read lookup := by
  rw [read, read, h]

/-! ### The first of the errors -/

/-- The error with which a variable is refused, if it is. -/
def refusal? (lookup : String → Option String) (setting : Setting) : Option EntryError :=
  match setting.read lookup with
  | .ok _ => none
  | .error error => some error

theorem refusal?_eq_some_iff :
    setting.refusal? lookup = some error ↔ setting.read lookup = .error error := by
  rw [refusal?]
  cases setting.read lookup <;> simp

theorem refusal?_eq_none_iff : setting.refusal? lookup = none ↔ ¬ setting.Bad lookup := by
  rw [refusal?, bad_iff]
  cases setting.read lookup <;> simp

/-- If what follows a variable reports the first error of some others, then together they report
the first error of all. -/
theorem read_bind_eq_error_iff {α : Type} {next : Option Nat → Except EntryError α}
    {rest : List Setting}
    (h : ∀ value, next value = .error error ↔ rest.findSome? (refusal? lookup) = some error) :
    (setting.read lookup >>= next) = .error error ↔
      (setting :: rest).findSome? (refusal? lookup) = some error := by
  rw [Except.bind_eq_error_iff, List.findSome?_cons, refusal?]
  cases setting.read lookup with
  | error refusal => simp
  | ok value => simp [h]

/-- The first bad variable, with all variables that are read before it. -/
structure FirstBad (setting : Setting) (lookup : String → Option String)
    (before : List Setting) : Prop where
  order : before ++ [setting] <+: all
  before : ∀ earlier ∈ before, ¬ earlier.Bad lookup
  bad : setting.Bad lookup

/-- The first bad variable is known when it has been read. -/
theorem FirstBad.congr {before : List Setting} (h : setting.FirstBad lookup before)
    (hsame : ∀ other ∈ before ++ [setting], lookup' other.key = lookup other.key) :
    setting.FirstBad lookup' before := by
  have hbad : ∀ other ∈ before ++ [setting], other.Bad lookup' ↔ other.Bad lookup := by
    intro other hother
    rw [bad_iff, bad_iff, read_congr (hsame other hother)]
  constructor
  · exact h.order
  · intro earlier hearlier
    rw [hbad earlier (List.mem_append_left _ hearlier)]
    exact h.before earlier hearlier
  · rw [hbad setting (List.mem_append_right _ (List.mem_singleton.2 rfl))]
    exact h.bad

end Setting

/-! ### The error of a configuration -/

namespace Config

variable {lookup lookup' : String → Option String} {error : EntryError}

/-- Reading a configuration is reading the variables in order up to the first error. -/
theorem read_eq_error_iff_findSome? : read lookup = .error error ↔
    Setting.all.findSome? (Setting.refusal? lookup) = some error := by
  simp only [read, readChance, bind_assoc, pure_bind]
  -- One step for each variable.
  iterate 8 refine Setting.read_bind_eq_error_iff fun _ => ?_
  simp [pure, Except.pure]

/-- A configuration is refused exactly if there is a first bad variable, and with the error about
the value of this variable. -/
theorem read_eq_error_iff : read lookup = .error error ↔ ∃ (before : List Setting)
    (setting : Setting) (raw : String), setting.FirstBad lookup before ∧
      lookup setting.key = some raw ∧ setting.Reports raw error := by
  rw [read_eq_error_iff_findSome?, List.findSome?_eq_some_iff]
  simp only [Setting.refusal?_eq_some_iff, Setting.refusal?_eq_none_iff, Setting.read_eq_error_iff]
  constructor
  · intro ⟨before, setting, after, hall, ⟨hbad, raw, hraw, hreports⟩, hbefore⟩
    have horder : before ++ [setting] <+: Setting.all := ⟨after, by simp [hall]⟩
    exact ⟨before, setting, raw, ⟨horder, hbefore, hbad⟩, hraw, hreports⟩
  · intro ⟨before, setting, raw, ⟨⟨after, hall⟩, hbefore, hbad⟩, hraw, hreports⟩
    rw [List.append_assoc, List.singleton_append] at hall
    exact ⟨before, setting, after, hall.symm, ⟨hbad, raw, hraw, hreports⟩, hbefore⟩

/-- What is refused of a configuration is the first bad variable. -/
theorem read_eq_error_iff_of_firstBad {before : List Setting} {setting : Setting}
    (h : setting.FirstBad lookup before) :
    read lookup = .error error ↔ setting.read lookup = .error error := by
  obtain ⟨refusal, hrefusal⟩ := Setting.bad_iff.1 h.bad
  obtain ⟨raw, hraw, hreports⟩ := Setting.reports_of_read_eq_error hrefusal
  have hread : read lookup = .error refusal :=
    read_eq_error_iff.2 ⟨before, setting, raw, h, hraw, hreports⟩
  rw [hread, hrefusal, Except.error.injEq, Except.error.injEq]

/-- A configuration depends on its eight variables only. -/
theorem read_congr (h : ∀ setting : Setting, lookup' setting.key = lookup setting.key) :
    read lookup' = read lookup := by
  simp only [read, readChance, Setting.read_congr (h _)]

end Config

/-- The first bad variable is reported. The variables are read in the order in which they are
listed here, and a configuration is refused exactly if one of them is bad. The error is about the
value of the first that is: it names the variable and has the value as it stands if this is no
numeral between blanks for a number that fits the width of the variable, and otherwise it has the
number. Variables with the same values up to this one give the same error, and if all eight have the
same values, then the whole result is the same. -/
theorem first_bad_variable_is_reported (lookup : String → Option String) :
    Setting.all.map Setting.key =
      ["DOOR_COUNT", "BT_SEED", "DOOR_CHANCE_WALK_TO", "DOOR_CHANCE_OPEN", "DOOR_CHANCE_UNLOCK",
        "DOOR_CHANCE_SMASH", "DOOR_CHANCE_WALK_THROUGH", "DOOR_CHANCE_CLOSE"] ∧
    (∀ error, Config.read lookup = .error error ↔ ∃ (before : List Setting) (setting : Setting)
      (raw : String), setting.FirstBad lookup before ∧ lookup setting.key = some raw ∧
        setting.Reports raw error) ∧
    (∀ (before : List Setting) (setting : Setting) error, setting.FirstBad lookup before →
      Config.read lookup = .error error → ∀ lookup' : String → Option String,
        (∀ other ∈ before ++ [setting], lookup' other.key = lookup other.key) →
          Config.read lookup' = .error error) ∧
    ∀ lookup' : String → Option String,
      (∀ setting : Setting, lookup' setting.key = lookup setting.key) →
        Config.read lookup' = Config.read lookup := by
  refine ⟨by decide, fun error => Config.read_eq_error_iff, ?_, fun lookup' => Config.read_congr⟩
  intro before setting error hfirst hread lookup' hsame
  have hsetting : lookup' setting.key = lookup setting.key :=
    hsame setting (List.mem_append_right _ (List.mem_singleton.2 rfl))
  rw [Config.read_eq_error_iff_of_firstBad (hfirst.congr hsame), Setting.read_congr hsetting]
  exact (Config.read_eq_error_iff_of_firstBad hfirst).1 hread

/-- The third variable is the first bad one. Its value is a numeral, but out of range, and it makes
no difference which of the later variables is bad, too. -/
theorem first_bad_variable_is_reported_third :
    let lookup : String → Option String := fun key => [("DOOR_COUNT", " 3 "),
      ("DOOR_CHANCE_WALK_TO", "+0101"), ("DOOR_CHANCE_OPEN", "many")].lookup key
    let lookup' : String → Option String := fun key => [("DOOR_COUNT", " 3 "),
      ("DOOR_CHANCE_WALK_TO", "+0101"), ("DOOR_CHANCE_CLOSE", "-1")].lookup key
    let error := EntryError.invalidChance "DOOR_CHANCE_WALK_TO" 101
    (Setting.chance .walkTo).FirstBad lookup [.doorCount, .seed] ∧
      Config.read lookup = .error error ∧ Config.read lookup' = .error error := by
  intro lookup lookup' error
  have hdoorCount : Setting.doorCount.read lookup = .ok (some 3) := by decide +kernel
  have hseed : Setting.seed.read lookup = .ok none := by decide +kernel
  have hwalkTo : (Setting.chance .walkTo).read lookup = .error error := by decide +kernel
  have hfirst : (Setting.chance .walkTo).FirstBad lookup [.doorCount, .seed] := by
    constructor
    · decide
    · simp [Setting.bad_iff, hdoorCount, hseed]
    · exact Setting.bad_iff.2 ⟨error, hwalkTo⟩
  have hread : Config.read lookup = .error error := by decide +kernel
  obtain ⟨-, -, hlater, -⟩ := first_bad_variable_is_reported lookup
  exact ⟨hfirst, hread, hlater _ _ _ hfirst hread lookup' (by decide)⟩

end TickTree
