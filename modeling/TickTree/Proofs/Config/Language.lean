import Mathlib.Data.List.Nodup
import TickTree.Config.Basic
import TickTree.Proofs.Config.Numeral

/-!
# The language of configurations

A configuration is read from eight variables. Each of them is not set, or it holds a number: a
numeral, with blanks around it or none, for a number in the variable's own range. This is all that
is asked of the variables. If it is so, then the configuration has the number of each variable in
the field of this variable, or the standard value if the variable is not set, and otherwise there is
no configuration. A numeral for a number that is out of range is refused however long it is.

## Main definitions

* `Setting.Allows`: the range of a variable
* `Setting.Holds`: what a variable holds
* `Config.Follows`: a configuration has in its fields what the variables hold

## Main results

* `Setting.read_eq_ok_iff`: a variable is read exactly if it holds something
* `Config.read_eq_ok_iff`: a configuration is read exactly if it follows the variables
* `configurations_are_a_language`: the configurations that are read, those that are refused
-/

namespace TickTree

section

variable {ε α β : Type}

theorem Except.bind_eq_ok_iff {x : Except ε α} {f : α → Except ε β} {b : β} :
    (x >>= f) = .ok b ↔ ∃ a, x = .ok a ∧ f a = .ok b := by
  cases x <;> simp [bind, Except.bind]

theorem Except.pure_eq_ok_iff {a b : α} : (pure a : Except ε α) = .ok b ↔ a = b := by
  simp [pure, Except.pure]

end

/-! ### What a variable holds -/

namespace Setting

/-- A variable is known by its name. -/
theorem key_injective : Function.Injective key := by
  intro setting other h
  have hnames : (all.map key).Nodup := by decide
  exact List.inj_on_of_nodup_map hnames setting.mem_all other.mem_all h

/-- The range of a variable. -/
def Allows : Setting → Nat → Prop
  | doorCount, n => 1 ≤ n ∧ n ≤ 10000
  | seed, n => n < UInt64.size
  | chance _, n => n ≤ 100

/-- What a variable holds: nothing if it is not set, and the number of its numeral otherwise. -/
inductive Holds (setting : Setting) (lookup : String → Option String) : Option Nat → Prop
  | unset : lookup setting.key = none → Holds setting lookup none
  | set {raw : String} {numeral : List Char} {n : Nat} : lookup setting.key = some raw →
      Text.Padded numeral raw.toList → Numeral.Writes numeral n → setting.Allows n →
      Holds setting lookup (some n)

variable (setting : Setting) {lookup : String → Option String} {n : Nat}

/-- The numbers in the range of a variable are those that fit its width and pass its check. -/
theorem allows_iff : setting.Allows n ↔ n < setting.capacity ∧ setting.outOfRange? n = none := by
  have hwide : UInt64.size = 18446744073709551616 := rfl
  have hnarrow : UInt32.size = 4294967296 := rfl
  cases setting with
  | doorCount =>
    have hmax : maxDoorCount = 10000 := rfl
    simp only [Allows, capacity, outOfRange?, ite_eq_right_iff, reduceCtorEq, imp_false]
    omega
  | seed => simp [Allows, capacity, outOfRange?]
  | chance kind =>
    simp only [Allows, capacity, outOfRange?, ite_eq_right_iff, reduceCtorEq, imp_false]
    omega

/-- The number of a text is that of a numeral between blanks that fits the width of the variable. -/
theorem parse?_eq_some_iff {raw : String} : setting.parse? raw = some n ↔
    (∃ numeral, Text.Padded numeral raw.toList ∧ Numeral.Writes numeral n) ∧
      n < setting.capacity := by
  rw [parse?, Option.filter_eq_some_iff, Numeral.read?_trim_eq_some_iff, decide_eq_true_eq]

/-- A variable is read exactly if it holds something, and then this is what is read. -/
theorem read_eq_ok_iff {value : Option Nat} :
    setting.read lookup = .ok value ↔ setting.Holds lookup value := by
  constructor
  · intro h
    rw [read] at h
    cases hlookup : lookup setting.key with
    | none =>
      rw [hlookup] at h
      obtain rfl := Except.ok.inj h
      exact .unset hlookup
    | some raw =>
      rw [hlookup] at h
      cases hparse : setting.parse? raw with
      | none => simp [hparse] at h
      | some n =>
        cases hrange : setting.outOfRange? n with
        | some error => simp [hparse, hrange] at h
        | none =>
          simp only [hparse, hrange, Except.ok.injEq] at h
          obtain ⟨⟨numeral, hpadded, hwrites⟩, hfits⟩ := setting.parse?_eq_some_iff.1 hparse
          rw [← h]
          exact .set hlookup hpadded hwrites (setting.allows_iff.2 ⟨hfits, hrange⟩)
  · intro h
    cases h with
    | unset hlookup => rw [read, hlookup]
    | set hlookup hpadded hwrites hallows =>
      obtain ⟨hfits, hrange⟩ := setting.allows_iff.1 hallows
      have hparse := setting.parse?_eq_some_iff.2 ⟨⟨_, hpadded, hwrites⟩, hfits⟩
      simp only [read, hlookup, hparse, hrange]

/-- A variable whose numeral is out of its range holds nothing. -/
theorem not_holds_of_not_allows {raw : String} {numeral : List Char}
    (hlookup : lookup setting.key = some raw) (hpadded : Text.Padded numeral raw.toList)
    (hwrites : Numeral.Writes numeral n) (hrange : ¬ setting.Allows n) (value : Option Nat) :
    ¬ setting.Holds lookup value := by
  intro h
  cases h with
  | unset hunset =>
    rw [hlookup] at hunset
    exact absurd hunset (by simp)
  | set hlookup' hpadded' hwrites' hallows =>
    -- The text has only one numeral and this only one number.
    obtain rfl := Option.some.inj (hlookup.symm.trans hlookup')
    have hread := Numeral.read?_trim_eq_some_iff.2 ⟨numeral, hpadded, hwrites⟩
    have hread' := Numeral.read?_trim_eq_some_iff.2 ⟨_, hpadded', hwrites'⟩
    obtain rfl := Option.some.inj (hread.symm.trans hread')
    exact hrange hallows

end Setting

/-! ### What a configuration has -/

namespace Config

/-- A configuration has in its fields what the variables hold, and the standard values in those
whose variables are not set. -/
structure Follows (config : Config) (lookup : String → Option String) : Prop where
  doorCount : ∃ value, Setting.doorCount.Holds lookup value ∧
    config.doorCount = value.getD standard.doorCount
  seed : Setting.seed.Holds lookup (config.seed.map UInt64.toNat)
  chances : ∀ kind, ∃ value, (Setting.chance kind).Holds lookup value ∧
    config.chances.get kind = value.getD (standardChances.get kind)

variable {lookup : String → Option String}

theorem readChance_eq_ok_iff {kind : ActionKind} {percent : Nat} :
    readChance lookup kind = .ok percent ↔ ∃ value, (Setting.chance kind).Holds lookup value ∧
      percent = value.getD (standardChances.get kind) := by
  simp only [readChance, Except.bind_eq_ok_iff, Setting.read_eq_ok_iff, Except.pure_eq_ok_iff,
    @eq_comm _ percent]

/-- Seeds fit their width, so that none is changed by it. -/
theorem map_toNat_map_ofNat {value : Option Nat} (h : Setting.seed.Holds lookup value) :
    (value.map UInt64.ofNat).map UInt64.toNat = value := by
  cases h with
  | unset => rfl
  | set _ _ _ hallows => simp [UInt64.toNat_ofNat_of_lt' hallows]

/-- A configuration is read exactly if it follows the variables. -/
theorem read_eq_ok_iff {config : Config} :
    read lookup = .ok config ↔ config.Follows lookup := by
  simp only [read, Except.bind_eq_ok_iff, Except.pure_eq_ok_iff, Setting.read_eq_ok_iff,
    readChance_eq_ok_iff]
  constructor
  · rintro ⟨doorCount, hdoorCount, seed, hseed, walkTo, hwalkTo, opening, hopening, unlocking,
      hunlocking, smashing, hsmashing, walkThrough, hwalkThrough, closing, hclosing, hconfig⟩
    rw [← hconfig]
    constructor
    · exact ⟨doorCount, hdoorCount, rfl⟩
    · rwa [map_toNat_map_ofNat hseed]
    · intro kind
      cases kind with
      | walkTo => exact hwalkTo
      | opening => exact hopening
      | unlocking => exact hunlocking
      | smashing => exact hsmashing
      | walkThrough => exact hwalkThrough
      | closing => exact hclosing
  · intro ⟨⟨value, hdoorCount, hvalue⟩, hseed, hchances⟩
    refine ⟨value, hdoorCount, _, hseed, _, hchances .walkTo, _, hchances .opening, _,
      hchances .unlocking, _, hchances .smashing, _, hchances .walkThrough, _,
      hchances .closing, ?_⟩
    have hsame : (config.seed.map UInt64.toNat).map UInt64.ofNat = config.seed := by
      cases config.seed <;> simp
    rw [← hvalue, hsame]
    rfl

/-- A configuration that follows the variables exists exactly if each of them holds something. -/
theorem exists_follows_iff : (∃ config : Config, config.Follows lookup) ↔
    ∀ setting : Setting, ∃ value, setting.Holds lookup value := by
  constructor
  · intro ⟨config, hdoorCount, hseed, hchances⟩ setting
    cases setting with
    | doorCount =>
      obtain ⟨value, hvalue, _⟩ := hdoorCount
      exact ⟨value, hvalue⟩
    | seed => exact ⟨_, hseed⟩
    | chance kind =>
      obtain ⟨value, hvalue, _⟩ := hchances kind
      exact ⟨value, hvalue⟩
  · intro h
    choose value hvalue using h
    refine ⟨⟨(value .doorCount).getD standard.doorCount, (value .seed).map .ofNat,
      .ofFn fun kind => (value (.chance kind)).getD (standardChances.get kind)⟩, ?_⟩
    constructor
    · exact ⟨_, hvalue .doorCount, rfl⟩
    · rw [map_toNat_map_ofNat (hvalue .seed)]
      exact hvalue .seed
    · intro kind
      exact ⟨_, hvalue (.chance kind), ByAction.get_ofFn _ kind⟩

end Config

/-- The configurations are a language. There are eight variables with names of their own. One
configuration is read if every variable is not set or holds a number of its range, and none if not.
It has the number of each variable, or the standard value, in the field of this variable. If the
numeral of a variable stands for a number that is out of range, however many digits it has, then no
configuration is read. -/
theorem configurations_are_a_language (lookup : String → Option String) :
    Function.Injective Setting.key ∧
    ((∃ config, Config.read lookup = .ok config) ↔
      ∀ setting : Setting, ∃ value, setting.Holds lookup value) ∧
    (∀ config, Config.read lookup = .ok config ↔ config.Follows lookup) ∧
    ∀ (setting : Setting) raw numeral n, lookup setting.key = some raw →
      Text.Padded numeral raw.toList → Numeral.Writes numeral n → ¬ setting.Allows n →
      ∀ config, Config.read lookup ≠ .ok config := by
  refine ⟨Setting.key_injective, ?_, fun config => Config.read_eq_ok_iff, ?_⟩
  · simp only [Config.read_eq_ok_iff, Config.exists_follows_iff]
  · intro setting raw numeral n hlookup hpadded hwrites hrange config hread
    have hfollows := Config.read_eq_ok_iff.1 hread
    obtain ⟨value, hvalue⟩ := Config.exists_follows_iff.1 ⟨config, hfollows⟩ setting
    exact setting.not_holds_of_not_allows hlookup hpadded hwrites hrange value hvalue

end TickTree
