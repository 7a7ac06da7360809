import TickTree.Config.Setting

/-!
# The configuration of a visit

A visit is configured by the number of doors, the seed of the random source and the percentages of
the actions. Whatever no variable sets has a standard value.

## Main definitions

* `Config`: the number of doors, the seed and the percentages of the actions
* `Config.standard`, `standardChances`: the configuration without any variable
* `Config.read`: the configuration that the variables ask for, or the first error among them
-/

namespace TickTree

/-- The percentages of the actions when no variable sets them. -/
def standardChances : ByAction Nat := ⟨99, 15, 25, 60, 60, 100⟩

/-- The configuration of a visit. -/
structure Config where
  doorCount : Nat
  /-- The seed of the random source, which is left alone without one. -/
  seed : Option UInt64
  /-- How likely each action is to succeed, in percent. -/
  chances : ByAction Nat
  deriving DecidableEq, Repr

namespace Config

/-- The configuration without any variable. -/
def standard : Config := ⟨5, none, standardChances⟩

/-- The percentage of an action: that of its variable, or the standard one. -/
def readChance (lookup : String → Option String) (kind : ActionKind) : Except EntryError Nat := do
  return (← (Setting.chance kind).read lookup).getD (standardChances.get kind)

/-- The configuration that the variables ask for. They are read in order, and the first that holds
no valid number decides the error. -/
def read (lookup : String → Option String) : Except EntryError Config := do
  let doorCount ← Setting.doorCount.read lookup
  let seed ← Setting.seed.read lookup
  let walkTo ← readChance lookup .walkTo
  let opening ← readChance lookup .opening
  let unlocking ← readChance lookup .unlocking
  let smashing ← readChance lookup .smashing
  let walkThrough ← readChance lookup .walkThrough
  let closing ← readChance lookup .closing
  return {
    doorCount := doorCount.getD standard.doorCount
    seed := seed.map UInt64.ofNat
    chances := ⟨walkTo, opening, unlocking, smashing, walkThrough, closing⟩ }

/-- A configuration in one line, as it is reported. -/
def describe (config : Config) : String :=
  let seed := match config.seed with
    | none => "None"
    | some seed => "Some(" ++ toString seed.toNat ++ ")"
  let chances := config.chances
  "ScenarioConfig \x7b door_count: " ++ toString config.doorCount ++
    ", seed: " ++ seed ++
    ", chances: ChanceConfig \x7b walk_to: " ++ toString chances.walkTo ++
    ", open: " ++ toString chances.opening ++
    ", unlock: " ++ toString chances.unlocking ++
    ", smash: " ++ toString chances.smashing ++
    ", walk_through: " ++ toString chances.walkThrough ++
    ", close: " ++ toString chances.closing ++ " \x7d \x7d"

end Config

end TickTree
