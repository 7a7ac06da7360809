import TickTree.Config.EntryError
import TickTree.Config.Numeral
import TickTree.Doors.ActionKind
import TickTree.Text.Blank

/-!
# Settings

A visit is configured by eight variables, each a number with a width and a range of its own. A
variable that is not set has no value. A value may have blanks around it.

## Main definitions

* `Setting`: the variables
* `Setting.read`: the number that a variable holds
-/

namespace TickTree

/-- The variables that configure a visit. -/
inductive Setting
  | doorCount
  | seed
  | chance (kind : ActionKind)
  deriving DecidableEq, Repr

namespace Setting

/-- The greatest number of doors. -/
def maxDoorCount : Nat := 10000

/-- The name of a variable. -/
def key : Setting → String
  | doorCount => "DOOR_COUNT"
  | seed => "BT_SEED"
  | chance .walkTo => "DOOR_CHANCE_WALK_TO"
  | chance .opening => "DOOR_CHANCE_OPEN"
  | chance .unlocking => "DOOR_CHANCE_UNLOCK"
  | chance .smashing => "DOOR_CHANCE_SMASH"
  | chance .walkThrough => "DOOR_CHANCE_WALK_THROUGH"
  | chance .closing => "DOOR_CHANCE_CLOSE"

/-- The variables in the order in which they are read. -/
def all : List Setting := [doorCount, seed] ++ ActionKind.all.map chance

theorem mem_all (setting : Setting) : setting ∈ all := by
  cases setting with
  | doorCount => decide
  | seed => decide
  | chance kind => exact List.mem_append_right _ (List.mem_map_of_mem kind.mem_all)

/-- The least number that does not fit the width of a variable. -/
def capacity : Setting → Nat
  | doorCount => UInt64.size
  | seed => UInt64.size
  | chance _ => UInt32.size

/-- Why a number is out of the range of a variable, if it is. -/
def outOfRange? (setting : Setting) (value : Nat) : Option EntryError :=
  match setting with
  | doorCount =>
    if value = 0 ∨ maxDoorCount < value then some (.invalidDoorCount value maxDoorCount) else none
  | seed => none
  | chance _ => if 100 < value then some (.invalidChance setting.key value) else none

/-- The number that a text stands for: a numeral between blanks that fits the width of the
variable. -/
def parse? (setting : Setting) (raw : String) : Option Nat :=
  (Numeral.read? (Text.trim raw.toList)).filter fun value => value < setting.capacity

/-- The number that a variable holds, if it is set. -/
def read (setting : Setting) (lookup : String → Option String) :
    Except EntryError (Option Nat) :=
  match lookup setting.key with
  | none => .ok none
  | some raw =>
    match setting.parse? raw with
    | none => .error (.invalidValue setting.key raw)
    | some value =>
      match setting.outOfRange? value with
      | some error => .error error
      | none => .ok (some value)

end Setting

end TickTree
