import TickTree.Fault
import TickTree.Text.Quoted

/-!
# Why a visit does not take place

A visit does not take place if its configuration is refused, and it has no outcome if the
evaluation of its tree ends with a fault.

## Main definitions

* `EntryError`: the causes
* `EntryError.messageWith`, `EntryError.message`: the text of an error
* `EntryError.source`: the text of the fault behind it
-/

namespace TickTree

/-- Why a visit has no outcome. -/
inductive EntryError
  /-- A percentage is above one hundred. -/
  | invalidChance (key : String) (value : Nat)
  /-- The number of doors is zero or too large. -/
  | invalidDoorCount (value max : Nat)
  /-- A value is not a numeral, or too large for its variable. -/
  | invalidValue (key value : String)
  /-- The evaluation of the tree ended with a fault. -/
  | aborted (fault : Fault)
  deriving DecidableEq, Repr

namespace EntryError

/-- The text of an error. A value that was not understood is quoted, for a set of special
characters. -/
def messageWith (special : Char → Bool) : EntryError → String
  | invalidChance key value =>
    key ++ " must be a percentage between 0 and 100, got " ++ toString value
  | invalidDoorCount value max =>
    "DOOR_COUNT must be between 1 and " ++ toString max ++ ", got " ++ toString value
  | invalidValue key value =>
    key ++ " is not a valid unsigned number: " ++ Text.quoteWith special value
  | aborted _ => "behavior tree evaluation aborted"

/-- The text of an error, with every character of a quoted value visible. -/
def message (error : EntryError) : String := error.messageWith Text.isSpecial

/-- The text of the fault behind an error, if there is one. -/
def source : EntryError → Option String
  | aborted fault => some fault.message
  | _ => none

end EntryError

end TickTree
