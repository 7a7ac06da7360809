import TickTree.Status

/-!
# Faults of an evaluation

A node that merely fails reports a verdict. A fault says that the tree is wired wrongly or was
stopped: the evaluation ends there and the fault travels up to whoever started it.

## Main definitions

* `Fault`: the causes, each with the names of the node and the slot it concerns
* `Fault.message`: the text of a fault
* `Verdict`: a status, or the fault that ended the evaluation
-/

namespace TickTree

/-- Why an evaluation ended without a status. -/
inductive Fault
  /-- A decorator was evaluated before a child was bound to it. -/
  | missingChild (node : String)
  /-- A leaf needed the value of a slot that holds none. -/
  | unsetSlot (node slot : String)
  /-- An unbounded loop saw that its token was cancelled. -/
  | cancelled (node : String)
  deriving DecidableEq, Repr

/-- The text of a fault. -/
def Fault.message : Fault → String
  | missingChild node => node ++ " has no child bound"
  | unsetSlot node slot => node ++ " read unset blackboard slot `" ++ slot ++ "`"
  | cancelled node => node ++ " was cancelled"

/-- What an evaluation returns: a status, or the fault that ended it. -/
abbrev Verdict := Except Fault Status

end TickTree
