/-!
# Verdicts of a node

A node that has been evaluated reports one of two verdicts. There is no verdict for work in
progress: every evaluation runs to its end before it reports.

## Main definitions

* `Status`: success or failure
* `Status.invert`: the other verdict
* `Status.ofBool`, `Status.toBool`: verdicts as truth values
-/

namespace TickTree

/-- The verdict of a node: its condition holds or its action was carried out, or not. -/
inductive Status
  | success
  | failure
  deriving DecidableEq, Repr

namespace Status

/-- Success is told apart from failure. -/
def isSuccess : Status → Bool
  | success => true
  | failure => false

/-- Failure is told apart from success. -/
def isFailure : Status → Bool
  | success => false
  | failure => true

/-- The other verdict. -/
def invert : Status → Status
  | success => failure
  | failure => success

/-- The verdict of a test: it succeeds exactly when the test holds. -/
def ofBool : Bool → Status
  | true => success
  | false => failure

/-- A verdict as the truth value of "it succeeded". -/
def toBool (s : Status) : Bool := s.isSuccess

/-- The name under which a verdict is reported. -/
def name : Status → String
  | success => "Success"
  | failure => "Failure"

@[simp] theorem invert_invert (s : Status) : s.invert.invert = s := by cases s <;> rfl

@[simp] theorem toBool_ofBool (b : Bool) : (ofBool b).toBool = b := by cases b <;> rfl

@[simp] theorem ofBool_toBool (s : Status) : ofBool s.toBool = s := by cases s <;> rfl

@[simp] theorem toBool_invert (s : Status) : s.invert.toBool = !s.toBool := by cases s <;> rfl

end Status

end TickTree
