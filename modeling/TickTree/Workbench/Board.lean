import TickTree.Blackboard

/-!
# A board of texts

A blackboard with three stacks and three slots of texts, on which trees are tried out.

## Main definitions

* `Board`: the stacks and slots
* `Board.StackName`, `Board.SlotName`: their handles
-/

namespace TickTree

/-- Three stacks and three slots of texts. Stacks are listed from the top. -/
structure Board where
  alpha : List String
  beta : List String
  gamma : List String
  x : Option String
  y : Option String
  z : Option String
  deriving DecidableEq, Repr

namespace Board

/-- Empty stacks and unset slots. -/
def blank : Board := ⟨[], [], [], none, none, none⟩

/-- The stacks of a board. -/
inductive StackName
  | alpha
  | beta
  | gamma
  deriving DecidableEq, Repr

/-- The slots of a board. -/
inductive SlotName
  | x
  | y
  | z
  deriving DecidableEq, Repr

/-- All stacks. -/
def StackName.all : List StackName := [alpha, beta, gamma]

/-- All slots. -/
def SlotName.all : List SlotName := [x, y, z]

/-- The name of a stack. -/
def StackName.name : StackName → String
  | alpha => "alpha"
  | beta => "beta"
  | gamma => "gamma"

/-- The name of a slot. -/
def SlotName.name : SlotName → String
  | x => "x"
  | y => "y"
  | z => "z"

/-- The items of a stack. -/
def stack (board : Board) : StackName → List String
  | .alpha => board.alpha
  | .beta => board.beta
  | .gamma => board.gamma

/-- Gives a stack these items. -/
def setStack (board : Board) (name : StackName) (items : List String) : Board :=
  match name with
  | .alpha => { board with alpha := items }
  | .beta => { board with beta := items }
  | .gamma => { board with gamma := items }

/-- The text of a slot, if it is set. -/
def slot (board : Board) : SlotName → Option String
  | .x => board.x
  | .y => board.y
  | .z => board.z

/-- Sets a slot to a text, or unsets it. -/
def setSlot (board : Board) (name : SlotName) (item : Option String) : Board :=
  match name with
  | .x => { board with x := item }
  | .y => { board with y := item }
  | .z => { board with z := item }

instance : Blackboard Board StackName SlotName String where
  stackName := StackName.name
  slotName := SlotName.name
  stack := stack
  setStack := setStack
  slot := slot
  setSlot := setSlot
  stack_setStack_self _ k _ := by cases k <;> rfl
  stack_setStack_of_ne _ j k _ h := by cases j <;> cases k <;> first | rfl | exact absurd rfl h
  slot_setStack _ k _ r := by cases k <;> cases r <;> rfl
  slot_setSlot_self _ r _ := by cases r <;> rfl
  slot_setSlot_of_ne _ q r _ h := by cases q <;> cases r <;> first | rfl | exact absurd rfl h
  stack_setSlot _ r _ k := by cases r <;> cases k <;> rfl
  setStack_stack _ k := by cases k <;> rfl
  setStack_setStack _ k _ _ := by cases k <;> rfl
  setSlot_slot _ r := by cases r <;> rfl
  setSlot_setSlot _ r _ _ := by cases r <;> rfl
  setSlot_setStack _ k _ r _ := by cases k <;> cases r <;> rfl

end Board

end TickTree
