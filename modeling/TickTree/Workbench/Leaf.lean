import TickTree.Blackboard.Primitive
import TickTree.Workbench.Board

/-!
# Leaves of the workbench

On the workbench, the leaves over a blackboard stand beside scripted leaves, which write a trace of
their ticks. A scripted leaf follows a list of verdicts, writes or reads a slot, rolls a number, or
cancels and resets tokens at ticks of its own. Their ticks are limited: when the allowance of a
step is used up, a scripted leaf returns a fault and does nothing else, which ends every loop that
ticks one.

## Main definitions

* `Workbench`: a board, the allowance, the trace and the tick counts of the scripted leaves
* `Script`: what a scripted leaf does
* `BenchLeaf`: the leaves of the workbench
-/

namespace TickTree

/-- The context in which trees are tried out. -/
structure Workbench where
  board : Board
  /-- How many more ticks of scripted leaves are allowed. -/
  allowance : Nat
  /-- What the scripted leaves wrote, oldest first. -/
  trace : Array String
  /-- How often each script with verdicts was ticked, by its number. -/
  ticks : Array Nat
  deriving DecidableEq, Repr

namespace Workbench

/-- The blackboard of a workbench is its board: what is read is read of the board, and what is
written leaves the rest as it is. -/
instance : Blackboard Workbench Board.StackName Board.SlotName String where
  stackName := Board.StackName.name
  slotName := Board.SlotName.name
  stack bench := bench.board.stack
  setStack bench k items := { bench with board := bench.board.setStack k items }
  slot bench := bench.board.slot
  setSlot bench name item := { bench with board := bench.board.setSlot name item }
  stack_setStack_self bench := Blackboard.stack_setStack_self bench.board
  stack_setStack_of_ne bench := Blackboard.stack_setStack_of_ne bench.board
  slot_setStack bench := Blackboard.slot_setStack bench.board
  slot_setSlot_self bench := Blackboard.slot_setSlot_self bench.board
  slot_setSlot_of_ne bench := Blackboard.slot_setSlot_of_ne bench.board
  stack_setSlot bench := Blackboard.stack_setSlot bench.board
  -- Equal boards make equal workbenches.
  setStack_stack bench k :=
    congrArg (fun board => { bench with board }) (Blackboard.setStack_stack bench.board k)
  setStack_setStack bench k items items' :=
    congrArg (fun board => { bench with board })
      (Blackboard.setStack_setStack bench.board k items items')
  setSlot_slot bench name :=
    congrArg (fun board => { bench with board }) (Blackboard.setSlot_slot bench.board name)
  setSlot_setSlot bench name item item' :=
    congrArg (fun board => { bench with board })
      (Blackboard.setSlot_setSlot bench.board name item item')
  setSlot_setStack bench k items name item :=
    congrArg (fun board => { bench with board })
      (Blackboard.setSlot_setStack bench.board k items name item)

/-- Writes a line of the trace. -/
def write (bench : Workbench) (line : String) : Workbench :=
  { bench with trace := bench.trace.push line }

/-- How often a script was ticked. -/
def count (bench : Workbench) (script : Nat) : Nat := bench.ticks.getD script 0

/-- Counts one more tick of a script. -/
def bump (bench : Workbench) (script : Nat) : Workbench :=
  let ticks := bench.ticks ++ Array.replicate (script + 1 - bench.ticks.size) 0
  { bench with ticks := ticks.setIfInBounds script (ticks.getD script 0 + 1) }

end Workbench

/-- What a scripted leaf does at a tick. -/
inductive Script
  /-- Cancels one token and resets another at a given tick, and returns the verdicts of a list one
  after the other, of which the last goes on. -/
  | probe (number : Nat) (verdicts : List Verdict) (cancel reset : Option (Token × Nat))
  /-- Sets or unsets a slot. -/
  | put (slot : Board.SlotName) (value : Option String)
  /-- Tests the value of a slot. -/
  | is (slot : Board.SlotName) (value : Option String)
  /-- Rolls a number below one hundred and tests whether it is below a bound. -/
  | roll (percent : Nat)

/-- The leaves of the workbench. -/
inductive BenchLeaf
  /-- A leaf over the blackboard. -/
  | primitive (leaf : Primitive Board.StackName Board.SlotName String)
  /-- A scripted leaf, with the name that it writes to the trace. -/
  | scripted (name : String) (script : Script)

namespace Script

/-- The verdict of a list at the `k`-th tick, counted from one. -/
def verdictAt (verdicts : List Verdict) (k : Nat) : Verdict :=
  (verdicts[k - 1]?.or verdicts.getLast?).getD (.ok .success)

/-- The token of an order that is due at the `k`-th tick. -/
def due (order : Option (Token × Nat)) (k : Nat) : Option Token :=
  (order.filter fun (_, tick) => tick = k).map Prod.fst

/-- Carries out a script within the allowance. -/
def run (name : String) (script : Script) (world : World Workbench) :
    Verdict × World Workbench :=
  let bench := world.context
  match script with
  | probe number verdicts cancel reset =>
    let bench := (bench.bump number).write name
    let k := bench.count number
    let flags := (due cancel k).elim world.flags world.flags.cancel
    let flags := (due reset k).elim flags flags.reset
    (verdictAt verdicts k, { world with context := bench, flags := flags })
  | put slot value =>
    let bench := bench.write name
    (.ok .success,
      { world with context := { bench with board := bench.board.setSlot slot value } })
  | is slot value =>
    (.ok (.ofBool (bench.board.slot slot = value)), { world with context := bench.write name })
  | roll percent =>
    let (r, generator) := world.generator.roll 100
    (.ok (.ofBool (r < percent)),
      { world with context := bench.write (name ++ "=" ++ toString r), generator := generator })

end Script

namespace BenchLeaf

/-- One tick of a leaf of the workbench. -/
def tick : BenchLeaf → World Workbench → Reply Workbench Transfer
  | primitive leaf, world =>
    let (verdict, bench, transfers) := leaf.act world.context
    ⟨verdict, { world with context := bench }, transfers⟩
  | scripted name script, world =>
    match world.context.allowance with
    | 0 => ⟨.error (.cancelled "fuel"), world, []⟩
    | allowance + 1 =>
      let (verdict, world) :=
        script.run name { world with context := { world.context with allowance := allowance } }
      ⟨verdict, world, []⟩

instance : Leaf BenchLeaf Workbench Transfer := ⟨tick⟩

end BenchLeaf

end TickTree
