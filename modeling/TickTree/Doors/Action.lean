import TickTree.Blackboard.Primitive
import TickTree.Doors.Visit

/-!
# Actions and leaves of a visit

An action succeeds or fails by its policy. It reads the door in front of the agent, enters the
journal and reports its outcome. Doors are moved by leaves over the blackboard only.

## Main definitions

* `Policy`: how it is decided whether an action succeeds
* `Action`: a named action with its policy
* `DoorLeaf`: the leaves of a visit
* `DoorNote`: what they report
-/

namespace TickTree

/-- How it is decided whether an action succeeds. -/
inductive Policy
  /-- The outcome is fixed. -/
  | always (outcome : Bool)
  /-- The action succeeds with this probability, in percent. -/
  | chance (percent : Nat)
  /-- The door in front of the agent decides. -/
  | script (passes : Door → Bool)

/-- A named action with its policy. -/
structure Action where
  name : String
  policy : Policy

/-- What the leaves of a visit report. -/
inductive DoorNote
  /-- A door was moved. -/
  | moved (transfer : Transfer)
  /-- An action was carried out. -/
  | acted (action : String) (door : Option Nat) (succeeded : Bool)
  deriving DecidableEq, Repr

namespace DoorNote

/-- How an optional number is written in a report. -/
def optional : Option Nat → String
  | none => "None"
  | some n => "Some(" ++ toString n ++ ")"

/-- The record of what a leaf of a visit reports. -/
def toRecord : DoorNote → Record
  | moved transfer => transfer.toRecord
  | acted action door succeeded =>
    ⟨.info, "door_scenario::actions", action ++ if succeeded then " succeeded" else " failed",
      [("action", .text action), ("door", .plain (optional door))]⟩

instance : Recordable DoorNote := ⟨toRecord⟩

end DoorNote

namespace Policy

/-- Decides an action in front of a door, if there is one. Only a chance draws a random number,
and only a script needs a door. -/
def decide (policy : Policy) (door : Option Door) (g : Generator) :
    Except Fault Bool × Generator :=
  match policy with
  | always outcome => (.ok outcome, g)
  | chance percent =>
    let (r, g) := g.roll 100
    (.ok (r < percent), g)
  | script passes =>
    match door with
    | none =>
      (.error (.unsetSlot "DoorAction" (Blackboard.slotName Visit Visit.DoorSlot.current)), g)
    | some door => (.ok (passes door), g)

end Policy

namespace Action

/-- Carries out an action. If its policy needs a door and there is none, nothing happens. -/
def tick (action : Action) (world : World Visit) : Reply Visit DoorNote :=
  let (outcome, generator) := action.policy.decide world.context.current world.generator
  match outcome with
  | .error fault => ⟨.error fault, { world with generator := generator }, []⟩
  | .ok succeeded =>
    let door := world.context.current.map Door.number
    let entry : JournalEntry := ⟨action.name, door, succeeded⟩
    let visit := { world.context with journal := world.context.journal.push entry }
    ⟨.ok (.ofBool succeeded), { world with context := visit, generator := generator },
      [.acted action.name door succeeded]⟩

end Action

/-- The leaves of a visit. -/
inductive DoorLeaf
  /-- Moves doors on the blackboard. -/
  | move (primitive : Primitive Visit.DoorStack Visit.DoorSlot Door)
  /-- Carries out an action. -/
  | act (action : Action)

namespace DoorLeaf

/-- One tick of a leaf of a visit. -/
def tick : DoorLeaf → World Visit → Reply Visit DoorNote
  | move primitive, world =>
    let (verdict, visit, transfers) := primitive.act world.context
    ⟨verdict, { world with context := visit }, transfers.map .moved⟩
  | act action, world => action.tick world

instance : Leaf DoorLeaf Visit DoorNote := ⟨tick⟩

end DoorLeaf

end TickTree
