import TickTree.Blackboard
import TickTree.Doors.ActionKind

/-!
# A visit to a building

An agent visits a building with numbered doors. The visit remembers the doors of the building, the
doors still to be tried, the door in front of the agent, the door that was used to get in, and a
journal of all actions.

## Main definitions

* `Door`, `Building`: doors are numbered from one, and door one comes first
* `Visit`: the state of a visit, which is a blackboard for its stacks and slots of doors
* `Visit.restart`: a new attempt on the same building
* `Visit.attempted`: the doors that the agent walked to
-/

namespace TickTree

/-- A door. -/
structure Door where
  number : Nat
  deriving DecidableEq, Repr

instance : ToString Door := ⟨fun door => "door #" ++ toString door.number⟩

/-- A building with so many doors. -/
structure Building where
  doorCount : Nat
  deriving DecidableEq, Repr

/-- The doors of a building, the first to be tried in front. -/
def Building.doors (building : Building) : List Door :=
  (List.range building.doorCount).map fun i => ⟨i + 1⟩

@[simp] theorem Building.length_doors (building : Building) :
    building.doors.length = building.doorCount := by
  simp [doors]

/-- An action that was carried out, in front of which door, and whether it succeeded. -/
structure JournalEntry where
  action : String
  door : Option Nat
  succeeded : Bool
  deriving DecidableEq, Repr

/-- The state of a visit. Stacks of doors are listed from the top. -/
structure Visit where
  /-- The doors of the building. -/
  entrances : List Door
  /-- The doors that are still to be tried. -/
  doors : List Door
  /-- The door in front of the agent. -/
  current : Option Door
  /-- The door that led into the building. -/
  used : Option Door
  /-- The actions so far, oldest first. -/
  journal : Array JournalEntry
  deriving DecidableEq, Repr

namespace Visit

/-- A visit that has not begun. -/
def of (building : Building) : Visit := ⟨building.doors, [], none, none, #[]⟩

/-- Forgets the doors of the last attempt. The journal goes on. -/
def restart (visit : Visit) : Visit := { visit with doors := [], current := none, used := none }

/-- The numbers of the doors that the agent walked to, with or without success. -/
def attempted (visit : Visit) : List Nat :=
  visit.journal.toList.filterMap fun entry =>
    if entry.action = ActionKind.walkTo.name then entry.door else none

/-- The stacks of a visit. -/
inductive DoorStack
  | entrances
  | doors
  deriving DecidableEq, Repr

/-- The slots of a visit. -/
inductive DoorSlot
  | current
  | used
  deriving DecidableEq, Repr

/-- A visit holds two stacks and two slots of doors. -/
instance : Blackboard Visit DoorStack DoorSlot Door where
  stackName
    | .entrances => "entrances"
    | .doors => "doors"
  slotName
    | .current => "current_door"
    | .used => "used_door"
  stack visit
    | .entrances => visit.entrances
    | .doors => visit.doors
  setStack visit stack doors :=
    match stack with
    | .entrances => { visit with entrances := doors }
    | .doors => { visit with doors := doors }
  slot visit
    | .current => visit.current
    | .used => visit.used
  setSlot visit slot door :=
    match slot with
    | .current => { visit with current := door }
    | .used => { visit with used := door }
  stack_setStack_self _ k _ := by cases k <;> rfl
  stack_setStack_of_ne _ j k _ h := by cases j <;> cases k <;> first | rfl | exact absurd rfl h
  slot_setStack _ k _ r := by cases k <;> cases r <;> rfl
  slot_setSlot_self _ r _ := by cases r <;> rfl
  slot_setSlot_of_ne _ q r _ h := by cases q <;> cases r <;> first | rfl | exact absurd rfl h
  stack_setSlot _ r _ k := by cases r <;> cases k <;> rfl
  setStack_stack _ k := by cases k <;> rfl
  setStack_setStack _ k _ _ := by cases k <;> rfl
  setSlot_slot _ r := by cases r <;> rfl
  setSlot_setSlot _ r _ _ := by cases r <;> rfl
  setSlot_setStack _ k _ r _ := by cases k <;> cases r <;> rfl

end Visit

end TickTree
