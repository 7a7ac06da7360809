import TickTree.Node
import TickTree.Doors.Action

/-!
# The plan of a visit

The agent tries the doors of a building one after the other: it walks to the door, gets it open
(opens, unlocks or smashes it), walks through and closes it behind. The first door that works is
remembered, and the visit succeeds if there is one.

```text
sequence
├── get doors from entrances
├── until fail
│   └── sequence
│       ├── pop doors into current
│       └── inverter
│           └── sequence
│               ├── walk to door
│               ├── selector: open, unlock, smash
│               ├── walk through door
│               ├── succeeder: close door
│               └── assign used from current
└── inverter
    └── is used unset
```

The loop goes on while getting through the current door fails. It stops when a door worked, which
the inverter turns into the failure that ends the loop, or when no door is left. The last test
tells the two apart.

## Main definitions

* `Plan.tree`: the tree, for a policy of each action
* `Plan.run`: one evaluation of the tree
-/

namespace TickTree

namespace Plan

open Visit

/-- The leaf that carries out an action. -/
def action (policies : ByAction Policy) (kind : ActionKind) : Node DoorLeaf :=
  .leaf (.act ⟨kind.name, policies.get kind⟩)

/-- Gets the agent through the door in front of it. -/
def getThrough (policies : ByAction Policy) : Node DoorLeaf :=
  .composite .sequence [
    action policies .walkTo,
    .composite .selector
      [action policies .opening, action policies .unlocking, action policies .smashing],
    action policies .walkThrough,
    .decorator .succeeder (action policies .closing),
    .leaf (.move (.assign .used .current))]

/-- Steps up to the next door and fails if it leads into the building or there is none. -/
def tryNext (policies : ByAction Policy) : Node DoorLeaf :=
  .composite .sequence [
    .leaf (.move (.pop .doors .current)),
    .decorator .inverter (getThrough policies)]

/-- The tree of a visit. -/
def tree (policies : ByAction Policy) : Tree DoorLeaf :=
  .of (.composite .sequence [
    .leaf (.move (.get .doors .entrances none)),
    .decorator (.untilFail none) (tryNext policies),
    .decorator .inverter (.leaf (.move (.isUnset .used)))])

/-- The policies of an agent whose actions all depend on chance. -/
def ofChances (percents : ByAction Nat) : ByAction Policy := percents.map .chance

/-- A limit that no evaluation of the tree reaches: the loop looks at each door once, and once more
when no door is left. -/
def limit (visit : Visit) : Nat := visit.entrances.length + 1

/-- Evaluates a tree of a visit once. -/
def run (tree : Tree DoorLeaf) (visit : Visit) (generator : Generator) :
    Option (Verdict × Scene DoorLeaf Visit DoorNote) :=
  tree.run (limit visit) (Scene.start ⟨visit, .clear, generator⟩)

end Plan

end TickTree
