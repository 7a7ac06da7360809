import TickTree.Blackboard
import TickTree.World

/-!
# Leaves over a blackboard

Six leaves move items between the stacks and slots of a blackboard and test them. They neither
look at the cancel flags nor draw random numbers. A leaf that needs the item of an unset slot
returns a fault.

| leaf      | verdict                               |
|-----------|---------------------------------------|
| `push`    | success                               |
| `get`     | success                               |
| `pop`     | failure if the stack is empty         |
| `isEmpty` | success exactly if the stack is empty |
| `assign`  | success                               |
| `isUnset` | success exactly if the slot is unset  |

## Main definitions

* `Primitive`: the six leaves
* `Transfer`: what they report
* `Primitive.act`: one tick on a context
-/

namespace TickTree

/-- The leaves over stacks with handles in `K`, slots with handles in `S` and items in `T`. -/
inductive Primitive (K S T : Type)
  /-- Pushes the item of a slot onto a stack. -/
  | push (item : S) (stack : K)
  /-- Replaces a stack by a copy of another, with one extra item on top if there is one. -/
  | get (stack source : K) (extra : Option T)
  /-- Moves the top of a stack into a slot. -/
  | pop (stack : K) (item : S)
  /-- Tests whether a stack is empty. -/
  | isEmpty (stack : K)
  /-- Copies the item of a slot into another. -/
  | assign (target source : S)
  /-- Tests whether a slot is unset. -/
  | isUnset (slot : S)
  deriving DecidableEq, Repr

/-- What a leaf over a blackboard reports. Items are shown by their text, stacks and slots by
their names. -/
inductive Transfer
  /-- An item was taken from the top of a stack and goes into a slot. -/
  | trying (item stack slot : String)
  /-- A slot received the item of another. -/
  | assigned (target item source : String)
  deriving DecidableEq, Repr

/-- The record of what a leaf reports. -/
def Transfer.toRecord : Transfer → Record
  | trying item stack slot =>
    ⟨.info, "behavior_tree::leaf", "trying " ++ item,
      [("stack", .text stack), ("slot", .text slot)]⟩
  | assigned target item source =>
    ⟨.info, "behavior_tree::leaf", target ++ " is now " ++ item,
      [("variable", .text target), ("source", .text source)]⟩

instance : Recordable Transfer := ⟨Transfer.toRecord⟩

namespace Primitive

variable {C K S T : Type} [Blackboard C K S T] [ToString T]

open Blackboard

/-- One tick on a context: the verdict, the context afterwards and what is reported. -/
def act : Primitive K S T → C → Verdict × C × List Transfer
  | push item target, c =>
    match slot c item with
    | none => (.error (.unsetSlot "PushToStack" (slotName C item)), c, [])
    | some value => (.ok .success, setStack c target (value :: stack c target), [])
  | get target source extra, c =>
    (.ok .success, setStack c target (extra.toList ++ stack c source), [])
  | pop source item, c =>
    match stack c source with
    | [] => (.ok .failure, c, [])
    | value :: rest =>
      (.ok .success, setSlot (setStack c source rest) item (some value),
        [.trying (toString value) (stackName C source) (slotName C item)])
  | isEmpty source, c => (.ok (.ofBool (stack c source).isEmpty), c, [])
  | assign target source, c =>
    match slot c source with
    | none => (.error (.unsetSlot "SetVariable" (slotName C source)), c, [])
    | some value =>
      (.ok .success, setSlot c target (some value),
        [.assigned (slotName C target) (toString value) (slotName C source)])
  | isUnset source, c => (.ok (.ofBool (slot c source).isNone), c, [])

instance : Leaf (Primitive K S T) C Transfer where
  tick leaf world :=
    let (verdict, context, notes) := leaf.act world.context
    ⟨verdict, { world with context := context }, notes⟩

end Primitive

end TickTree
