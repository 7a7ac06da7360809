/-!
# Blackboards

Leaves move values between stacks and slots of a context. They name a stack or a slot by a handle,
and the context says where it is kept. Every handle has a place of its own: writing through one
handle changes what that handle reads and nothing else.

## Main definitions

* `Blackboard`: contexts with stacks and slots, and the laws of reading and writing them
-/

namespace TickTree

/-- Contexts of type `C` hold a stack of items for every handle of type `K`, and at most one item
for every handle of type `S`. A stack is listed from its top. -/
class Blackboard (C : Type) (K S T : outParam Type) where
  /-- The name of a stack. -/
  stackName : K → String
  /-- The name of a slot. -/
  slotName : S → String
  /-- The items of a stack, the top first. -/
  stack : C → K → List T
  /-- Gives a stack these items. -/
  setStack : C → K → List T → C
  /-- The item of a slot, if it is set. -/
  slot : C → S → Option T
  /-- Sets a slot to this item, or unsets it. -/
  setSlot : C → S → Option T → C
  stack_setStack_self (c : C) (k : K) (items : List T) : stack (setStack c k items) k = items
  stack_setStack_of_ne (c : C) {j k : K} (items : List T) :
    j ≠ k → stack (setStack c k items) j = stack c j
  slot_setStack (c : C) (k : K) (items : List T) (x : S) : slot (setStack c k items) x = slot c x
  slot_setSlot_self (c : C) (x : S) (item : Option T) : slot (setSlot c x item) x = item
  slot_setSlot_of_ne (c : C) {y x : S} (item : Option T) :
    y ≠ x → slot (setSlot c x item) y = slot c y
  stack_setSlot (c : C) (x : S) (item : Option T) (k : K) :
    stack (setSlot c x item) k = stack c k
  setStack_stack (c : C) (k : K) : setStack c k (stack c k) = c
  setStack_setStack (c : C) (k : K) (items items' : List T) :
    setStack (setStack c k items) k items' = setStack c k items'
  setSlot_slot (c : C) (x : S) : setSlot c x (slot c x) = c
  setSlot_setSlot (c : C) (x : S) (item item' : Option T) :
    setSlot (setSlot c x item) x item' = setSlot c x item'
  setSlot_setStack (c : C) (k : K) (items : List T) (x : S) (item : Option T) :
    setSlot (setStack c k items) x item = setStack (setSlot c x item) k items

attribute [simp] Blackboard.stack_setStack_self Blackboard.slot_setStack
  Blackboard.slot_setSlot_self Blackboard.stack_setSlot Blackboard.setStack_stack
  Blackboard.setStack_setStack Blackboard.setSlot_slot Blackboard.setSlot_setSlot

end TickTree
