/-!
# The actions at a door

An agent in front of a door knows six actions. Whatever is chosen for each of them separately, a
percentage, a policy, is a record with six fields.

## Main definitions

* `ActionKind`: the six actions
* `ActionKind.name`: the name under which an action is reported
* `ByAction`: one value for each action
-/

namespace TickTree

/-- The actions at a door. -/
inductive ActionKind
  | walkTo
  | opening
  | unlocking
  | smashing
  | walkThrough
  | closing
  deriving DecidableEq, Repr

namespace ActionKind

/-- The name under which an action is reported. -/
def name : ActionKind → String
  | walkTo => "Walk to door"
  | opening => "Open door"
  | unlocking => "Unlock door"
  | smashing => "Smash door"
  | walkThrough => "Walk through door"
  | closing => "Close door"

/-- All actions, in the order in which they come up at a door. -/
def all : List ActionKind := [walkTo, opening, unlocking, smashing, walkThrough, closing]

theorem mem_all (kind : ActionKind) : kind ∈ all := by cases kind <;> decide

/-- An action is known by its name. -/
theorem name_inj {kind other : ActionKind} : kind.name = other.name ↔ kind = other := by
  cases kind <;> cases other <;> decide

end ActionKind

/-- One value for each action. -/
structure ByAction (α : Type) where
  walkTo : α
  opening : α
  unlocking : α
  smashing : α
  walkThrough : α
  closing : α
  deriving DecidableEq, Repr

namespace ByAction

variable {α β : Type}

/-- The value for an action. -/
def get (values : ByAction α) : ActionKind → α
  | .walkTo => values.walkTo
  | .opening => values.opening
  | .unlocking => values.unlocking
  | .smashing => values.smashing
  | .walkThrough => values.walkThrough
  | .closing => values.closing

/-- The values of a function. -/
def ofFn (f : ActionKind → α) : ByAction α :=
  ⟨f .walkTo, f .opening, f .unlocking, f .smashing, f .walkThrough, f .closing⟩

/-- Applies a function to every value. -/
def map (f : α → β) (values : ByAction α) : ByAction β := ofFn fun kind => f (values.get kind)

/-- Replaces the value for one action. -/
def set (values : ByAction α) (kind : ActionKind) (value : α) : ByAction α :=
  ofFn fun other => if other = kind then value else values.get other

@[simp] theorem get_ofFn (f : ActionKind → α) (kind : ActionKind) : (ofFn f).get kind = f kind := by
  cases kind <;> rfl

theorem get_map (f : α → β) (values : ByAction α) (kind : ActionKind) :
    (values.map f).get kind = f (values.get kind) := by simp [map]

theorem get_set (values : ByAction α) (kind other : ActionKind) (value : α) :
    (values.set kind value).get other = if other = kind then value else values.get other := by
  simp [set]

end ByAction

end TickTree
