import TickTree.Status
import TickTree.Flags

/-!
# Kinds of inner nodes

A composite judges a list of children, a decorator has at most one child and changes its verdict
or ticks it more than once.

## Main definitions

* `Composite`, `Decorator`: the kinds
* `Count`: how often a counted repetition ticks its child
* `Decorator.name`: the name under which a decorator appears in a fault
-/

namespace TickTree

/-- The kinds of nodes with a list of children. -/
inductive Composite
  /-- Succeeds if all children do, and stops at the first that does not. -/
  | sequence
  /-- Succeeds if some child does, and stops at the first that does. -/
  | selector
  /-- A selector that visits its children in a random order. -/
  | randomSelector
  deriving DecidableEq, Repr

/-- A number of repetitions: at least one. -/
abbrev Count := { n : Nat // 0 < n }

/-- The kinds of nodes with one child. -/
inductive Decorator
  /-- Returns what its child returns: the entry of a tree. -/
  | root
  /-- Returns the other status. -/
  | inverter
  /-- Returns success, whatever status its child returns. -/
  | succeeder
  /-- Returns failure, whatever status its child returns. -/
  | failer
  /-- Ticks its child so many times and returns the last status. -/
  | times (count : Count)
  /-- Ticks its child until the token is cancelled. -/
  | forever (token : Token)
  /-- Ticks its child until it fails, unless the token is cancelled before. -/
  | untilFail (token : Option Token)
  deriving DecidableEq, Repr

/-- The name under which a decorator appears in a fault. -/
def Decorator.name : Decorator → String
  | root => "Root"
  | inverter => "Inverter"
  | succeeder => "Succeeder"
  | failer => "Failer"
  | times _ => "Repeater"
  | forever _ => "Repeater"
  | untilFail _ => "RepeatUntilFail"

end TickTree
