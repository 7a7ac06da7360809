import TickTree.Fault
import TickTree.Decorator
import TickTree.Event
import TickTree.Random.Generator

/-!
# The world of an evaluation

Nodes act on a world: the context of the application, the cancel flags and the random source.
A scene is a world together with the history of what happened in it, which only ever grows.

## Main definitions

* `World`: what leaves read and write
* `Reply`, `Leaf`: what one tick of a leaf does, for any kind of leaf
* `Occurrence`: one entry of a history
* `Scene`: a world and its history
* `Scene.events`, `Scene.leafTicks`: the reported events and the leaves that were ticked
-/

namespace TickTree

/-- What the leaves of a tree read and write. -/
structure World (C : Type) where
  /-- The context of the application, with the blackboard and the leaves' own state. -/
  context : C
  /-- The tokens that are cancelled. -/
  flags : Flags
  /-- The random source. -/
  generator : Generator

/-- What one tick of a leaf yields. -/
structure Reply (C E : Type) where
  verdict : Verdict
  world : World C
  /-- What the leaf reports, in order. -/
  notes : List E

/-- Leaves of kind `L` act on a context of type `C` and report events of type `E`. -/
class Leaf (L C : Type) (E : outParam Type) where
  /-- One tick of a leaf. -/
  tick : L → World C → Reply C E

/-- One entry of the history of an evaluation. -/
inductive Occurrence (L E : Type)
  /-- A leaf returned a verdict. -/
  | leaf (leaf : L) (verdict : Verdict)
  /-- The visiting order of so many children was shuffled. -/
  | shuffled (count : Nat)
  /-- A decorator was ticked that has no child. -/
  | unbound (decorator : Decorator)
  /-- An event was reported. -/
  | event (event : Event E)

/-- A world and the history of what happened in it, oldest first. -/
structure Scene (L C E : Type) where
  world : World C
  history : Array (Occurrence L E)

namespace Scene

variable {L C E : Type}

/-- A world in which nothing has happened yet. -/
def start (world : World C) : Scene L C E := ⟨world, #[]⟩

/-- Adds an entry to the history. -/
def log (s : Scene L C E) (o : Occurrence L E) : Scene L C E :=
  { s with history := s.history.push o }

/-- Reports an event. -/
def report (s : Scene L C E) (e : Event E) : Scene L C E := s.log (.event e)

/-- Reports events, in order. -/
def reportAll (s : Scene L C E) (events : List (Event E)) : Scene L C E :=
  { s with history := s.history ++ (events.map Occurrence.event).toArray }

/-- The reported events, in order. -/
def events (s : Scene L C E) : List (Event E) :=
  s.history.toList.filterMap fun
    | .event e => some e
    | _ => none

/-- The leaves that were ticked, in order. -/
def leafTicks (s : Scene L C E) : List (L × Verdict) :=
  s.history.toList.filterMap fun
    | .leaf l v => some (l, v)
    | _ => none

end Scene

end TickTree
