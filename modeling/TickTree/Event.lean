import TickTree.Status
import TickTree.Log.Record

/-!
# Events of an evaluation

An evaluation reports what its leaves do and how its loops and the tree as a whole end. What the
leaves report depends on the leaves, so it is a parameter.

## Main definitions

* `Event`: one thing that happened, of which the kind `E` is what leaves report
* `Event.toRecord`: the record of an event
-/

namespace TickTree

/-- Something that happened during an evaluation. The numbers that loops report have no bound here,
and are meant to stay below `2 ^ 64`. -/
inductive Event (E : Type)
  /-- A leaf reports what it did. -/
  | note (what : E)
  /-- The random source was set to the start of the stream of a seed. -/
  | reseeded (seed : UInt64)
  /-- An endless repetition saw its token after so many ticks of its child. -/
  | repeaterCancelled (iterations : Nat)
  /-- A repetition until failure saw its token after so many successes of its child. -/
  | untilFailCancelled (successes : Nat)
  /-- A repetition until failure ended after so many successes of its child. -/
  | untilFailFinished (successes : Nat)
  /-- The whole tree returned a status. -/
  | evaluated (status : Status)
  deriving DecidableEq, Repr

namespace Event

variable {E : Type}

/-- The record of an event: what leaves report has a record of its own, loops and trees report
their counts and their status. -/
def toRecord [Recordable E] : Event E → Record
  | note what => Recordable.record what
  | reseeded seed =>
    ⟨.debug, "behavior_tree::rng", "behavior tree rng reseeded",
      [("seed", .plain (toString seed.toNat))]⟩
  | repeaterCancelled iterations =>
    ⟨.warn, "behavior_tree::decorator", "repeater cancelled",
      [("iterations", .plain (toString iterations))]⟩
  | untilFailCancelled successes =>
    ⟨.warn, "behavior_tree::decorator", "repeat-until-fail cancelled",
      [("successes", .plain (toString successes))]⟩
  | untilFailFinished successes =>
    ⟨.debug, "behavior_tree::decorator", "repeat-until-fail finished",
      [("successes", .plain (toString successes))]⟩
  | evaluated status =>
    ⟨.debug, "behavior_tree::tree", "behavior tree evaluated",
      [("status", .plain status.name)]⟩

instance [Recordable E] : Recordable (Event E) := ⟨toRecord⟩

end Event

end TickTree
