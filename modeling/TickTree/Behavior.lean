import TickTree.World
import TickTree.Random.Shuffle

/-!
# Behaviors

A behavior is what a node does when it is ticked: it acts on a scene and returns a verdict. The
kinds of nodes are operations on behaviors, so their laws hold for arbitrary children.

A loop that nothing stops does not return. To keep behaviors total, a loop without a bound is
given a limit on how often it may look at its stopping condition, and gives no answer when it
would have to look once more. A behavior returns exactly if it answers for some limit. The ticks of
such a loop are counted without a bound, which agrees with a count in 64 bits below `2 ^ 64` ticks.

## Main definitions

* `Behavior`: acts on a scene and returns a verdict
* `Behavior.sequence`, `Behavior.selector`, `Behavior.randomSelector`: the composites
* `Behavior.revise`: changes the status of one behavior
* `Behavior.repeated`, `Behavior.forever`, `Behavior.untilFail`: the loops
* `Behavior.evaluation`: the behavior of a whole tree
-/

namespace TickTree

/-- Acts on a scene and returns a verdict, or gives no answer within the limits of its loops. -/
abbrev Behavior (L C E : Type) := Scene L C E → Option (Verdict × Scene L C E)

namespace Behavior

variable {L C E : Type}

/-- Ticks a leaf. What it reports enters the history first, and then its return. -/
def leaf [Leaf L C E] (l : L) : Behavior L C E := fun s =>
  let reply := Leaf.tick l s.world
  let scene := (Scene.mk reply.world s.history).reportAll (reply.notes.map .note)
  some (reply.verdict, scene.log (.leaf l reply.verdict))

/-- Ticks behaviors in order until one does not succeed. -/
def sequence : List (Behavior L C E) → Behavior L C E
  | [], s => some (.ok .success, s)
  | b :: bs, s =>
    match b s with
    | some (.ok .success, s) => sequence bs s
    | answer => answer

/-- Ticks behaviors in order until one does not fail. -/
def selector : List (Behavior L C E) → Behavior L C E
  | [], s => some (.ok .failure, s)
  | b :: bs, s =>
    match b s with
    | some (.ok .failure, s) => selector bs s
    | answer => answer

/-- Ticks behaviors in a random order until one does not fail. The whole order is drawn before the
first of them is ticked. -/
def randomSelector (bs : List (Behavior L C E)) : Behavior L C E := fun s =>
  let (order, generator) := s.world.generator.shuffle bs.length
  let scene : Scene L C E := { s with world := { s.world with generator := generator } }
  selector (order.filterMap fun i => bs[i]?) (scene.log (.shuffled bs.length))

/-- Changes the status that a behavior returns. -/
def revise (f : Status → Status) (b : Behavior L C E) : Behavior L C E := fun s =>
  match b s with
  | some (.ok status, s) => some (.ok (f status), s)
  | answer => answer

/-- Ticks a behavior `n` times and returns the last status, or `last` if there is none. -/
def repeated (b : Behavior L C E) : (n : Nat) → (last : Status) → Behavior L C E
  | 0, last, s => some (.ok last, s)
  | n + 1, _, s =>
    match b s with
    | some (.ok status, s) => repeated b n status s
    | answer => answer

/-- Ticks a behavior until the token is cancelled, whatever status it returns. The token is looked
at before every tick, `limit` times at most, and `ticks` counts the ticks so far, which are meant to
be fewer than `2 ^ 64`. -/
def forever (token : Token) (b : Behavior L C E) :
    (limit : Nat) → (ticks : Nat) → Behavior L C E
  | 0, _, _ => none
  | limit + 1, ticks, s =>
    if s.world.flags.isCancelled token then
      some (.error (.cancelled (Decorator.forever token).name), s.report (.repeaterCancelled ticks))
    else
      match b s with
      | some (.ok _, s) => forever token b limit (ticks + 1) s
      | answer => answer

/-- Ticks a behavior until it fails, and then succeeds. The token, if there is one, is looked at
before every tick, `limit` times at most, and `successes` counts the ticks so far, which are meant
to be fewer than `2 ^ 64`. -/
def untilFail (token : Option Token) (b : Behavior L C E) :
    (limit : Nat) → (successes : Nat) → Behavior L C E
  | 0, _, _ => none
  | limit + 1, successes, s =>
    if token.any s.world.flags.isCancelled then
      some (.error (.cancelled (Decorator.untilFail token).name),
        s.report (.untilFailCancelled successes))
    else
      match b s with
      | some (.ok .success, s) => untilFail token b limit (successes + 1) s
      | some (.ok .failure, s) => some (.ok .success, s.report (.untilFailFinished successes))
      | answer => answer

/-- What a decorator without a child does: it returns a fault that names it. -/
def unbound (d : Decorator) : Behavior L C E := fun s =>
  some (.error (.missingChild d.name), s.log (.unbound d))

/-- What a composite does with the behaviors of its children. -/
def composite : Composite → List (Behavior L C E) → Behavior L C E
  | .sequence => sequence
  | .selector => selector
  | .randomSelector => randomSelector

/-- What a decorator does with the behavior of its child, where every loop without a bound has
the same limit. -/
def decorate (limit : Nat) : Decorator → Behavior L C E → Behavior L C E
  | .root, b => b
  | .inverter, b => revise Status.invert b
  | .succeeder, b => revise (fun _ => .success) b
  | .failer, b => revise (fun _ => .failure) b
  | .times count, b => repeated b count.val .failure
  | .forever token, b => forever token b limit 0
  | .untilFail token, b => untilFail token b limit 0

/-- Reports the status of a behavior as that of a whole tree. A fault is not reported. -/
def evaluation (b : Behavior L C E) : Behavior L C E := fun s =>
  match b s with
  | some (.ok status, s) => some (.ok status, s.report (.evaluated status))
  | answer => answer

end Behavior

end TickTree
