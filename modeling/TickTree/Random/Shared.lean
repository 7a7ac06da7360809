import TickTree.Random.Generator

/-!
# The shared random source

All users within a process share one random source. It is made from entropy when it is first locked,
and each user locks it for as long as it draws. A user that panics while it holds the lock poisons
it. The users that come later learn about this when they lock the source, and draw all the same:
there is nothing about a stream and a position that a panic could have broken.

## Main definitions

* `SharedSource`: the random source of a process, and whether its lock is poisoned
* `SharedSource.lock`, `SharedSource.acquire`: what a user finds
* `SharedSource.lend`: a user draws from the source, and may panic
* `SharedSource.reseed`: the source is set to the start of the stream of a seed
-/

namespace TickTree

/-- The random source of a process. -/
structure SharedSource where
  /-- What the source is made from when it is first locked. -/
  entropy : Generator
  /-- The source as the last user left it, if there was one. -/
  generator? : Option Generator
  /-- A user panicked while it held the lock. -/
  poisoned : Bool
  deriving DecidableEq

namespace SharedSource

/-- The source of a process that has not used it yet. -/
def fresh (entropy : Generator) : SharedSource := ⟨entropy, none, false⟩

/-- What a user gets by locking the source. A poisoned lock is an error that carries the source. -/
def lock (source : SharedSource) : Except Generator Generator :=
  let g := source.generator?.getD source.entropy
  if source.poisoned then .error g else .ok g

/-- The source for a user, which takes it from a poisoned lock as well. -/
def acquire (source : SharedSource) : Generator :=
  match source.lock with
  | .ok g => g
  | .error g => g

/-- What is left when a user is done with the source, or has panicked. -/
def release (source : SharedSource) (panicked : Bool) (g : Generator) : SharedSource :=
  { source with generator? := some g, poisoned := source.poisoned || panicked }

/-- Lends the source to a user, which returns nothing if it panics. -/
def lend {α : Type} (source : SharedSource) (user : Generator → Option α × Generator) :
    Option α × SharedSource :=
  let (result, g) := user source.acquire
  (result, source.release result.isNone g)

/-- Sets the source to the start of the stream of a seed. -/
def reseed (source : SharedSource) (seed : UInt64) : SharedSource :=
  (source.lend fun _ => (some (), .ofSeed seed)).2

theorem acquire_eq (source : SharedSource) :
    source.acquire = source.generator?.getD source.entropy := by
  rw [acquire, lock]
  cases source.poisoned <;> rfl

/-- What a user leaves is what the next one finds, whether it panicked or not. -/
@[simp] theorem acquire_release (source : SharedSource) (panicked : Bool) (g : Generator) :
    (source.release panicked g).acquire = g := acquire_eq _

@[simp] theorem acquire_reseed (source : SharedSource) (seed : UInt64) :
    (source.reseed seed).acquire = .ofSeed seed := acquire_eq _

end SharedSource

end TickTree
