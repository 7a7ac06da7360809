/-!
# Cancel tokens

An unbounded loop is stopped by a token. All who hold a token see the same flag, so a token is
a key and the flags of an evaluation are kept in one place.

## Main definitions

* `Token`: the key of a flag
* `Flags`: which tokens are cancelled
* `Flags.cancel`, `Flags.reset`: raising and clearing a flag
-/

namespace TickTree

/-- The key of a cancel flag. -/
abbrev Token := Nat

/-- The tokens that are cancelled. -/
structure Flags where
  /-- The flag of each token. -/
  isCancelled : Token → Bool

namespace Flags

/-- No token is cancelled. -/
def clear : Flags := ⟨fun _ => false⟩

/-- Gives one token the flag `b`. -/
def set (flags : Flags) (t : Token) (b : Bool) : Flags :=
  ⟨fun u => if u = t then b else flags.isCancelled u⟩

/-- Requests that the loops which watch `t` end before their next iteration. -/
def cancel (flags : Flags) (t : Token) : Flags := flags.set t true

/-- Clears the flag of `t`, so that the token can serve again. -/
def reset (flags : Flags) (t : Token) : Flags := flags.set t false

@[ext] theorem ext {f g : Flags} (h : ∀ t, f.isCancelled t = g.isCancelled t) : f = g := by
  cases f; cases g
  exact congrArg Flags.mk (funext h)

@[simp] theorem isCancelled_clear (t : Token) : clear.isCancelled t = false := rfl

@[simp] theorem isCancelled_set (flags : Flags) (t u : Token) (b : Bool) :
    (flags.set t b).isCancelled u = if u = t then b else flags.isCancelled u := rfl

@[simp] theorem isCancelled_cancel (flags : Flags) (t u : Token) :
    (flags.cancel t).isCancelled u = if u = t then true else flags.isCancelled u := rfl

@[simp] theorem isCancelled_reset (flags : Flags) (t u : Token) :
    (flags.reset t).isCancelled u = if u = t then false else flags.isCancelled u := rfl

end Flags

end TickTree
