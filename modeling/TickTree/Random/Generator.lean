import TickTree.Random.ChaCha

/-!
# The random source

All random choices of an evaluation come from one source, a ChaCha stream read word by word. Its
state is the key and the number of words read so far, so that what a user reads is the stretch of
the stream between two positions, whoever reads it and for whatever purpose.

## Main definitions

* `Generator`: a stream and a position in it
* `Generator.ofSeed`: the start of the stream of a seed
* `Generator.next`, `Generator.next64`: one word, and two words as one number
* `Generator.roll`: a number below a bound
-/

namespace TickTree

/-- A stream of random words and a position in it. -/
structure Generator where
  /-- The key of the stream. -/
  key : ChaCha.Key
  /-- The number of words read so far. -/
  consumed : Nat
  deriving DecidableEq

namespace Generator

/-- The start of the stream of a seed. -/
def ofSeed (seed : UInt64) : Generator := ⟨ChaCha.keyOfSeed seed, 0⟩

/-- The word that is read next. -/
def word (g : Generator) : UInt32 := ChaCha.word g.key g.consumed

/-- The generator after `n` more words. -/
def skip (g : Generator) (n : Nat) : Generator := { g with consumed := g.consumed + n }

/-- Reads one word. -/
def next (g : Generator) : UInt32 × Generator := (g.word, g.skip 1)

/-- Reads two words as one number, the low half first. -/
def next64 (g : Generator) : UInt64 × Generator :=
  (g.word.toUInt64 ||| ((g.skip 1).word.toUInt64 <<< 32), g.skip 2)

/-- The greatest low half that a roll below `bound` accepts. It is one less than a multiple of
`bound` by a power of two, the largest that fits a word, which keeps the accepted words evenly
spread over the results. -/
def zone (bound : Nat) : Nat := (bound <<< (31 - bound.log2)) - 1

/-- Reads words until one is accepted, at most `tries` of them. A word `v` is accepted if the low
half of `v * bound` lies in the zone, and the result is then the high half. -/
def rollWithin (bound : Nat) : (tries : Nat) → Generator → Nat × Generator
  | 0, g => (0, g)
  | tries + 1, g =>
    let product := g.word.toNat * bound
    if product % UInt32.size ≤ zone bound then (product / UInt32.size, g.skip 1)
    else rollWithin bound tries (g.skip 1)

/-- A random number below `bound`, for a positive bound of 32 bits. The search for an accepted
word goes once through the whole stream, so it misses none. -/
def roll (bound : Nat) (g : Generator) : Nat × Generator := rollWithin bound ChaCha.period g

/-- Reads `n` numbers below `bound`, in order. -/
def rolls (bound : Nat) : (n : Nat) → Generator → List Nat × Generator
  | 0, g => ([], g)
  | n + 1, g =>
    let (r, g) := g.roll bound
    let (rs, g) := rolls bound n g
    (r :: rs, g)

@[simp] theorem skip_zero (g : Generator) : g.skip 0 = g := rfl

theorem skip_skip (g : Generator) (m n : Nat) : (g.skip m).skip n = g.skip (m + n) := by
  simp [skip, Nat.add_assoc]

/-- The numbers that a roll yields are below its bound. -/
theorem roll_lt {bound : Nat} (hbound : 0 < bound) (g : Generator) : (g.roll bound).1 < bound := by
  rw [roll]
  induction ChaCha.period generalizing g with
  | zero => exact hbound
  | succ tries ih =>
    rw [rollWithin]
    split
    · -- A word is below the size of words, by which its product is divided.
      rw [Nat.div_lt_iff_lt_mul (by decide), Nat.mul_comm bound]
      exact Nat.mul_lt_mul_of_pos_right g.word.toNat_lt hbound
    · exact ih (g.skip 1)

/-- Numbers that are read in two goes are those that are read in one. -/
theorem rolls_add (bound m n : Nat) (g : Generator) :
    g.rolls bound (m + n) = ((g.rolls bound m).1 ++ ((g.rolls bound m).2.rolls bound n).1,
      ((g.rolls bound m).2.rolls bound n).2) := by
  induction m generalizing g with
  | zero => rw [Nat.zero_add, rolls, List.nil_append]
  | succ m ih =>
    rw [Nat.succ_add, rolls, rolls]
    simp only [ih, List.cons_append]

end Generator

end TickTree
