/-!
# The ChaCha12 word stream

ChaCha with twelve rounds turns a key of eight words into a stream of 32-bit words: block after
block of sixteen words, each block a function of the key and of its number. Reading the stream
therefore needs no state beyond the key and a position.

## Main definitions

* `ChaCha.block`: the sixteen words of one block
* `ChaCha.word`: the word at a position of the stream
* `ChaCha.keyOfSeed`: the key that a 64-bit seed stands for
-/

namespace TickTree.ChaCha

/-- The eight words that select a stream. -/
abbrev Key := Vector UInt32 8

/-- The sixteen words that the rounds mix. -/
abbrev Block := Vector UInt32 16

/-- Rotation of a word to the left, by less than a word. -/
def rotateLeft (x : UInt32) (n : UInt32) : UInt32 := (x <<< n) ||| (x >>> (32 - n))

/-- Rotation of a word to the right, by any amount. -/
def rotateRight (x : UInt32) (n : UInt32) : UInt32 :=
  (x >>> n) ||| (x <<< ((32 - n % 32) % 32))

/-- Mixes the words at four places of a block: add, exclusive or, rotate, four times over. -/
def quarterRound (b : Block) (i j k l : Fin 16) : Block :=
  let b := b.set i (b[i] + b[j])
  let b := b.set l (rotateLeft (b[l] ^^^ b[i]) 16)
  let b := b.set k (b[k] + b[l])
  let b := b.set j (rotateLeft (b[j] ^^^ b[k]) 12)
  let b := b.set i (b[i] + b[j])
  let b := b.set l (rotateLeft (b[l] ^^^ b[i]) 8)
  let b := b.set k (b[k] + b[l])
  b.set j (rotateLeft (b[j] ^^^ b[k]) 7)

/-- Two rounds: one down the columns and one along the diagonals of the four by four block. -/
def doubleRound (b : Block) : Block :=
  let b := quarterRound b 0 4 8 12
  let b := quarterRound b 1 5 9 13
  let b := quarterRound b 2 6 10 14
  let b := quarterRound b 3 7 11 15
  let b := quarterRound b 0 5 10 15
  let b := quarterRound b 1 6 11 12
  let b := quarterRound b 2 7 8 13
  quarterRound b 3 4 9 14

/-- The block before the rounds: four constants, the key, the block's number (low word first)
and two zeros. -/
def initial (key : Key) (number : UInt64) : Block :=
  #v[0x61707865, 0x3320646e, 0x79622d32, 0x6b206574,
    key[0], key[1], key[2], key[3], key[4], key[5], key[6], key[7],
    number.toUInt32, (number >>> 32).toUInt32, 0, 0]

/-- The words of the block with this number: the initial block after twelve rounds, added word
by word to itself before them. -/
def block (key : Key) (number : UInt64) : Block :=
  let start := initial key number
  let mixed := doubleRound (doubleRound (doubleRound
    (doubleRound (doubleRound (doubleRound start)))))
  Vector.zipWith (· + ·) mixed start

/-- The word at a position of the stream. -/
def word (key : Key) (position : Nat) : UInt32 :=
  (block key (UInt64.ofNat (position / 16)))[position % 16]

/-- The number of words after which the stream repeats: block numbers are 64 bits wide, and a block
has sixteen words. -/
def period : Nat := UInt64.size * 16

/-- One step of the linear congruence that spreads a seed over a key. -/
def spread (state : UInt64) : UInt64 := state * 6364136223846793005 + 11634580027462260723

/-- The word that a state of the congruence yields: its high half, folded and rotated. -/
def fold (state : UInt64) : UInt32 :=
  rotateRight ((((state >>> 18) ^^^ state) >>> 27).toUInt32) (state >>> 59).toUInt32

/-- The key that a seed stands for: eight steps of the congruence, each folded to a word. -/
def keyOfSeed (seed : UInt64) : Key :=
  let s1 := spread seed
  let s2 := spread s1
  let s3 := spread s2
  let s4 := spread s3
  let s5 := spread s4
  let s6 := spread s5
  let s7 := spread s6
  let s8 := spread s7
  #v[fold s1, fold s2, fold s3, fold s4, fold s5, fold s6, fold s7, fold s8]

end TickTree.ChaCha
