import Mathlib.Tactic.Choose
import TickTree.Random.Shuffle

/-!
# Readers of the random source

A reader asks for words one at a time, decides by what it got so far whether it needs another one,
and comes to a result in the end. It knows nothing of keys and positions. Whatever can be described
by a reader therefore depends on nothing but the words that it gets, and takes them as they come:
from the random source it reads the stretch of the stream that lies ahead, and the source goes on
behind the last word read.

How many words are read depends on the words, as with numbers that are drawn again if they are
rejected. Something that is done after a reading, with what it gave, is a reading again, so that
whole evaluations are readings if their steps are.

## Main definitions

* `Reader`: something that reads words
* `Reader.run`, `Reader.feed`: reading from the random source, and from a list of words
* `Reader.words`: the words that are read from the random source
* `Reader.CanReturn`: the results that there are words for
* `Reader.roll`, `Reader.draws`: reading a number below a bound, and the draws of a shuffle
* `Generator.stretch`: the words that lie ahead in the stream
* `Reading`: what is described by a reader

## Main results

* `Reader.words_eq_stretch`, `Reader.run_snd`: a reader takes the words that lie ahead, in order
* `Reader.feed_words`: the result depends on these words only
* `Reader.canReturn_bind_iff`: what readers one after the other can return
* `Reading.bind`: readings one after the other are a reading
* `Reading.next64`, `Reading.roll`, `Reading.shuffle`: whatever is drawn is a reading
-/

namespace TickTree

/-! ### The stream ahead -/

namespace Generator

/-- The next `n` words of the stream. -/
def stretch (g : Generator) (n : Nat) : List UInt32 :=
  (List.range' g.consumed n).map (ChaCha.word g.key)

@[simp] theorem stretch_zero (g : Generator) : g.stretch 0 = [] := rfl

theorem stretch_succ (g : Generator) (n : Nat) :
    g.stretch (n + 1) = g.word :: (g.skip 1).stretch n := rfl

/-- Where one stretch ends, the next one begins. -/
theorem stretch_add (g : Generator) (m n : Nat) :
    g.stretch (m + n) = g.stretch m ++ (g.skip m).stretch n := by
  simp [stretch, skip, ← List.map_append, List.range'_append_1]

end Generator

/-! ### Readers -/

/-- Something that reads words until it has a result. -/
inductive Reader (α : Type)
  /-- The result is there. -/
  | done (value : α)
  /-- One more word is needed, and decides how to go on. -/
  | ask (next : UInt32 → Reader α)

namespace Reader

variable {α β : Type}

/-- Goes on with the result of a reader. -/
def bind : Reader α → (α → Reader β) → Reader β
  | done a, next => next a
  | ask read, next => ask fun w => (read w).bind next

/-- Changes the result of a reader. -/
def map (f : α → β) (reader : Reader α) : Reader β := reader.bind fun a => done (f a)

/-- Reads from the random source. -/
def run : Reader α → Generator → α × Generator
  | done a, g => (a, g)
  | ask next, g => (next g.word).run (g.skip 1)

/-- The words that are read from the random source, in order. -/
def words : Reader α → Generator → List UInt32
  | done _, _ => []
  | ask next, g => g.word :: (next g.word).words (g.skip 1)

/-- Reads all words of a list. There is no result if they are too few or too many. -/
def feed : Reader α → List UInt32 → Option α
  | done a, [] => some a
  | ask next, w :: ws => (next w).feed ws
  | _, _ => none

theorem run_bind (reader : Reader α) (next : α → Reader β) (g : Generator) :
    (reader.bind next).run g = (next (reader.run g).1).run (reader.run g).2 := by
  induction reader generalizing g with
  | done a => rfl
  | ask read ih => exact ih g.word (g.skip 1)

theorem run_map (f : α → β) (reader : Reader α) (g : Generator) :
    (reader.map f).run g = (f (reader.run g).1, (reader.run g).2) := run_bind ..

/-- The random source goes on behind the last word read. -/
theorem run_snd (reader : Reader α) (g : Generator) :
    (reader.run g).2 = g.skip (reader.words g).length := by
  induction reader generalizing g with
  | done a => rfl
  | ask next ih =>
    rw [run, ih, words, Generator.skip_skip, List.length_cons, Nat.add_comm]

/-- The words that are read are those that lie ahead. -/
theorem words_eq_stretch (reader : Reader α) (g : Generator) :
    reader.words g = g.stretch (reader.words g).length := by
  induction reader generalizing g with
  | done a => rfl
  | ask next ih =>
    rw [words, List.length_cons, Generator.stretch_succ, ← ih]

/-- The result depends on the words that are read, and on nothing else. -/
theorem feed_words (reader : Reader α) (g : Generator) :
    reader.feed (reader.words g) = some (reader.run g).1 := by
  induction reader generalizing g with
  | done a => rfl
  | ask next ih => exact ih g.word (g.skip 1)

/-- There are words for which this is the result. -/
def CanReturn (reader : Reader α) (a : α) : Prop := ∃ ws, reader.feed ws = some a

@[simp] theorem canReturn_done_iff {a b : α} : (done b).CanReturn a ↔ a = b := by
  constructor
  · rintro ⟨_ | ⟨w, ws⟩, h⟩
    · exact (Option.some.inj h).symm
    · cases h
  · rintro rfl
    exact ⟨[], rfl⟩

@[simp] theorem canReturn_ask_iff {next : UInt32 → Reader α} {a : α} :
    (ask next).CanReturn a ↔ ∃ w, (next w).CanReturn a := by
  constructor
  · rintro ⟨_ | ⟨w, ws⟩, h⟩
    · cases h
    · exact ⟨w, ws, h⟩
  · rintro ⟨w, ws, h⟩
    exact ⟨w :: ws, h⟩

theorem canReturn_bind_iff {reader : Reader α} {next : α → Reader β} {b : β} :
    (reader.bind next).CanReturn b ↔ ∃ a, reader.CanReturn a ∧ (next a).CanReturn b := by
  induction reader with
  | done a => simp [bind]
  | ask read ih =>
    simp only [bind, canReturn_ask_iff, ih]
    constructor
    · rintro ⟨w, a, ha, hb⟩
      exact ⟨a, ⟨w, ha⟩, hb⟩
    · rintro ⟨a, ⟨w, ha⟩, hb⟩
      exact ⟨w, a, ha, hb⟩

theorem canReturn_map_iff {f : α → β} {reader : Reader α} {b : β} :
    (reader.map f).CanReturn b ↔ ∃ a, reader.CanReturn a ∧ b = f a := by
  simp only [map, canReturn_bind_iff, canReturn_done_iff]

/-- What happens to the random source, and what comes of it if anything does, is described by a
reader. -/
def Describes (reader : Reader (Option α)) (f : Generator → Option (α × Generator)) : Prop :=
  ∀ g, f g = (reader.run g).1.map fun a => (a, (reader.run g).2)

/-! ### Readers of draws -/

/-- Reads words until one is accepted for a number below the bound, at most `tries` of them. -/
def rollWithin (bound : Nat) : (tries : Nat) → Reader Nat
  | 0 => done 0
  | tries + 1 => ask fun w =>
    let product := w.toNat * bound
    if product % UInt32.size ≤ Generator.zone bound then done (product / UInt32.size)
    else rollWithin bound tries

/-- Reads a number below a bound. -/
def roll (bound : Nat) : Reader Nat := rollWithin bound ChaCha.period

/-- Reads draws for the places `n, …, 2, 1`, each from the places up to it. -/
def draws : (n : Nat) → Reader (List Nat)
  | 0 => done []
  | n + 1 => (roll (n + 2)).bind fun j => (draws n).map (j :: ·)

theorem run_rollWithin (bound tries : Nat) (g : Generator) :
    (rollWithin bound tries).run g = g.rollWithin bound tries := by
  induction tries generalizing g with
  | zero => rfl
  | succ tries ih =>
    rw [rollWithin, run, Generator.rollWithin, ← ih]
    exact apply_ite (fun reader : Reader Nat => reader.run (g.skip 1)) _ _ _

theorem run_roll (bound : Nat) (g : Generator) : (roll bound).run g = g.roll bound :=
  run_rollWithin bound ChaCha.period g

theorem run_draws (n : Nat) (g : Generator) : (draws n).run g = Shuffle.draws n g := by
  induction n generalizing g with
  | zero => rfl
  | succ n ih =>
    rw [draws, run_bind, run_map, run_roll, ih]
    rfl

end Reader

/-! ### Readings -/

/-- What happens to the random source is that words are read from it, and what comes of it depends
on these. -/
def Reading {α : Type} (f : Generator → Option (α × Generator)) : Prop :=
  ∃ reader : Reader (Option α), reader.Describes f

namespace Reading

variable {α β : Type} {f : Generator → Option (α × Generator)}

theorem congr {f' : Generator → Option (α × Generator)} (h : Reading f) (heq : ∀ g, f' g = f g) :
    Reading f' := (funext heq : f' = f) ▸ h

theorem pure (a : α) : Reading fun g => some (a, g) := ⟨.done (some a), fun _ => rfl⟩

theorem fail : Reading fun _ => (none : Option (α × Generator)) := ⟨.done none, fun _ => rfl⟩

theorem next : Reading fun g => some g.next := ⟨.ask fun w => .done (some w), fun _ => rfl⟩

/-- A reader describes what it does. -/
theorem of_reader (reader : Reader α) : Reading fun g => some (reader.run g) :=
  ⟨reader.map some, fun g => by rw [Reader.run_map]; rfl⟩

/-- Readings one after the other are a reading. -/
theorem bind {next : α → Generator → Option (β × Generator)} (h : Reading f)
    (hnext : ∀ a, Reading (next a)) : Reading fun g => (f g).bind fun (a, g) => next a g := by
  obtain ⟨reader, hreader⟩ := h
  choose more hmore using hnext
  -- Where the first reading comes to nothing, no further word is read.
  refine ⟨reader.bind fun found => found.elim (.done none) more, fun g => ?_⟩
  change (f g).bind _ = _
  rw [hreader g, Reader.run_bind]
  rcases (reader.run g).1 with _ | a
  · rfl
  · exact hmore a _

theorem map (f' : α → β) (h : Reading f) :
    Reading fun g => (f g).map fun (a, g) => (f' a, g) :=
  (h.bind fun a => pure (f' a)).congr fun g => by rcases f g with _ | ⟨a, g'⟩ <;> rfl

/-! ### What is drawn -/

/-- A number of two words is read as one word after the other, the low half first. -/
theorem next64 : Reading fun g => some g.next64 :=
  next.bind fun low => next.map fun high : UInt32 => low.toUInt64 ||| (high.toUInt64 <<< 32)

theorem roll (bound : Nat) : Reading fun g => some (g.roll bound) :=
  (of_reader (.roll bound)).congr fun g => by rw [Reader.run_roll]

theorem draws (n : Nat) : Reading fun g => some (Shuffle.draws n g) :=
  (of_reader (.draws n)).congr fun g => by rw [Reader.run_draws]

theorem shuffle (n : Nat) : Reading fun g => some (g.shuffle n) :=
  (draws (n - 1)).map (Shuffle.order n)

end Reading

end TickTree
