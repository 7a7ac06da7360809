import Mathlib.Data.List.Forall2
import TickTree.Proofs.Doors.Outcome
import TickTree.Proofs.Random.Evaluation
import TickTree.Proofs.Replay
import TickTree.Random.Shared

/-!
# One stream for all users

Many users draw from the shared random source, one after the other: they draw words and numbers,
shuffle, tick nodes, visit buildings, and some of them panic while they hold the lock. From the time
at which the source is set to a seed, all of them together read the stream of the seed, from its
beginning and without a gap: each user reads the stretch behind the words of the users before it.
What a user reads, and what it makes of it, depends on nothing else. So no trace is left of what
happened before the source was set to the seed, and none of how a user ended.

## Main definitions

* `Use`, `Done`: a use of the source, and what it returned
* `Use.Consumes`: a use reads exactly these words to return what it does
* `Happens`: a history of uses
* `SharedSource.Alike`: no later use tells two sources apart
* `SharedSource.OneStream`: what all users of a source have in common

## Main results

* `Use.exists_consumes`: a use reads the words that lie ahead
* `Happens.exists_stretches`: the uses of a history read one stretch after the other
* `SharedSource.alike_iff`: later uses depend on the random source alone
* `users_share_one_stream`: the law for the source of a process
-/

namespace TickTree

/-! ### Uses -/

/-- A use of the shared random source. -/
inductive Use : Type 1
  /-- The source is set to the start of the stream of a seed. -/
  | reseed (seed : UInt64)
  /-- A word is drawn. -/
  | word
  /-- A number of two words is drawn. -/
  | long
  /-- A number below a bound is drawn. -/
  | roll (bound : Nat)
  /-- An order of so many places is drawn. -/
  | shuffle (count : Nat)
  /-- A node is ticked or a tree is evaluated, and its leaves only read words. -/
  | tick {L C E : Type} [Leaf L C E] (task : Task L)
      (reads : ∀ l, PartOf (.leaf l) task.nodes → Leaf.Reads C l) (limit : Nat)
      (start : Scene.Bare L C E)
  /-- A building is visited. -/
  | visit (config : Config)
  /-- A user locks the source, reads words and returns. If it returns nothing, it panicked. -/
  | user {α : Type} (program : Reader (Option α))

namespace Use

/-- What a use returns, apart from the random source. -/
def Result : Use → Type
  | reseed _ => Unit
  | word => UInt32
  | long => UInt64
  | roll _ => Nat
  | shuffle _ => List Nat
  | @tick L C E _ _ _ _ _ => Verdict × Scene.Bare L C E
  | visit _ => Except EntryError Status × Visit × List (Event DoorNote)
  | @user α _ => Option α

/-- What a use makes of the random source. A use that does not end makes nothing of it. -/
def on : (use : Use) → Generator → Option (use.Result × Generator)
  | reseed seed, _ => some ((), .ofSeed seed)
  | word, g => some g.next
  | long, g => some g.next64
  | roll bound, g => some (g.roll bound)
  | shuffle count, g => some (g.shuffle count)
  | tick task _ limit start, g =>
    (task.behavior limit (start.drawing g)).map fun (v, t) => ((v, t.bare), t.world.generator)
  | visit config, g =>
    (config.enter g).map fun entry =>
      ((entry.result, entry.visit, entry.events), entry.generator)
  | user program, g => some (program.run g)

/-- A use ended in a panic. -/
def panicked : (use : Use) → use.Result → Bool
  | user _, result => result.isNone
  | _, _ => false

/-- Carries out a use of the shared source. -/
def apply (use : Use) (source : SharedSource) : Option (use.Result × SharedSource) := do
  let (result, g) ← use.on source.acquire
  return (result, source.release (use.panicked result) g)

/-- A use leaves the stream as it is, and only reads from it. -/
def Keeps : Use → Prop
  | reseed _ => False
  | visit config => config.seed = none
  | _ => True

/-- A use that returns leaves the random source that it made of the one it found. -/
theorem apply_eq_some_iff {use : Use} {source after : SharedSource} {result : use.Result} :
    use.apply source = some (result, after) ↔
      ∃ g, use.on source.acquire = some (result, g) ∧
        after = source.release (use.panicked result) g := by
  rw [apply]
  rcases use.on source.acquire with _ | ⟨result', g'⟩
  · simp
  · constructor
    · intro h
      obtain ⟨rfl, rfl⟩ := Prod.mk.inj (Option.some.inj h)
      exact ⟨g', rfl, rfl⟩
    · rintro ⟨g, h, rfl⟩
      obtain ⟨rfl, rfl⟩ := Prod.mk.inj (Option.some.inj h)
      rfl

/-- A use depends on nothing but the random source that it finds. -/
theorem exists_apply_of_acquire_eq {use : Use} {source source' next : SharedSource}
    {result : use.Result} (hsource : source.acquire = source'.acquire)
    (h : use.apply source = some (result, next)) :
    ∃ next', use.apply source' = some (result, next') ∧ next.acquire = next'.acquire := by
  obtain ⟨g, hon, rfl⟩ := apply_eq_some_iff.1 h
  rw [hsource] at hon
  refine ⟨_, apply_eq_some_iff.2 ⟨g, hon, rfl⟩, ?_⟩
  rw [SharedSource.acquire_release, SharedSource.acquire_release]

theorem reading {use : Use} (h : use.Keeps) : Reading use.on := by
  cases use with
  | reseed seed => exact h.elim
  | word => exact Reading.next
  | long => exact Reading.next64
  | roll bound => exact Reading.roll bound
  | shuffle count => exact Reading.shuffle count
  | tick task reads limit start => exact Task.reads reads limit start
  | visit config => exact Config.enter_reading h
  | user program => exact Reading.of_reader program

/-- A use reads these words, all of them and in this order, and returns this result. What it reads
is decided word by word, and it has no other access to the random source. -/
def Consumes (use : Use) (result : use.Result) (ws : List UInt32) : Prop :=
  ∃ reader : Reader (Option use.Result), reader.Describes use.on ∧
    reader.feed ws = some (some result)

/-- A use reads the words that lie ahead, and the next one goes on behind them. -/
theorem exists_consumes {use : Use} (hkeeps : use.Keeps) {source after : SharedSource}
    {result : use.Result} (h : use.apply source = some (result, after)) :
    ∃ ws, use.Consumes result ws ∧ ws = source.acquire.stretch ws.length ∧
      after.acquire = source.acquire.skip ws.length := by
  obtain ⟨reader, hreader⟩ := reading hkeeps
  obtain ⟨g, hon, rfl⟩ := apply_eq_some_iff.1 h
  rw [hreader] at hon
  obtain ⟨result', hresult, hpair⟩ := Option.map_eq_some_iff.1 hon
  obtain ⟨rfl, rfl⟩ := Prod.mk.inj hpair
  refine ⟨reader.words source.acquire, ⟨reader, hreader, ?_⟩, reader.words_eq_stretch _, ?_⟩
  · rw [reader.feed_words, hresult]
  · rw [SharedSource.acquire_release, reader.run_snd]

end Use

/-! ### Histories -/

/-- A use of the shared source, and what it returned. -/
structure Done where
  use : Use
  result : use.Result

/-- The words that a use read to return what it did. -/
def Done.Consumed (done : Done) (ws : List UInt32) : Prop := done.use.Consumes done.result ws

/-- With the shared source as it is at first, these uses happen one after the other, return what
they do and leave the source as it is at last. -/
inductive Happens : SharedSource → List Done → SharedSource → Prop
  | nil {source} : Happens source [] source
  | cons {source next after done rest} : done.use.apply source = some (done.result, next) →
      Happens next rest after → Happens source (done :: rest) after

/-- The uses of a history read one stretch of the stream after the other. -/
theorem Happens.exists_stretches {source after : SharedSource} {history : List Done}
    (h : Happens source history after) (hkeeps : ∀ done ∈ history, done.use.Keeps) :
    ∃ stretches, List.Forall₂ Done.Consumed history stretches ∧
      stretches.flatten = source.acquire.stretch stretches.flatten.length ∧
      after.acquire = source.acquire.skip stretches.flatten.length := by
  induction h with
  | nil => exact ⟨[], .nil, rfl, rfl⟩
  | cons hfirst hrest ih =>
    obtain ⟨hkeep, hkeeps⟩ := List.forall_mem_cons.1 hkeeps
    obtain ⟨ws, hws, hstretch, hnext⟩ := Use.exists_consumes hkeep hfirst
    obtain ⟨stretches, hstretches, hflatten, hafter⟩ := ih hkeeps
    rw [hnext] at hflatten hafter
    refine ⟨ws :: stretches, .cons hws hstretches, ?_, ?_⟩
    · rw [List.flatten_cons, List.length_append, Generator.stretch_add, ← hstretch, ← hflatten]
    · rw [hafter, Generator.skip_skip, List.flatten_cons, List.length_append]

namespace SharedSource

/-- No later use tells two sources apart: whatever happens with one of them happens with the other,
and leaves the next user the same random source. -/
def Alike (source source' : SharedSource) : Prop :=
  ∀ history g, (∃ after, Happens source history after ∧ after.acquire = g) ↔
    ∃ after, Happens source' history after ∧ after.acquire = g

/-- What happens with a source happens with every other that holds the same random source. -/
theorem exists_happens_of_acquire_eq {source source' after : SharedSource} {history : List Done}
    (hsource : source.acquire = source'.acquire) (h : Happens source history after) :
    ∃ after', Happens source' history after' ∧ after'.acquire = after.acquire := by
  induction h generalizing source' with
  | nil => exact ⟨source', .nil, hsource.symm⟩
  | cons hfirst hrest ih =>
    obtain ⟨next', hfirst', hnext⟩ := Use.exists_apply_of_acquire_eq hsource hfirst
    obtain ⟨after', hafter, heq⟩ := ih hnext
    exact ⟨after', .cons hfirst' hafter, heq⟩

/-- Later uses depend on nothing but the random source that they find. Neither what the source was
made from nor whether its lock is poisoned makes a difference. -/
theorem alike_iff {source source' : SharedSource} :
    source.Alike source' ↔ source.acquire = source'.acquire := by
  constructor
  · intro h
    obtain ⟨after, hnil, hafter⟩ := (h [] source.acquire).1 ⟨source, .nil, rfl⟩
    cases hnil
    exact hafter.symm
  · intro h history g
    constructor
    · rintro ⟨after, hhappens, rfl⟩
      exact exists_happens_of_acquire_eq h hhappens
    · rintro ⟨after, hhappens, rfl⟩
      exact exists_happens_of_acquire_eq h.symm hhappens

/-- What all users of a shared source have in common, also after the source is set to a seed. -/
structure OneStream (source : SharedSource) (seed : UInt64) : Prop where
  /-- From the time at which the source is set to the seed, the words that the users read are, in
  order, the first words of the stream of the seed. The next user goes on behind them. -/
  shared : ∀ history after, Happens (source.reseed seed) history after →
    (∀ done ∈ history, done.use.Keeps) →
    ∃ stretches, List.Forall₂ Done.Consumed history stretches ∧
      stretches.flatten =
        (List.range stretches.flatten.length).map (ChaCha.word (ChaCha.keyOfSeed seed)) ∧
      after.acquire = (Generator.ofSeed seed).skip stretches.flatten.length
  /-- A user that panics is like every other that reads the same words. -/
  unwound : ∀ {α β : Type} (program : Reader (Option α)) (other : Reader (Option β)),
    program.words source.acquire = other.words source.acquire →
    (source.lend program.run).2.Alike (source.lend other.run).2
  /-- When the source is set to the seed, it is like that of a new process with this seed. -/
  renewed : ∀ entropy, (source.reseed seed).Alike ((fresh entropy).reseed seed)
  /-- A visit to a building with this seed ends, and is the same as in a new process with this
  seed. So is all that comes after it. -/
  revisited : ∀ config entropy, config.seed = some seed → ∃ result after after',
    (Use.visit config).apply source = some (result, after) ∧
    (Use.visit config).apply ((fresh entropy).reseed seed) = some (result, after') ∧
    after.Alike after'

end SharedSource

/-- A visit with a seed does not depend on the random source that it finds. -/
theorem Config.exists_enter_of_seed {config : Config} {seed : UInt64}
    (h : config.seed = some seed) : ∃ entry, ∀ g, config.enter g = some entry := by
  obtain ⟨blocks, g', events, -, -, henter⟩ := config.enter_eq config.doorCount (.ofSeed seed)
  refine ⟨.ofBlocks (doorsBetween 0 config.doorCount) blocks g' events, fun g => ?_⟩
  rw [← henter, Config.enter, Config.enter, Config.reseed, Config.reseed, h]
  rfl

/-- All users share one stream, and none of them loses, repeats or reorders a word. -/
theorem users_share_one_stream (source : SharedSource) (seed : UInt64) :
    source.OneStream seed := by
  constructor
  case shared =>
    intro history after hhappens hkeeps
    obtain ⟨stretches, hstretches, hflatten, hafter⟩ := hhappens.exists_stretches hkeeps
    rw [SharedSource.acquire_reseed] at hflatten hafter
    refine ⟨stretches, hstretches, ?_, hafter⟩
    rw [List.range_eq_range']
    exact hflatten
  case unwound =>
    intro α β program other hwords
    refine SharedSource.alike_iff.2 ?_
    rw [SharedSource.lend, SharedSource.lend, SharedSource.acquire_release,
      SharedSource.acquire_release, program.run_snd, other.run_snd, hwords]
  case renewed =>
    intro entropy
    exact SharedSource.alike_iff.2 (by simp)
  case revisited =>
    intro config entropy hseed
    obtain ⟨entry, hentry⟩ := Config.exists_enter_of_seed hseed
    have happly (source : SharedSource) : (Use.visit config).apply source =
        some ((entry.result, entry.visit, entry.events), source.release false entry.generator) := by
      rw [Use.apply, Use.on, hentry]
      rfl
    refine ⟨_, _, _, happly source, happly _, SharedSource.alike_iff.2 ?_⟩
    rw [SharedSource.acquire_release, SharedSource.acquire_release]

/-- A user draws a word and panics. A tick then reads four words for the order of a random selector
and a roll, of which two are rejected, and the next user gets the sixth. -/
theorem users_share_one_stream_unwinding :
    let source : SharedSource := ⟨.ofSeed 0, none, true⟩
    let panics : Use := .user (.ask fun _ => .done (none : Option Unit))
    let ticks : Use := .tick (.node Workbench.writesAndRolls) (fun l _ => BenchLeaf.reads l) 0
      (Scene.start Workbench.fresh).bare
    ∃ result w after stretches,
      let history : List Done := [⟨panics, none⟩, ⟨ticks, result⟩, ⟨.word, w⟩]
      Happens (source.reseed 2) history after ∧ after.poisoned = true ∧
      List.Forall₂ Done.Consumed history stretches ∧
      stretches.flatten = (List.range 6).map (ChaCha.word (ChaCha.keyOfSeed 2)) ∧
      after.acquire = (Generator.ofSeed 2).skip 6 := by
  intro source panics ticks
  let start : Scene.Bare BenchLeaf Workbench Transfer := (Scene.start Workbench.fresh).bare
  let unwound := (Generator.ofSeed 2).skip 1
  -- The kernel carries out the tick, from the second word on.
  have htick : ((Task.node Workbench.writesAndRolls).behavior 0 (start.drawing unwound)).map
      (fun (_, t) => t.world.generator.consumed) = some 5 := by
    decide +kernel
  obtain ⟨⟨v, t⟩, hrun, hconsumed⟩ := Option.map_eq_some_iff.1 htick
  have hticks : ticks.on unwound = some ((v, t.bare), t.world.generator) := by
    change ((Task.node Workbench.writesAndRolls).behavior 0 (start.drawing unwound)).map _ = _
    rw [hrun]
    rfl
  have hhistory : Happens (source.reseed 2)
      [⟨panics, none⟩, ⟨ticks, (v, t.bare)⟩, ⟨.word, t.world.generator.word⟩]
      ⟨.ofSeed 0, some (t.world.generator.skip 1), true⟩ :=
    .cons rfl (.cons (Use.apply_eq_some_iff.2 ⟨_, hticks, rfl⟩) (.cons rfl .nil))
  obtain ⟨stretches, hstretches, hflatten, hafter⟩ :=
    (users_share_one_stream source 2).shared _ _ hhistory (by simp [Use.Keeps, panics, ticks])
  have hcount : stretches.flatten.length = 6 := by
    have hconsumed' := congrArg Generator.consumed hafter
    rw [SharedSource.acquire_eq] at hconsumed'
    change t.world.generator.consumed + 1 = 0 + stretches.flatten.length at hconsumed'
    have hfive : t.world.generator.consumed = 5 := hconsumed
    omega
  rw [hcount] at hflatten hafter
  exact ⟨_, _, _, stretches, hhistory, rfl, hstretches, hflatten, hafter⟩

end TickTree
