import TickTree.Proofs.Doors.PlainLoop

/-!
# The journal of a visit

What the agent does at one door has a small number of forms, which are called blocks. The journal
of an attempt is the blocks of the doors in order: blocks of doors that failed, for all doors or up
to a door that led into the building. Every such row of blocks is the journal of some attempt, and
the journal tells everything about the attempt but the numbers that were drawn.

A block can be read off the front of a list of outcomes, as no block begins with another one. So
two attempts with the same journal have the same blocks, and the blocks say what the attempt makes
of the visit.

## Main definitions

* `Way`, `Block`: how a door was opened, and what happened at it
* `blockAt`, `blocksOf`: the blocks of an attempt, by the policies and the random source
* `IsRecord`: the rows of blocks that an attempt can leave in the journal
* `scripts`: policies that lead to given blocks

## Main results

* `Attempt.tryDoors_eq`: what an attempt does is a function of its blocks
* `Block.read_append`, `record_injective`: the blocks can be read off the journal
* `journal_records_attempt`: the journals of attempts, and what two attempts with the same journal
  have in common
-/

namespace TickTree

/-- How a door was got open. -/
inductive Way
  | opened
  | unlocked
  | smashed
  deriving DecidableEq, Repr

/-- What happened at a door. -/
inductive Block
  /-- The agent did not get to the door. -/
  | unreached
  /-- The door stayed shut. -/
  | shut
  /-- The door was open, but the agent did not get through. -/
  | blocked (way : Way)
  /-- The agent got through and may have closed the door. -/
  | passed (way : Way) (closed : Bool)
  deriving DecidableEq, Repr

/-- The actions by which a door was got open, with their outcomes. -/
def Way.outcomes : Way → List (ActionKind × Bool)
  | opened => [(.opening, true)]
  | unlocked => [(.opening, false), (.unlocking, true)]
  | smashed => [(.opening, false), (.unlocking, false), (.smashing, true)]

namespace Block

/-- The actions at a door, with their outcomes. -/
def outcomes : Block → List (ActionKind × Bool)
  | unreached => [(.walkTo, false)]
  | shut => [(.walkTo, true), (.opening, false), (.unlocking, false), (.smashing, false)]
  | blocked way => (.walkTo, true) :: way.outcomes ++ [(.walkThrough, false)]
  | passed way closed =>
    (.walkTo, true) :: way.outcomes ++ [(.walkThrough, true), (.closing, closed)]

/-- The agent is in the building. -/
def passes : Block → Bool
  | passed _ _ => true
  | _ => false

/-- The entries of a block in the journal. -/
def entries (b : Block) (door : Door) : List JournalEntry :=
  b.outcomes.map fun (kind, succeeded) => ⟨kind.name, some door.number, succeeded⟩

end Block

/-- The entries of a row of blocks, one at each door. -/
def record (doors : List Door) (blocks : List Block) : List JournalEntry :=
  (List.zipWith (fun door b => b.entries door) doors blocks).flatten

/-- The blocks of an attempt at `n` doors: all doors failed, or some did and the next one led into
the building. -/
def IsAttempt (n : Nat) (blocks : List Block) : Prop :=
  (blocks.length = n ∧ ∀ b ∈ blocks, b.passes = false) ∨
    ∃ failing last, blocks = failing ++ [last] ∧ failing.length < n ∧
      (∀ b ∈ failing, b.passes = false) ∧ last.passes = true

/-- A journal consists of the blocks of an attempt at the doors of a building. -/
def IsRecord (building : Building) (journal : List JournalEntry) : Prop :=
  ∃ blocks, IsAttempt building.doorCount blocks ∧ journal = record building.doors blocks

/-! ### The blocks of an attempt -/

/-- How the policies get a door open, if they do. -/
def wayAt (p : ByAction Policy) (door : Door) (g : Generator) : Option Way × Generator :=
  match p.opening.outcome door g with
  | (true, g) => (some .opened, g)
  | (false, g) =>
    match p.unlocking.outcome door g with
    | (true, g) => (some .unlocked, g)
    | (false, g) =>
      match p.smashing.outcome door g with
      | (true, g) => (some .smashed, g)
      | (false, g) => (none, g)

/-- What the policies make happen at a door. -/
def blockAt (p : ByAction Policy) (door : Door) (g : Generator) : Block × Generator :=
  match p.walkTo.outcome door g with
  | (false, g) => (.unreached, g)
  | (true, g) =>
    match wayAt p door g with
    | (none, g) => (.shut, g)
    | (some way, g) =>
      match p.walkThrough.outcome door g with
      | (false, g) => (.blocked way, g)
      | (true, g) =>
        match p.closing.outcome door g with
        | (closed, g) => (.passed way closed, g)

/-- The blocks of an attempt at doors. -/
def blocksOf (p : ByAction Policy) : List Door → Generator → List Block × Generator
  | [], g => ([], g)
  | door :: rest, g =>
    match blockAt p door g with
    | (b, g) =>
      if b.passes then ([b], g)
      else
        match blocksOf p rest g with
        | (blocks, g) => (b :: blocks, g)

namespace IsAttempt

variable {n : Nat} {b : Block} {blocks : List Block}

theorem nil : IsAttempt 0 [] := .inl ⟨rfl, by simp⟩

theorem passed (h : b.passes = true) : IsAttempt (n + 1) [b] :=
  .inr ⟨[], b, rfl, Nat.succ_pos n, by simp, h⟩

theorem failed (hb : b.passes = false) (h : IsAttempt n blocks) :
    IsAttempt (n + 1) (b :: blocks) := by
  rcases h with ⟨hlength, hfail⟩ | ⟨failing, last, rfl, hlength, hfail, hlast⟩
  · exact .inl ⟨by rw [List.length_cons, hlength], by simpa [hb] using hfail⟩
  · refine .inr ⟨b :: failing, last, rfl, ?_, by simpa [hb] using hfail, hlast⟩
    rw [List.length_cons]
    omega

/-- An attempt has at most one block at each door. -/
theorem length_le (h : IsAttempt n blocks) : blocks.length ≤ n := by
  rcases h with ⟨hlength, -⟩ | ⟨failing, last, rfl, hlength, -, -⟩
  · exact Nat.le_of_eq hlength
  · rw [List.length_append, List.length_singleton]
    omega

/-- Without a door nothing happens. -/
theorem eq_nil (h : IsAttempt 0 blocks) : blocks = [] :=
  List.eq_nil_of_length_eq_zero (Nat.le_zero.1 h.length_le)

/-- At a first door there is a block, and the attempt goes on only if it failed. -/
theorem of_succ (h : IsAttempt (n + 1) blocks) :
    ∃ b rest, blocks = b :: rest ∧
      ((b.passes = true ∧ rest = []) ∨ (b.passes = false ∧ IsAttempt n rest)) := by
  rcases h with ⟨hlength, hfail⟩ | ⟨failing, last, rfl, hlength, hfail, hlast⟩
  · obtain ⟨b, rest, rfl⟩ := List.exists_cons_of_length_eq_add_one hlength
    have hrest : rest.length = n := by simpa using hlength
    exact ⟨b, rest, rfl, .inr ⟨hfail b (by simp), .inl ⟨hrest, fun c hc => hfail c (by simp [hc])⟩⟩⟩
  · rcases failing with _ | ⟨b, failing⟩
    · exact ⟨last, [], rfl, .inl ⟨hlast, rfl⟩⟩
    · have hrest : failing.length < n := by simpa using hlength
      exact ⟨b, failing ++ [last], rfl, .inr ⟨hfail b (by simp),
        .inr ⟨failing, last, rfl, hrest, fun c hc => hfail c (by simp [hc]), hlast⟩⟩⟩

end IsAttempt

/-- The policies lead to the blocks of an attempt. -/
theorem isAttempt_blocksOf (p : ByAction Policy) (doors : List Door) (g : Generator) :
    IsAttempt doors.length (blocksOf p doors g).1 := by
  induction doors generalizing g with
  | nil => exact .nil
  | cons door rest ih =>
    rw [blocksOf, List.length_cons]
    cases hb : (blockAt p door g).1.passes with
    | true =>
      simp only [hb, if_true]
      exact .passed hb
    | false =>
      simp only [hb, Bool.false_eq_true, if_false]
      exact .failed hb (ih _)

/-! ### What the blocks do -/

namespace Attempt

/-- Takes down the outcomes of several actions. -/
def enterAll (a : Attempt) (door : Door) (outcomes : List (ActionKind × Bool)) : Attempt :=
  outcomes.foldl (fun a (kind, succeeded) => a.enter kind door succeeded) a

/-- What a block does in front of a door. -/
def undergo (a : Attempt) (door : Door) (b : Block) : Attempt :=
  if b.passes then (a.enterAll door b.outcomes).use door else a.enterAll door b.outcomes

/-- What blocks do at doors, after `failed` doors. -/
def replay (failed : Nat) : List Door → List Block → Attempt → Attempt
  | door :: rest, b :: blocks, a =>
    if b.passes then ((a.stepUp door rest).undergo door b).say (.untilFailFinished failed)
    else replay (failed + 1) rest blocks ((a.stepUp door rest).undergo door b)
  | _, _, a => a.say (.untilFailFinished failed)

variable (p : ByAction Policy) (door : Door) (a : Attempt) (g : Generator)

theorem getOpen_eq :
    a.getOpen p door g = match wayAt p door g with
      | (some way, g) => (true, a.enterAll door way.outcomes, g)
      | (none, g) => (false,
          a.enterAll door [(.opening, false), (.unlocking, false), (.smashing, false)], g) := by
  simp only [getOpen, act, wayAt, ByAction.get]
  rcases p.opening.outcome door g with ⟨_ | _, g₁⟩
  case true => rfl
  rcases hunlock : p.unlocking.outcome door g₁ with ⟨_ | _, g₂⟩
  case true => simp [hunlock, enterAll, Way.outcomes]
  rcases hsmash : p.smashing.outcome door g₂ with ⟨_ | _, g₃⟩ <;>
    simp [hunlock, hsmash, enterAll, Way.outcomes]

/-- What the agent does at a door is what its block does. -/
theorem getThrough_eq :
    a.getThrough p door g = ((blockAt p door g).1.passes, a.undergo door (blockAt p door g).1,
      (blockAt p door g).2) := by
  simp only [getThrough, getOpen_eq, act, blockAt, ByAction.get]
  rcases hwalk : p.walkTo.outcome door g with ⟨_ | _, g₁⟩
  case false => rfl
  rcases hway : wayAt p door g₁ with ⟨_ | way, g₂⟩
  case none => simp [hway, undergo, Block.passes, Block.outcomes, enterAll]
  rcases hpass : p.walkThrough.outcome door g₂ with ⟨_ | _, g₃⟩ <;>
    simp [hway, hpass, undergo, Block.passes, Block.outcomes, enterAll]

/-- What an attempt does at doors is what its blocks do. -/
theorem tryDoors_eq (failed : Nat) (doors : List Door) :
    a.tryDoors p failed doors g =
      (a.replay failed doors (blocksOf p doors g).1, (blocksOf p doors g).2) := by
  induction doors generalizing failed a g with
  | nil => rfl
  | cons door rest ih =>
    rw [tryDoors, getThrough_eq, blocksOf]
    cases hb : (blockAt p door g).1.passes with
    | true => simp [hb, replay]
    | false => simp [hb, replay, ih]

end Attempt

/-! ### The entries of the blocks -/

namespace Attempt

variable (a : Attempt) (door : Door)

theorem enterAll_eq (outcomes : List (ActionKind × Bool)) :
    a.enterAll door outcomes =
      ⟨{ a.visit with
          journal := a.visit.journal ++ (outcomes.map fun (kind, succeeded) =>
            (⟨kind.name, some door.number, succeeded⟩ : JournalEntry)).toArray },
        a.report ++ outcomes.map fun (kind, succeeded) =>
          .note (.acted kind.name (some door.number) succeeded)⟩ := by
  induction outcomes generalizing a with
  | nil => simp [enterAll]
  | cons outcome outcomes ih =>
    obtain ⟨kind, succeeded⟩ := outcome
    change enterAll (a.enter kind door succeeded) door outcomes = _
    rw [ih]
    simp [enter]

/-- What a block does in front of a door: its entries are taken down and reported, and the door is
remembered if it led into the building. -/
theorem undergo_eq (b : Block) :
    a.undergo door b =
      ⟨{ a.visit with
          used := if b.passes then some door else a.visit.used
          journal := a.visit.journal ++ (b.entries door).toArray },
        a.report ++ (b.entries door).map (fun entry =>
            .note (.acted entry.action entry.door entry.succeeded)) ++
          if b.passes then
            [.note (.moved (.assigned "used_door" (toString door) "current_door"))]
          else []⟩ := by
  rw [undergo, Block.entries, List.map_map]
  cases b.passes with
  | true => simp [use, enterAll_eq]
  | false => simp [enterAll_eq]

/-- The blocks of an attempt are what enters the journal. -/
theorem journal_replay (failed : Nat) {doors : List Door} {blocks : List Block}
    (h : IsAttempt doors.length blocks) :
    (a.replay failed doors blocks).visit.journal.toList =
      a.visit.journal.toList ++ record doors blocks := by
  induction doors generalizing a failed blocks with
  | nil =>
    obtain rfl := h.eq_nil
    exact (List.append_nil _).symm
  | cons door rest ih =>
    obtain ⟨b, blocks, rfl, ⟨hb, rfl⟩ | ⟨hb, hrest⟩⟩ := h.of_succ
    · rw [replay, if_pos hb, record]
      change ((a.stepUp door rest).undergo door b).visit.journal.toList = _
      simp [undergo_eq, stepUp]
    · rw [replay, if_neg (by simp [hb]), ih _ _ hrest]
      simp [undergo_eq, record, stepUp]

end Attempt

namespace Block

/-- Whether the actions of a block succeeded. -/
def marks (b : Block) : List Bool := b.outcomes.map Prod.snd

/-- Reads a block off the front of a list. -/
def read : List Bool → Option (Block × List Bool)
  | false :: rest => some (.unreached, rest)
  | true :: false :: false :: false :: rest => some (.shut, rest)
  | true :: true :: false :: rest => some (.blocked .opened, rest)
  | true :: false :: true :: false :: rest => some (.blocked .unlocked, rest)
  | true :: false :: false :: true :: false :: rest => some (.blocked .smashed, rest)
  | true :: true :: true :: closed :: rest => some (.passed .opened closed, rest)
  | true :: false :: true :: true :: closed :: rest => some (.passed .unlocked closed, rest)
  | true :: false :: false :: true :: true :: closed :: rest =>
    some (.passed .smashed closed, rest)
  | _ => none

/-- What is read is the block that was written, whatever follows. -/
theorem read_append (b : Block) (rest : List Bool) : read (b.marks ++ rest) = some (b, rest) := by
  cases b with
  | unreached => rfl
  | shut => rfl
  | blocked way => cases way <;> rfl
  | passed way closed => cases way <;> rfl

theorem flatMap_marks_injective {blocks blocks' : List Block}
    (h : blocks.flatMap marks = blocks'.flatMap marks) : blocks = blocks' := by
  induction blocks generalizing blocks' with
  | nil =>
    rcases blocks' with _ | ⟨b', blocks'⟩
    · rfl
    · have hread := congrArg read h
      rw [List.flatMap_cons, read_append] at hread
      exact nomatch hread
  | cons b blocks ih =>
    rcases blocks' with _ | ⟨b', blocks'⟩
    · have hread := congrArg read h
      rw [List.flatMap_cons, read_append] at hread
      exact nomatch hread
    · have hread := congrArg read h
      rw [List.flatMap_cons, List.flatMap_cons, read_append, read_append] at hread
      obtain ⟨rfl, hrest⟩ := Prod.mk.inj (Option.some.inj hread)
      rw [ih hrest]

end Block

theorem marks_record {doors : List Door} {blocks : List Block}
    (h : blocks.length ≤ doors.length) :
    (record doors blocks).map JournalEntry.succeeded = blocks.flatMap Block.marks := by
  induction blocks generalizing doors with
  | nil =>
    rw [record, List.zipWith_nil_right]
    rfl
  | cons b blocks ih =>
    rcases doors with _ | ⟨door, rest⟩
    · exact absurd h (by simp)
    · have hrest : blocks.length ≤ rest.length := by simpa using h
      have hentries : (b.entries door).map JournalEntry.succeeded = b.marks := by
        rw [Block.entries, List.map_map]
        rfl
      rw [List.flatMap_cons, ← ih hrest, ← hentries, ← List.map_append]
      rfl

/-- The blocks can be read off the journal. -/
theorem record_injective {doors : List Door} {blocks blocks' : List Block}
    (h : blocks.length ≤ doors.length) (h' : blocks'.length ≤ doors.length)
    (hrecord : record doors blocks = record doors blocks') : blocks = blocks' := by
  apply Block.flatMap_marks_injective
  rw [← marks_record h, ← marks_record h', hrecord]

/-! ### Policies for given blocks -/

namespace Block

/-- How the door was got open, if it was. -/
def way? : Block → Option Way
  | blocked way => some way
  | passed way _ => some way
  | _ => none

/-- The agent closed the door. -/
def closes : Block → Bool
  | passed _ closed => closed
  | _ => false

end Block

/-- Scripted policies by which a given block happens at each door. -/
def scripts (f : Door → Block) : ByAction Policy where
  walkTo := .script fun door => f door ≠ .unreached
  opening := .script fun door => (f door).way? = some .opened
  unlocking := .script fun door => (f door).way? = some .unlocked
  smashing := .script fun door => (f door).way? = some .smashed
  walkThrough := .script fun door => (f door).passes
  closing := .script fun door => (f door).closes

theorem blockAt_scripts (f : Door → Block) (door : Door) (g : Generator) :
    blockAt (scripts f) door g = (f door, g) := by
  -- Each policy compares the door's block with the one that it stands for.
  cases hf : f door with
  | unreached => simp [blockAt, scripts, Policy.outcome, hf]
  | shut => simp [blockAt, wayAt, scripts, Policy.outcome, hf, Block.way?]
  | blocked way =>
    cases way <;> simp [blockAt, wayAt, scripts, Policy.outcome, hf, Block.way?, Block.passes]
  | passed way closed =>
    cases way <;>
      simp [blockAt, wayAt, scripts, Policy.outcome, hf, Block.way?, Block.passes, Block.closes]

theorem blocksOf_scripts {f : Door → Block} {doors : List Door} {blocks : List Block}
    (h : IsAttempt doors.length blocks) (hf : blocks <+: doors.map f) (g : Generator) :
    blocksOf (scripts f) doors g = (blocks, g) := by
  induction doors generalizing blocks with
  | nil =>
    obtain rfl := h.eq_nil
    rfl
  | cons door rest ih =>
    obtain ⟨b, blocks, rfl, hrest⟩ := h.of_succ
    obtain ⟨rfl, hprefix⟩ := List.cons_prefix_cons.1 hf
    rw [blocksOf, blockAt_scripts]
    rcases hrest with ⟨hb, rfl⟩ | ⟨hb, hrest⟩
    · simp [hb]
    · simp [hb, ih hrest hprefix]

/-- Every row of blocks of an attempt happens under some policies, whatever is drawn. -/
theorem exists_blocksOf_eq {building : Building} {blocks : List Block}
    (h : IsAttempt building.doorCount blocks) :
    ∃ p, ∀ g, blocksOf p building.doors g = (blocks, g) := by
  let f (door : Door) : Block := blocks.getD (door.number - 1) .unreached
  refine ⟨scripts f, blocksOf_scripts (by simpa using h) ?_⟩
  -- The block at door `i + 1` is number `i` of the row.
  rw [List.prefix_iff_getElem?]
  intro i hi
  have hdoor : i < building.doorCount := Nat.lt_of_lt_of_le hi h.length_le
  simp [Building.doors, f, hdoor, hi]

/-! ### The journal as a record -/

/-- What an attempt with these blocks makes of a visit, and its status. -/
def replayed (visit : Visit) (blocks : List Block) : Status × Attempt :=
  let a := Attempt.replay 0 visit.entrances blocks (.begin visit)
  let status := Status.ofBool a.visit.used.isSome
  (status, a.say (.evaluated status))

theorem plainLoop_eq (p : ByAction Policy) (visit : Visit) (g : Generator) :
    plainLoop p visit g =
      ((replayed visit (blocksOf p visit.entrances g).1).1,
        (replayed visit (blocksOf p visit.entrances g).1).2, (blocksOf p visit.entrances g).2) := by
  rw [plainLoop, Attempt.tryDoors_eq]
  rfl

/-- The run on a new visit, by the blocks of the attempt. -/
theorem Plan.run_of (p : ByAction Policy) (building : Building) (g : Generator) :
    ∃ blocks t, IsAttempt building.doorCount blocks ∧ (blocksOf p building.doors g).1 = blocks ∧
      Plan.run (Plan.tree p) (.of building) g = some (.ok (replayed (.of building) blocks).1, t) ∧
      t.world.context = (replayed (.of building) blocks).2.visit ∧
      t.events = (replayed (.of building) blocks).2.report ∧
      t.world.context.journal.toList = record building.doors blocks := by
  have hattempt := isAttempt_blocksOf p building.doors g
  obtain ⟨t, hrun, hshown⟩ := Plan.run_eq_plainLoop p (.of building) g
  rw [plainLoop_eq] at hrun hshown
  refine ⟨_, t, building.length_doors ▸ hattempt, rfl, hrun, hshown.visit, hshown.report, ?_⟩
  rw [hshown.visit]
  exact Attempt.journal_replay (.begin (.of building)) 0 hattempt

/-- The journal is an exact record of an attempt. For a new visit to any building and any random
source, the journals that runs can leave, over all policies, are the rows of blocks of an attempt.
And two runs that leave the same journal, under any policies and with any random sources, end with
the same status, the same visit and the same report. -/
theorem journal_records_attempt (building : Building) :
    (∀ (g : Generator) (journal : List JournalEntry),
      (∃ p v t, Plan.run (Plan.tree p) (.of building) g = some (v, t) ∧
        t.world.context.journal.toList = journal) ↔ IsRecord building journal) ∧
    ∀ (p p' : ByAction Policy) (g g' : Generator) (v v' : Verdict)
      (t t' : Scene DoorLeaf Visit DoorNote),
      Plan.run (Plan.tree p) (.of building) g = some (v, t) →
      Plan.run (Plan.tree p') (.of building) g' = some (v', t') →
      t.world.context.journal = t'.world.context.journal →
        v = v' ∧ t.world.context = t'.world.context ∧ t.events = t'.events := by
  constructor
  · intro g journal
    constructor
    · rintro ⟨p, v, t, hrun, rfl⟩
      obtain ⟨blocks, t', hattempt, -, hrun', -, -, hjournal⟩ := Plan.run_of p building g
      rw [hrun] at hrun'
      obtain ⟨rfl, rfl⟩ := Prod.mk.inj (Option.some.inj hrun')
      exact ⟨blocks, hattempt, hjournal⟩
    · rintro ⟨blocks, hattempt, rfl⟩
      obtain ⟨p, hp⟩ := exists_blocksOf_eq hattempt
      obtain ⟨blocks', t, -, hblocks, hrun, -, -, hjournal⟩ := Plan.run_of p building g
      rw [hp g] at hblocks
      rw [← hblocks] at hjournal
      exact ⟨p, _, t, hrun, hjournal⟩
  · intro p p' g g' v v' t t' hrun hrun' hsame
    have hlength : building.doors.length = building.doorCount := by simp [Building.doors]
    obtain ⟨blocks, u, hattempt, -, hu, hcontext, hevents, hjournal⟩ := Plan.run_of p building g
    obtain ⟨blocks', u', hattempt', -, hu', hcontext', hevents', hjournal'⟩ :=
      Plan.run_of p' building g'
    obtain ⟨rfl, rfl⟩ := Prod.mk.inj (Option.some.inj (hrun.symm.trans hu))
    obtain ⟨rfl, rfl⟩ := Prod.mk.inj (Option.some.inj (hrun'.symm.trans hu'))
    -- The journal determines the blocks, and the blocks determine the rest.
    have hrecord : record building.doors blocks = record building.doors blocks' := by
      rw [← hjournal, ← hjournal', hsame]
    obtain rfl := record_injective (hlength ▸ hattempt.length_le) (hlength ▸ hattempt'.length_le)
      hrecord
    exact ⟨rfl, hcontext.trans hcontext'.symm, hevents.trans hevents'.symm⟩

/-- An agent for whom everything works, and one whose scripts say so, leave the same journal. -/
theorem journal_records_attempt_always :
    let p := ByAction.ofFn fun _ => Policy.always true
    let p' := ByAction.ofFn fun _ => Policy.script fun _ => true
    ∃ v v' t t', Plan.run (Plan.tree p) (.of ⟨2⟩) (.ofSeed 0) = some (v, t) ∧
      Plan.run (Plan.tree p') (.of ⟨2⟩) (.ofSeed 1) = some (v', t') ∧
      t.world.context.journal.size = 4 ∧ t.world.context.journal = t'.world.context.journal ∧
      v = v' ∧ t.world.context = t'.world.context ∧ t.events = t'.events := by
  intro p p'
  have hfirst : ∃ v t, Plan.run (Plan.tree p) (.of ⟨2⟩) (.ofSeed 0) = some (v, t) ∧
      t.world.context.journal = #[⟨"Walk to door", some 1, true⟩, ⟨"Open door", some 1, true⟩,
        ⟨"Walk through door", some 1, true⟩, ⟨"Close door", some 1, true⟩] := ⟨_, _, rfl, rfl⟩
  have hsecond : ∃ v t, Plan.run (Plan.tree p') (.of ⟨2⟩) (.ofSeed 1) = some (v, t) ∧
      t.world.context.journal = #[⟨"Walk to door", some 1, true⟩, ⟨"Open door", some 1, true⟩,
        ⟨"Walk through door", some 1, true⟩, ⟨"Close door", some 1, true⟩] := ⟨_, _, rfl, rfl⟩
  obtain ⟨v, t, hrun, hjournal⟩ := hfirst
  obtain ⟨v', t', hrun', hjournal'⟩ := hsecond
  have hsame : t.world.context.journal = t'.world.context.journal := by rw [hjournal, hjournal']
  have hsize : t.world.context.journal.size = 4 := by rw [hjournal]; rfl
  exact ⟨v, v', t, t', hrun, hrun', hsize, hsame,
    (journal_records_attempt ⟨2⟩).2 p p' _ _ v v' t t' hrun hrun' hsame⟩

end TickTree
