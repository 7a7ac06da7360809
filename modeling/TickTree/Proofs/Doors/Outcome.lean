import TickTree.Proofs.Doors.Journal
import TickTree.Doors.Entry

/-!
# The outcome of an attempt

The blocks of an attempt say what it makes of a visit, and this can be written down without going
through the doors one by one: as many doors are gone as there are blocks, the agent stands at the
last of these, that is the door it used if a block says that it got through, and the entries of
the blocks come after what the journal had. In this form an attempt at some doors and then at
others is easily taken apart.

## Main definitions

* `Visit.conclude`: the visit that an attempt leaves behind, by its blocks
* `Visit.addedSince`: the entries that were added to the journal
* `doorsBetween`: the doors whose numbers lie in a range
* `Entry.ofBlocks`: what is left of a visit, by the blocks of its attempt

## Main results

* `Attempt.visit_replay`: the loop over the doors leaves this visit behind
* `blocksOf_append`: an attempt at more doors goes on where the one at the first doors gave up
* `Visit.attempted_conclude`: the doors that the agent walked to are those that were tried
* `Plan.run_eq_replayed`: the blocks of the attempt leave the same scene as the tree
* `Plan.run_eq_conclude`, `Config.enter_eq`: what the tree makes of a visit, old or new
* `Config.enter_outcome`: where a visit to a building can end
-/

namespace TickTree

namespace Visit

/-- A new visit to these doors. -/
def ofDoors (doors : List Door) : Visit := ⟨doors, [], none, none, #[]⟩

/-- The visit that an attempt at doors leaves behind, by its blocks: there is one for each door that
was tried, and the agent stands at the last of these. -/
def conclude (visit : Visit) (doors : List Door) (blocks : List Block) : Visit :=
  let current := (doors.take blocks.length).getLast?.or visit.current
  { visit with
    doors := doors.drop blocks.length
    current := current
    used := if blocks.any Block.passes then current else visit.used
    journal := visit.journal ++ (record doors blocks).toArray }

/-- The entries that were added to the journal of an earlier state of the visit. -/
def addedSince (visit before : Visit) : List JournalEntry :=
  visit.journal.toList.drop before.journal.size

@[simp] theorem addedSince_conclude (visit : Visit) (doors : List Door) (blocks : List Block) :
    (visit.conclude doors blocks).addedSince visit = record doors blocks := by
  rw [addedSince, conclude, Array.toList_append, ← Array.length_toList, List.drop_left]

end Visit

namespace Attempt

variable (a : Attempt)

/-- The blocks of an attempt say what it makes of the visit. -/
theorem visit_replay (failed : Nat) {doors : List Door} {blocks : List Block}
    (h : IsAttempt doors.length blocks) (hdoors : a.visit.doors = doors) :
    (a.replay failed doors blocks).visit = a.visit.conclude doors blocks := by
  induction doors generalizing a failed blocks with
  | nil =>
    obtain rfl := h.eq_nil
    have hvisit : a.visit = { a.visit with doors := [] } := by rw [← hdoors]
    simpa [replay, say, Visit.conclude, record] using hvisit
  | cons door rest ih =>
    obtain ⟨b, blocks, rfl, ⟨hb, rfl⟩ | ⟨hb, hrest⟩⟩ := h.of_succ
    · rw [replay, if_pos hb]
      change ((a.stepUp door rest).undergo door b).visit = _
      simp [undergo_eq, stepUp, Visit.conclude, record, hb]
    · have hnext : ((a.stepUp door rest).undergo door b).visit.doors = rest := by
        rw [undergo_eq]
        rfl
      rw [replay, if_neg (by simp [hb]), ih _ _ hrest hnext, undergo_eq]
      -- The door that failed is the current one if it is the last.
      simp [stepUp, Visit.conclude, record, hb, List.getLast?_cons]

end Attempt

section Append

variable (p : ByAction Policy)

/-- An attempt at more doors goes on where the one at the first doors gave up. -/
theorem blocksOf_append (doors more : List Door) (g : Generator) :
    blocksOf p (doors ++ more) g =
      if (blocksOf p doors g).1.any Block.passes then blocksOf p doors g
      else ((blocksOf p doors g).1 ++ (blocksOf p more (blocksOf p doors g).2).1,
        (blocksOf p more (blocksOf p doors g).2).2) := by
  induction doors generalizing g with
  | nil => rfl
  | cons door rest ih =>
    rw [List.cons_append, blocksOf, blocksOf]
    -- Only behind a door that failed is there a difference to look for.
    cases hb : (blockAt p door g).1.passes with
    | true => simp [hb]
    | false =>
      simp only [hb, Bool.false_eq_true, if_false, ih, List.any_cons, Bool.false_or]
      split <;> rfl

end Append

theorem record_cons (door : Door) (rest : List Door) (b : Block) (blocks : List Block) :
    record (door :: rest) (b :: blocks) = b.entries door ++ record rest blocks := rfl

theorem record_append_left {doors : List Door} (more : List Door) {blocks : List Block}
    (h : blocks.length ≤ doors.length) : record (doors ++ more) blocks = record doors blocks := by
  induction blocks generalizing doors with
  | nil => simp [record]
  | cons b blocks ih =>
    rcases doors with _ | ⟨door, rest⟩
    · exact absurd h (by simp)
    · have hrest : blocks.length ≤ rest.length := by simpa using h
      have htail : record (rest ++ more) blocks = record rest blocks := ih hrest
      simpa [record] using htail

theorem record_append {doors more : List Door} {blocks blocks' : List Block}
    (h : doors.length = blocks.length) :
    record (doors ++ more) (blocks ++ blocks') = record doors blocks ++ record more blocks' := by
  rw [record, List.zipWith_append h, List.flatten_append]
  rfl

namespace Visit

variable (visit : Visit)

/-- More doors make no difference to an attempt that got through before them. -/
theorem conclude_append_left {doors : List Door} (more : List Door) {blocks : List Block}
    (h : blocks.length ≤ doors.length) : visit.conclude (doors ++ more) blocks =
      { visit.conclude doors blocks with doors := doors.drop blocks.length ++ more } := by
  have htake : (doors ++ more).take blocks.length = doors.take blocks.length :=
    List.take_append_of_le_length h
  have hdrop : (doors ++ more).drop blocks.length = doors.drop blocks.length ++ more :=
    List.drop_append_of_le_length h
  simp only [conclude, htake, hdrop, record_append_left more h]

/-- An attempt that gave up at the first doors is continued at the others. -/
theorem conclude_append {doors more : List Door} {blocks blocks' : List Block}
    (h : doors.length = blocks.length) (hfail : blocks.any Block.passes = false) :
    visit.conclude (doors ++ more) (blocks ++ blocks') =
      (visit.conclude doors blocks).conclude more blocks' := by
  have htake : (doors ++ more).take (blocks ++ blocks').length =
      doors ++ more.take blocks'.length := by
    rw [List.length_append, ← h, List.take_length_add_append]
  have hdrop : (doors ++ more).drop (blocks ++ blocks').length = more.drop blocks'.length := by
    rw [List.length_append, ← h, List.drop_length_add_append]
  have hall : doors.take blocks.length = doors := by rw [← h, List.take_length]
  simp only [conclude, htake, hdrop, hall, record_append h, hfail, List.getLast?_append,
    List.any_append, Bool.false_or, Option.or_assoc, Bool.false_eq_true, if_false,
    Array.append_assoc, List.append_toArray]

end Visit

/-! ### Attempts on a new visit -/

/-- The doors with the numbers from `a + 1` to `b`. -/
def doorsBetween (a b : Nat) : List Door := (List.range' (a + 1) (b - a)).map Door.mk

theorem Building.doors_eq (building : Building) :
    building.doors = doorsBetween 0 building.doorCount := by
  rw [doors, doorsBetween, List.range'_eq_map_range, List.map_map]
  refine List.map_congr_left fun i _ => ?_
  simp [Nat.add_comm]

@[simp] theorem length_doorsBetween (a b : Nat) : (doorsBetween a b).length = b - a := by
  simp [doorsBetween]

theorem doorsBetween_append {a b c : Nat} (h : a ≤ b) (h' : b ≤ c) :
    doorsBetween a b ++ doorsBetween b c = doorsBetween a c := by
  have hstart : b + 1 = a + 1 + (b - a) := by omega
  have hcount : c - a = (b - a) + (c - b) := by omega
  rw [doorsBetween, doorsBetween, doorsBetween, ← List.map_append, hstart, hcount,
    List.range'_append_1]

theorem drop_doorsBetween (k a b : Nat) :
    (doorsBetween a b).drop k = doorsBetween (a + k) b := by
  have hstart : a + 1 + k = a + k + 1 := by omega
  have hcount : b - a - k = b - (a + k) := by omega
  rw [doorsBetween, doorsBetween, ← List.map_drop, List.drop_range', Nat.mul_one, hstart, hcount]

theorem take_doorsBetween {k a b : Nat} (h : a + k ≤ b) :
    (doorsBetween a b).take k = doorsBetween a (a + k) := by
  rw [← doorsBetween_append (Nat.le_add_right a k) h]
  exact List.take_left' (by simp)

theorem getLast?_doorsBetween {a b : Nat} (h : a < b) :
    (doorsBetween a b).getLast? = some ⟨b⟩ := by
  have hcount : b - a ≠ 0 := by omega
  have hlast : a + 1 + (b - a) - 1 = b := by omega
  rw [doorsBetween, List.getLast?_map, List.getLast?_range', if_neg hcount, hlast]
  rfl

theorem map_number_doorsBetween (a b : Nat) :
    (doorsBetween a b).map Door.number = List.range' (a + 1) (b - a) := by
  rw [doorsBetween, List.map_map]
  exact List.map_id _

namespace IsAttempt

variable {n : Nat} {blocks : List Block}

/-- An attempt that gave up has a block at each door. -/
theorem length_eq (h : IsAttempt n blocks) (hfail : blocks.any Block.passes = false) :
    blocks.length = n := by
  rcases h with ⟨hlength, -⟩ | ⟨failing, last, rfl, -, -, hlast⟩
  · exact hlength
  · simp [hlast] at hfail

/-- If there is a door, something happens at it. -/
theorem length_pos (h : IsAttempt n blocks) (hn : 0 < n) : 0 < blocks.length := by
  rcases h with ⟨hlength, -⟩ | ⟨failing, last, rfl, -, -, -⟩
  · omega
  · simp

end IsAttempt

theorem length_pos_of_passes {blocks : List Block} (hpass : blocks.any Block.passes = true) :
    0 < blocks.length := by
  obtain ⟨b, hb, -⟩ := List.any_eq_true.1 hpass
  exact List.length_pos_of_mem hb

namespace Visit

variable (visit : Visit) {doors : List Door} {blocks : List Block}

theorem isSome_getLast?_take (hpos : 0 < blocks.length) (hle : blocks.length ≤ doors.length) :
    (doors.take blocks.length).getLast?.isSome = true := by
  rw [List.getLast?_isSome]
  apply List.ne_nil_of_length_pos
  rw [List.length_take]
  omega

/-- The agent stands at the last door that was tried, whatever was left over. -/
theorem current_conclude (hpos : 0 < blocks.length) (hle : blocks.length ≤ doors.length) :
    (visit.conclude doors blocks).current = (doors.take blocks.length).getLast? :=
  Option.or_of_isSome (isSome_getLast?_take hpos hle)

theorem used_conclude_of_passes (hpass : blocks.any Block.passes = true) :
    (visit.conclude doors blocks).used = (visit.conclude doors blocks).current := by
  rw [conclude, if_pos hpass]

theorem used_conclude_of_fails (hfail : blocks.any Block.passes = false) :
    (visit.conclude doors blocks).used = visit.used := by
  rw [conclude, if_neg (by simp [hfail])]

/-- Of what was left over, only the door that was used can show through. -/
theorem used_conclude_congr {visit visit' : Visit} (hused : visit.used = visit'.used)
    (hle : blocks.length ≤ doors.length) :
    (visit.conclude doors blocks).used = (visit'.conclude doors blocks).used := by
  cases hpass : blocks.any Block.passes with
  | false => rw [used_conclude_of_fails _ hpass, used_conclude_of_fails _ hpass, hused]
  | true =>
    have hpos := length_pos_of_passes hpass
    rw [used_conclude_of_passes _ hpass, used_conclude_of_passes _ hpass,
      current_conclude _ hpos hle, current_conclude _ hpos hle]

theorem isSome_used_conclude (h : IsAttempt doors.length blocks) :
    (visit.conclude doors blocks).used.isSome = (blocks.any Block.passes || visit.used.isSome) := by
  cases hpass : blocks.any Block.passes with
  | false => rw [visit.used_conclude_of_fails hpass, Bool.false_or]
  | true =>
    have hpos := length_pos_of_passes hpass
    rw [visit.used_conclude_of_passes hpass, visit.current_conclude hpos h.length_le,
      isSome_getLast?_take hpos h.length_le, Bool.true_or]

/-- In a building the last door that was tried has the number of doors that were tried. -/
theorem current_conclude_doorsBetween {n : Nat} (hpos : 0 < blocks.length)
    (hle : blocks.length ≤ n) :
    (visit.conclude (doorsBetween 0 n) blocks).current = some ⟨blocks.length⟩ := by
  have hlength : blocks.length ≤ (doorsBetween 0 n).length := by simpa using hle
  have htried : 0 + blocks.length ≤ n := by omega
  have hlast : 0 < 0 + blocks.length := by omega
  rw [visit.current_conclude hpos hlength, take_doorsBetween htried, getLast?_doorsBetween hlast,
    Nat.zero_add]

end Visit

/-! ### The doors that were tried -/

/-- What the entries on walking to a door say about the door. -/
def JournalEntry.walks (entries : List JournalEntry) : List (Option Nat) :=
  (entries.filter fun entry => entry.action = ActionKind.walkTo.name).map door

theorem Visit.attempted_eq (visit : Visit) :
    visit.attempted = (JournalEntry.walks visit.journal.toList).filterMap id := by
  rw [attempted, JournalEntry.walks, List.filterMap_map, List.filterMap_filter]
  simp

theorem JournalEntry.walks_append (entries entries' : List JournalEntry) :
    walks (entries ++ entries') = walks entries ++ walks entries' := by
  rw [walks, List.filter_append, List.map_append]
  rfl

/-- The agent walks to a door once, and before everything else. -/
theorem Block.walks_entries (b : Block) (door : Door) :
    JournalEntry.walks (b.entries door) = [some door.number] := by
  cases b with
  | unreached => rfl
  | shut => rfl
  | blocked way => cases way <;> rfl
  | passed way closed => cases way <;> rfl

theorem walks_record (doors : List Door) (blocks : List Block) :
    JournalEntry.walks (record doors blocks) =
      (doors.take blocks.length).map fun door => some door.number := by
  induction doors generalizing blocks with
  | nil => simp [record, JournalEntry.walks]
  | cons door rest ih =>
    rcases blocks with _ | ⟨b, blocks⟩
    · rfl
    · rw [record_cons, JournalEntry.walks_append, b.walks_entries, ih]
      rfl

/-- The doors that the agent walked to are those that were tried. -/
theorem Visit.attempted_conclude (visit : Visit) (doors : List Door) (blocks : List Block) :
    (visit.conclude doors blocks).attempted =
      visit.attempted ++ (doors.take blocks.length).map Door.number := by
  rw [attempted_eq, attempted_eq, conclude, Array.toList_append, JournalEntry.walks_append,
    List.filterMap_append, walks_record, List.filterMap_map]
  exact congrArg _ (congrFun List.filterMap_eq_map _)

/-! ### The outcome of a run -/

theorem visit_replayed (visit : Visit) {blocks : List Block}
    (h : IsAttempt visit.entrances.length blocks) :
    (replayed visit blocks).2.visit = visit.conclude visit.entrances blocks :=
  Attempt.visit_replay (.begin visit) 0 h rfl

theorem status_replayed (visit : Visit) {blocks : List Block}
    (h : IsAttempt visit.entrances.length blocks) :
    (replayed visit blocks).1 = .ofBool (blocks.any Block.passes || visit.used.isSome) := by
  rw [← visit.isSome_used_conclude h, ← visit_replayed visit h]
  rfl

/-- The blocks of an attempt leave the same scene as the evaluation of the tree. -/
theorem Plan.run_eq_replayed (p : ByAction Policy) (visit : Visit) (g : Generator) :
    ∃ scene, Plan.run (Plan.tree p) visit g =
        some (.ok (replayed visit (blocksOf p visit.entrances g).1).1, scene) ∧
      (replayed visit (blocksOf p visit.entrances g).1).2.Shown (blocksOf p visit.entrances g).2
        scene := by
  -- The tree does what the plain loop does, and the loop replays the blocks.
  obtain ⟨scene, hrun, hshown⟩ := Plan.run_eq_plainLoop p visit g
  rw [plainLoop_eq] at hrun hshown
  exact ⟨scene, hrun, hshown⟩

/-- What the evaluation of the tree makes of a visit, by the blocks of the attempt. -/
theorem Plan.run_eq_conclude (p : ByAction Policy) (visit : Visit) (g : Generator) :
    ∃ scene, Plan.run (Plan.tree p) visit g = some (.ok (.ofBool
        ((blocksOf p visit.entrances g).1.any Block.passes || visit.used.isSome)), scene) ∧
      scene.world.context = visit.conclude visit.entrances (blocksOf p visit.entrances g).1 ∧
      scene.world.generator = (blocksOf p visit.entrances g).2 := by
  have hattempt := isAttempt_blocksOf p visit.entrances g
  obtain ⟨scene, hrun, hshown⟩ := Plan.run_eq_replayed p visit g
  refine ⟨scene, ?_, hshown.visit.trans (visit_replayed visit hattempt), hshown.generator⟩
  rw [hrun, status_replayed visit hattempt]

/-- What is left of a visit to these doors, by the blocks of the attempt. -/
def Entry.ofBlocks (doors : List Door) (blocks : List Block) (generator : Generator)
    (events : List (Event DoorNote)) : Entry where
  result := .ok (.ofBool (blocks.any Block.passes))
  visit := (Visit.ofDoors doors).conclude doors blocks
  generator := generator
  events := events

namespace Entry

variable {doors : List Door} {blocks : List Block} (g : Generator) (events : List (Event DoorNote))

@[simp] theorem visit_ofBlocks : (ofBlocks doors blocks g events).visit =
    (Visit.ofDoors doors).conclude doors blocks := rfl

theorem journal_ofBlocks :
    (ofBlocks doors blocks g events).visit.journal = (record doors blocks).toArray :=
  Array.empty_append

theorem result_ofBlocks_of_passes (hpass : blocks.any Block.passes = true) :
    (ofBlocks doors blocks g events).result = .ok .success := by
  rw [ofBlocks, hpass]
  rfl

theorem result_ofBlocks_of_fails (hfail : blocks.any Block.passes = false) :
    (ofBlocks doors blocks g events).result = .ok .failure := by
  rw [ofBlocks, hfail]
  rfl

end Entry

/-- The blocks of the attempt say what is left of a visit to a building. -/
theorem Config.enter_eq (config : Config) (n : Nat) (g : Generator) :
    ∃ blocks g' events,
      blocksOf (Plan.ofChances config.chances) (doorsBetween 0 n) (config.reseed g) =
        (blocks, g') ∧
      IsAttempt n blocks ∧
      Config.enter { config with doorCount := n } g =
        some (.ofBlocks (doorsBetween 0 n) blocks g' events) := by
  let p := Plan.ofChances config.chances
  let visit := Visit.ofDoors (doorsBetween 0 n)
  have hnew : (Visit.of ⟨n⟩).restart = visit := by
    rw [Visit.of, Building.doors_eq]
    rfl
  have hattempt : IsAttempt n (blocksOf p (doorsBetween 0 n) (config.reseed g)).1 := by
    simpa using isAttempt_blocksOf p (doorsBetween 0 n) (config.reseed g)
  obtain ⟨scene, hrun, hvisit, hgenerator⟩ := Plan.run_eq_conclude p visit (config.reseed g)
  have hreseed : Config.reseed { config with doorCount := n } g = config.reseed g := rfl
  have hok (status : Status) : Except.mapError EntryError.aborted (.ok status) = .ok status := rfl
  refine ⟨_, _, (config.seed.map .reseeded).toList ++ scene.events, rfl, hattempt, ?_⟩
  rw [enter, hnew, hreseed, hrun]
  simp [Entry.ofBlocks, hvisit, hgenerator, visit, p, Visit.ofDoors, hok]

/-- What is left of a visit to a building: the agent got in through the last door that it tried, or
it tried all doors and none is left. -/
theorem Config.enter_outcome (config : Config) (g : Generator) :
    ∃ entry, config.enter g = some entry ∧
      ((entry.result = .ok .success ∧ ∃ k, 1 ≤ k ∧ k ≤ config.doorCount ∧
          entry.visit.used = some ⟨k⟩ ∧ entry.visit.attempted = List.range' 1 k) ∨
        (entry.result = .ok .failure ∧ entry.visit.used = none ∧ entry.visit.doors = [] ∧
          entry.visit.attempted = List.range' 1 config.doorCount)) := by
  obtain ⟨blocks, g', events, -, hattempt, henter⟩ := config.enter_eq config.doorCount g
  have hle : blocks.length ≤ config.doorCount := hattempt.length_le
  have htried : 0 + blocks.length ≤ config.doorCount := by omega
  have hattempted : ((Visit.ofDoors (doorsBetween 0 config.doorCount)).conclude
      (doorsBetween 0 config.doorCount) blocks).attempted = List.range' 1 blocks.length := by
    rw [Visit.attempted_conclude, take_doorsBetween htried, map_number_doorsBetween]
    simp [Visit.ofDoors, Visit.attempted]
  refine ⟨_, henter, ?_⟩
  -- The attempt got in at the last block, or there is a block for every door.
  cases hpass : blocks.any Block.passes with
  | true =>
    have hpos : 0 < blocks.length := length_pos_of_passes hpass
    have hused := (Visit.used_conclude_of_passes (.ofDoors (doorsBetween 0 config.doorCount))
      hpass).trans (Visit.current_conclude_doorsBetween _ hpos hle)
    exact .inl ⟨Entry.result_ofBlocks_of_passes g' events hpass, blocks.length, hpos, hle, hused,
      hattempted⟩
  | false =>
    have hall : blocks.length = config.doorCount := hattempt.length_eq hpass
    rw [hall] at hattempted
    refine .inr ⟨Entry.result_ofBlocks_of_fails g' events hpass,
      Visit.used_conclude_of_fails _ hpass, ?_, hattempted⟩
    simp [Visit.conclude, hall]

end TickTree
