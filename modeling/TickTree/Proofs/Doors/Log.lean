import TickTree.Proofs.Doors.Outcome

/-!
# The log of a visit agrees with the visit

An evaluation of the tree is recorded twice. The actions enter the journal, and the doors move from
one place of the visit to another; and everything is reported, by leaves, by the loop and by the
tree as a whole. The two records tell the same story: for each door that was tried the log has one
record on the door, one for each entry that this left in the journal, and one more if the agent got
through. The loop then reports how many doors failed, and the tree reports its status.

## Main definitions

* `TriedDoor`: a door that was tried, with its entries in the journal
* `TriedDoor.Sound`: what the entries of a door look like
* `TriedDoor.records`: what the log says about the door
* `Visit.Tried`: the doors that were tried, by the visit before and after an attempt

## Main results

* `Attempt.report_replay`: what is reported about the blocks of an attempt
* `log_agrees_with_visit`: the log of an evaluation, by the visit that it leaves
-/

namespace TickTree

/-- A door that was tried. -/
structure TriedDoor where
  door : Door
  /-- The entries that this left in the journal. -/
  entries : List JournalEntry
  /-- The agent got through. -/
  passed : Bool

namespace Record

/-- A door is tried. -/
def trying (door : Door) : Record :=
  ⟨.info, "behavior_tree::leaf", "trying door #" ++ toString door.number,
    [("stack", .text "doors"), ("slot", .text "current_door")]⟩

/-- An action was carried out. -/
def acted (entry : JournalEntry) : Record :=
  ⟨.info, "door_scenario::actions",
    entry.action ++ if entry.succeeded then " succeeded" else " failed",
    [("action", .text entry.action), ("door", .plain (DoorNote.optional entry.door))]⟩

/-- A door led into the building. -/
def used (door : Door) : Record :=
  ⟨.info, "behavior_tree::leaf", "used_door is now door #" ++ toString door.number,
    [("variable", .text "used_door"), ("source", .text "current_door")]⟩

/-- The loop over the doors ended after so many doors that failed. -/
def finished (successes : Nat) : Record :=
  ⟨.debug, "behavior_tree::decorator", "repeat-until-fail finished",
    [("successes", .plain (toString successes))]⟩

/-- The tree returned a status. -/
def evaluated (status : Status) : Record :=
  ⟨.debug, "behavior_tree::tree", "behavior tree evaluated", [("status", .plain status.name)]⟩

end Record

namespace TriedDoor

/-- The entries of a door begin with the only one on walking there, all are about this door, and
the agent got through exactly if the last one is on closing the door. -/
structure Sound (t : TriedDoor) : Prop where
  begins : ∃ succeeded rest,
    t.entries = ⟨ActionKind.walkTo.name, some t.door.number, succeeded⟩ :: rest ∧
      ∀ entry ∈ rest, entry.action ≠ ActionKind.walkTo.name
  here : ∀ entry ∈ t.entries, entry.door = some t.door.number
  passed_iff : t.passed = true ↔
    ∃ entry, t.entries.getLast? = some entry ∧ entry.action = ActionKind.closing.name

/-- What the log says about a door: that it is tried, what was done there, and that it led into the
building if it did. -/
def records (t : TriedDoor) : List Record :=
  .trying t.door :: t.entries.map .acted ++ if t.passed then [.used t.door] else []

/-- What is reported about a door. -/
def report (t : TriedDoor) : List (Event DoorNote) :=
  .note (.moved (.trying (toString t.door) "doors" "current_door")) ::
    t.entries.map (fun entry => .note (.acted entry.action entry.door entry.succeeded)) ++
    if t.passed then
      [.note (.moved (.assigned "used_door" (toString t.door) "current_door"))]
    else []

theorem toRecord_trying (door : Door) :
    (Event.note (DoorNote.moved (.trying (toString door) "doors" "current_door"))).toRecord =
      Record.trying door := by
  have htext : "trying " ++ ("door #" ++ toString door.number) =
      "trying door #" ++ toString door.number := by
    rw [← String.append_assoc]
    rfl
  exact congrArg (fun message => (⟨_, _, message, _⟩ : Record)) htext

theorem toRecord_used (door : Door) :
    (Event.note (DoorNote.moved (.assigned "used_door" (toString door) "current_door"))).toRecord =
      Record.used door := by
  have htext : "used_door is now " ++ ("door #" ++ toString door.number) =
      "used_door is now door #" ++ toString door.number := by
    rw [← String.append_assoc]
    rfl
  exact congrArg (fun message => (⟨_, _, message, _⟩ : Record)) htext

theorem map_toRecord_report (t : TriedDoor) : t.report.map Event.toRecord = t.records := by
  have hacted : (Event.toRecord ∘ fun entry : JournalEntry =>
      .note (DoorNote.acted entry.action entry.door entry.succeeded)) = Record.acted := rfl
  rw [report, records, List.map_append, List.map_cons, List.map_map, toRecord_trying, hacted]
  cases t.passed with
  | true => exact congrArg (_ ++ [·]) (toRecord_used t.door)
  | false => rfl

end TriedDoor

/-- At a door the agent walks there first, and then never again. -/
theorem Block.exists_outcomes_eq (b : Block) : ∃ reached rest,
    b.outcomes = (.walkTo, reached) :: rest ∧ ∀ outcome ∈ rest, outcome.1 ≠ .walkTo := by
  cases b with
  | unreached => exact ⟨false, [], rfl, by simp⟩
  | shut => exact ⟨true, _, rfl, by decide⟩
  | blocked way => cases way <;> exact ⟨true, _, rfl, by decide⟩
  | passed way closed => cases way <;> cases closed <;> exact ⟨true, _, rfl, by decide⟩

/-- The agent got through exactly if the last thing that it did was to close the door. -/
theorem Block.passes_iff (b : Block) :
    b.passes = true ↔ b.outcomes.getLast?.map Prod.fst = some .closing := by
  cases b with
  | unreached => decide
  | shut => decide
  | blocked way => cases way <;> decide
  | passed way closed => cases way <;> simp [passes, outcomes, Way.outcomes]

namespace TriedDoor

/-- A door at which a block happened. -/
def of (door : Door) (b : Block) : TriedDoor := ⟨door, b.entries door, b.passes⟩

theorem sound_of (door : Door) (b : Block) : (of door b).Sound where
  begins := by
    obtain ⟨reached, rest, houtcomes, hrest⟩ := b.exists_outcomes_eq
    refine ⟨reached, rest.map fun outcome => ⟨outcome.1.name, some door.number, outcome.2⟩,
      ?_, ?_⟩
    · rw [of, Block.entries, houtcomes, List.map_cons]
    · intro entry hentry
      obtain ⟨outcome, hmem, rfl⟩ := List.mem_map.1 hentry
      exact fun hname => hrest outcome hmem (ActionKind.name_inj.1 hname)
  here := by
    intro entry hentry
    obtain ⟨outcome, -, rfl⟩ := List.mem_map.1 hentry
    rfl
  passed_iff := by
    rw [of, Block.passes_iff, Block.entries, List.getLast?_map]
    cases b.outcomes.getLast? with
    | none => simp
    | some outcome => simp [ActionKind.name_inj]

end TriedDoor

/-- The doors at which the blocks of an attempt happened. -/
def triedDoors (doors : List Door) (blocks : List Block) : List TriedDoor :=
  List.zipWith TriedDoor.of doors blocks

@[simp] theorem triedDoors_nil (blocks : List Block) : triedDoors [] blocks = [] := rfl

@[simp] theorem triedDoors_nil_right (doors : List Door) : triedDoors doors [] = [] :=
  List.zipWith_nil_right

@[simp] theorem triedDoors_cons (door : Door) (rest : List Door) (b : Block)
    (blocks : List Block) :
    triedDoors (door :: rest) (b :: blocks) = .of door b :: triedDoors rest blocks := rfl

theorem sound_of_mem_triedDoors {doors : List Door} {blocks : List Block} {t : TriedDoor}
    (h : t ∈ triedDoors doors blocks) : t.Sound := by
  induction doors generalizing blocks with
  | nil => simp at h
  | cons door rest ih =>
    cases blocks with
    | nil => simp at h
    | cons b blocks =>
      rcases List.mem_cons.1 h with rfl | hrest
      · exact TriedDoor.sound_of door b
      · exact ih hrest

theorem flatMap_entries_triedDoors (doors : List Door) (blocks : List Block) :
    (triedDoors doors blocks).flatMap TriedDoor.entries = record doors blocks := by
  rw [triedDoors, List.flatMap, List.map_zipWith]
  rfl

theorem map_door_triedDoors (doors : List Door) (blocks : List Block) :
    (triedDoors doors blocks).map TriedDoor.door = doors.take blocks.length := by
  induction doors generalizing blocks with
  | nil => simp
  | cons door rest ih =>
    cases blocks with
    | nil => simp
    | cons b blocks => simp [ih, TriedDoor.of]

theorem map_passed_triedDoors {doors : List Door} {blocks : List Block}
    (h : blocks.length ≤ doors.length) :
    (triedDoors doors blocks).map TriedDoor.passed = blocks.map Block.passes := by
  induction doors generalizing blocks with
  | nil =>
    obtain rfl : blocks = [] := List.eq_nil_of_length_eq_zero (Nat.le_zero.1 h)
    rfl
  | cons door rest ih =>
    cases blocks with
    | nil => rfl
    | cons b blocks =>
      have hrest : blocks.length ≤ rest.length := by simpa using h
      simp [ih hrest, TriedDoor.of]

/-! ### What is reported -/

namespace Attempt

variable (a : Attempt) (door : Door)

/-- What is reported about a door on the way to it and at it. -/
theorem report_undergo_stepUp (rest : List Door) (b : Block) :
    ((a.stepUp door rest).undergo door b).report = a.report ++ (TriedDoor.of door b).report := by
  rw [undergo_eq]
  cases hb : b.passes <;> simp [stepUp, TriedDoor.report, TriedDoor.of, hb]

/-- The doors at which the blocks of an attempt happened are reported one after the other, and then
how many of them failed. -/
theorem report_replay (failed : Nat) {doors : List Door} {blocks : List Block}
    (h : IsAttempt doors.length blocks) :
    (a.replay failed doors blocks).report =
      a.report ++ (triedDoors doors blocks).flatMap TriedDoor.report ++
        [.untilFailFinished (failed + (triedDoors doors blocks).countP fun t => !t.passed)] := by
  induction doors generalizing a failed blocks with
  | nil => simp [replay, say]
  | cons door rest ih =>
    obtain ⟨b, blocks, rfl, ⟨hb, rfl⟩ | ⟨hb, hrest⟩⟩ := h.of_succ
    · have hpassed : (TriedDoor.of door b).passed = true := hb
      rw [replay, if_pos hb, say, report_undergo_stepUp]
      simp [hpassed]
    · have hpassed : (TriedDoor.of door b).passed = false := hb
      rw [replay, if_neg (by simp [hb]), ih _ _ hrest, report_undergo_stepUp]
      simp [hpassed, Nat.add_assoc, Nat.add_comm]

end Attempt

theorem report_replayed (visit : Visit) {blocks : List Block}
    (h : IsAttempt visit.entrances.length blocks) :
    (replayed visit blocks).2.report =
      (triedDoors visit.entrances blocks).flatMap TriedDoor.report ++
        [.untilFailFinished ((triedDoors visit.entrances blocks).countP fun t => !t.passed),
          .evaluated (replayed visit blocks).1] := by
  rw [replayed, Attempt.say, Attempt.report_replay (.begin visit) 0 h]
  simp [Attempt.begin]

/-! ### The visit and its log -/

/-- The doors that were tried in an attempt, of which so many failed, by the visit before and after
the attempt. -/
structure Visit.Tried (before after : Visit) (status : Status) (tried : List TriedDoor)
    (failed : Nat) : Prop where
  /-- They were popped from the doors of the building, in order. -/
  popped : before.entrances = tried.map TriedDoor.door ++ after.doors
  /-- The entries that were added to the journal are theirs, in order. -/
  added : after.addedSince before = tried.flatMap TriedDoor.entries
  sound : ∀ t ∈ tried, t.Sound
  /-- All doors of the building failed, or the last one that was tried led into the building and
  those before it failed. -/
  outcome : (status = .failure ∧ after.used = none ∧ after.doors = [] ∧
      (∀ t ∈ tried, t.passed = false) ∧ failed = before.entrances.length) ∨
    ∃ front last, tried = front ++ [last] ∧ status = .success ∧ after.used = some last.door ∧
      last.passed = true ∧ (∀ t ∈ front, t.passed = false) ∧ failed + 1 = tried.length

section

variable {tried : List TriedDoor} {blocks : List Block}

theorem passed_eq_false_of_map_eq (hmap : tried.map TriedDoor.passed = blocks.map Block.passes)
    (hfail : ∀ b ∈ blocks, b.passes = false) : ∀ t ∈ tried, t.passed = false := by
  intro t ht
  have hmem : t.passed ∈ blocks.map Block.passes := hmap ▸ List.mem_map_of_mem ht
  obtain ⟨b, hb, heq⟩ := List.mem_map.1 hmem
  rw [← heq, hfail b hb]

theorem countP_not_passed (hfail : ∀ t ∈ tried, t.passed = false) :
    (tried.countP fun t => !t.passed) = tried.length := by
  rw [List.countP_eq_length]
  intro t ht
  simp [hfail t ht]

end

/-- The blocks of an attempt are the doors that it tried. -/
theorem Visit.tried_conclude {visit : Visit} (hunused : visit.used = none) {blocks : List Block}
    (h : IsAttempt visit.entrances.length blocks) :
    visit.Tried (visit.conclude visit.entrances blocks) (.ofBool (blocks.any Block.passes))
      (triedDoors visit.entrances blocks)
      ((triedDoors visit.entrances blocks).countP fun t => !t.passed) := by
  have hle := h.length_le
  have hdoors := map_door_triedDoors visit.entrances blocks
  have hpassed := map_passed_triedDoors hle
  constructor
  case popped =>
    rw [hdoors]
    exact (List.take_append_drop _ _).symm
  case added => rw [addedSince_conclude, flatMap_entries_triedDoors]
  case sound => exact fun t => sound_of_mem_triedDoors
  case outcome =>
    have hlength := congrArg List.length hpassed
    rw [List.length_map, List.length_map] at hlength
    rcases h with ⟨hall, hfail⟩ | ⟨failing, final, rfl, hlt, hfailing, hfinal⟩
    · have hany : blocks.any Block.passes = false := by simpa using hfail
      have hnone := passed_eq_false_of_map_eq hpassed hfail
      refine .inl ⟨by rw [hany]; rfl, ?_, ?_, hnone, ?_⟩
      · rw [visit.used_conclude_of_fails hany, hunused]
      · simp [conclude, hall]
      · rw [countP_not_passed hnone, hlength, hall]
    · have hany : (failing ++ [final]).any Block.passes = true := by simp [hfinal]
      -- The tried doors split where their blocks do: the last one led into the building.
      rw [List.map_append] at hpassed
      obtain ⟨front, tail, htried, hfront, htail⟩ := List.map_eq_append_iff.1 hpassed
      obtain ⟨last, rfl, hlast⟩ := List.map_eq_singleton_iff.1 htail
      rw [hfinal] at hlast
      have hnone := passed_eq_false_of_map_eq hfront hfailing
      refine .inr ⟨front, last, htried, by rw [hany]; rfl, ?_, hlast, hnone, ?_⟩
      · rw [visit.used_conclude_of_passes hany,
          visit.current_conclude (length_pos_of_passes hany) hle, ← hdoors, htried]
        simp
      · rw [htried]
        simp [countP_not_passed hnone, hlast]

/-- The log of an evaluation agrees with the visit. If no door was used before, whatever else is
left over, then the evaluation ends with a status, and for the doors that were tried, as the visit
shows them, the log consists of the records on each of these doors, one on how many of them failed,
and one on the status. -/
theorem log_agrees_with_visit (p : ByAction Policy) (g : Generator) {visit : Visit}
    (hunused : visit.used = none) :
    ∃ status scene tried failed, Plan.run (Plan.tree p) visit g = some (.ok status, scene) ∧
      visit.Tried scene.world.context status tried failed ∧
      scene.events.map Event.toRecord =
        tried.flatMap TriedDoor.records ++ [.finished failed, .evaluated status] := by
  have hattempt := isAttempt_blocksOf p visit.entrances g
  let blocks := (blocksOf p visit.entrances g).1
  obtain ⟨scene, hrun, hshown⟩ := Plan.run_eq_replayed p visit g
  have hstatus : (replayed visit blocks).1 = .ofBool (blocks.any Block.passes) := by
    rw [status_replayed visit hattempt, hunused, Option.isSome_none, Bool.or_false]
  have hrecords : (fun t : TriedDoor => t.report.map Event.toRecord) = TriedDoor.records :=
    funext TriedDoor.map_toRecord_report
  refine ⟨(replayed visit blocks).1, scene, triedDoors visit.entrances blocks,
    (triedDoors visit.entrances blocks).countP fun t => !t.passed, hrun, ?_, ?_⟩
  · rw [hshown.visit, visit_replayed visit hattempt, hstatus]
    exact Visit.tried_conclude hunused hattempt
  · rw [hshown.report, report_replayed visit hattempt, List.map_append, List.map_flatMap, hrecords]
    rfl

/-- The log of an agent that gets through the second of three doors and does not close it, on a
visit that had come to another door. -/
theorem log_agrees_with_visit_secondDoor :
    let p : ByAction Policy := ⟨.script fun door => door.number = 2, .always false, .always true,
      .always true, .always true, .always false⟩
    let visit : Visit := ⟨[⟨1⟩, ⟨2⟩, ⟨3⟩], [⟨7⟩], some ⟨7⟩, none, #[⟨"Walk to door", some 7, true⟩]⟩
    visit.used = none ∧ ∃ status scene tried failed,
      Plan.run (Plan.tree p) visit (.ofSeed 0) = some (.ok status, scene) ∧
      visit.Tried scene.world.context status tried failed ∧
      scene.events.map Event.toRecord =
        tried.flatMap TriedDoor.records ++ [.finished failed, .evaluated status] ∧
      scene.events.map (fun event => event.toRecord.message) =
        ["trying door #1", "Walk to door failed", "trying door #2", "Walk to door succeeded",
          "Open door failed", "Unlock door succeeded", "Walk through door succeeded",
          "Close door failed", "used_door is now door #2", "repeat-until-fail finished",
          "behavior tree evaluated"] := by
  intro p visit
  have hmessages : (Plan.run (Plan.tree p) visit (.ofSeed 0)).map
      (fun answer => answer.2.events.map fun event => event.toRecord.message) =
        some ["trying door #1", "Walk to door failed", "trying door #2", "Walk to door succeeded",
          "Open door failed", "Unlock door succeeded", "Walk through door succeeded",
          "Close door failed", "used_door is now door #2", "repeat-until-fail finished",
          "behavior tree evaluated"] := by
    decide +kernel
  have hunused : visit.used = none := rfl
  obtain ⟨status, scene, tried, failed, hrun, htried, hlog⟩ :=
    log_agrees_with_visit p (.ofSeed 0) hunused
  rw [hrun, Option.map_some] at hmessages
  exact ⟨hunused, status, scene, tried, failed, hrun, htried, hlog, Option.some.inj hmessages⟩

end TickTree
