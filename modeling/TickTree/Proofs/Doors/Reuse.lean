import Mathlib.Data.List.Forall2
import TickTree.Proofs.Doors.Outcome

/-!
# Using a visit again

An agent may attempt the same building several times on the same visit, each time with policies of
its own. If every attempt begins with a restart, then it goes as on a new visit: what earlier
attempts left behind makes no difference to what it returns, where it ends, what it adds to the
journal and how it leaves the random source. The journal collects the entries of all attempts, and
the doors of the building stay as they are.

The agent need not be the only user of the random source, so anything may become of the source
between two attempts.

## Main definitions

* `Trial`: an attempt to come
* `Outcome`: what an attempt returned and left
* `Visit.attempts`: attempts one after the other, where the visit is made ready before each
* `Outcome.Reaches`: how far an attempt came

## Main results

* `Visit.attempt_of_ready`: an attempt depends on the doors of the building only
* `Visit.attempts_restart`: attempts on a visit that is used again are like attempts on new visits
* `reused_visit_is_like_new`: the law for a visit to a building
-/

namespace TickTree

/-- An attempt to come: its policies, and what becomes of the random source before it begins. -/
structure Trial where
  policies : ByAction Policy
  meanwhile : Generator → Generator

/-- What an attempt returned and left. -/
structure Outcome where
  verdict : Verdict
  doors : List Door
  current : Option Door
  used : Option Door
  /-- The entries that were added to the journal. -/
  added : List JournalEntry
  generator : Generator

namespace Visit

/-- One attempt, and the visit that it leaves. -/
def attempt (p : ByAction Policy) (visit : Visit) (g : Generator) : Option (Outcome × Visit) := do
  let (verdict, scene) ← Plan.run (Plan.tree p) visit g
  let after := scene.world.context
  return (⟨verdict, after.doors, after.current, after.used, after.addedSince visit,
    scene.world.generator⟩, after)

/-- Attempts one after the other, and the visit that the last one leaves. Before each of them the
visit is made ready. -/
def attempts (ready : Visit → Visit) :
    List Trial → Visit → Generator → Option (List Outcome × Visit)
  | [], visit, _ => some ([], visit)
  | trial :: trials, visit, g => do
    let (outcome, visit) ← (ready visit).attempt trial.policies (trial.meanwhile g)
    let (outcomes, visit) ← attempts ready trials visit outcome.generator
    return (outcome :: outcomes, visit)

end Visit

namespace Outcome

/-- The outcome of an attempt at doors, by its blocks. -/
def ofBlocks (doors : List Door) (blocks : List Block) (g : Generator) : Outcome where
  verdict := .ok (.ofBool (blocks.any Block.passes))
  doors := doors.drop blocks.length
  current := (doors.take blocks.length).getLast?
  used := if blocks.any Block.passes then (doors.take blocks.length).getLast? else none
  added := record doors blocks
  generator := g

/-- An attempt came as far as door `k`: it got in there, or it tried all doors in vain. -/
def Reaches (building : Building) (outcome : Outcome) (k : Nat) : Prop :=
  (outcome.verdict = .ok .success ∧ outcome.used = some ⟨k⟩) ∨
    (outcome.verdict = .ok .failure ∧ outcome.used = none ∧ k = building.doorCount)

/-- The number of blocks says how far an attempt came. -/
theorem reaches_ofBlocks {building : Building} {blocks : List Block} (g : Generator)
    (h : IsAttempt building.doorCount blocks) :
    (ofBlocks building.doors blocks g).Reaches building blocks.length := by
  have hle : 0 + blocks.length ≤ building.doorCount := by simpa using h.length_le
  rw [Reaches, ofBlocks, building.doors_eq, take_doorsBetween hle]
  cases hpass : blocks.any Block.passes with
  | true =>
    have hlast := getLast?_doorsBetween (a := 0) (length_pos_of_passes hpass)
    refine .inl ⟨rfl, ?_⟩
    simpa using hlast
  | false => exact .inr ⟨rfl, rfl, h.length_eq hpass⟩

end Outcome

/-- The visit was used again for attempts with these outcomes. -/
structure Visit.Reused (building : Building) (before after : Visit) (outcomes : List Outcome) :
    Prop where
  entrances : after.entrances = building.doors
  journal : after.journal.toList = before.journal.toList ++ outcomes.flatMap Outcome.added
  attempted : ∃ reached, List.Forall₂ (Outcome.Reaches building) outcomes reached ∧
    after.attempted = before.attempted ++ reached.flatMap (List.range' 1)

namespace Visit

theorem Reused.refl {building : Building} {visit : Visit} (h : visit.entrances = building.doors) :
    Reused building visit visit [] :=
  ⟨h, by simp, [], .nil, by simp⟩

theorem Reused.cons {building : Building} {before middle after : Visit} {outcome : Outcome}
    {outcomes : List Outcome} (hfirst : Reused building before middle [outcome])
    (hrest : Reused building middle after outcomes) :
    Reused building before after (outcome :: outcomes) := by
  obtain ⟨-, hjournal, reached, hreached, hattempted⟩ := hfirst
  obtain ⟨hentrances, hjournal', reached', hreached', hattempted'⟩ := hrest
  refine ⟨hentrances, ?_, reached ++ reached', List.rel_append hreached hreached', ?_⟩
  · simp [hjournal', hjournal]
  · simp [hattempted', hattempted]

variable (p : ByAction Policy) (g : Generator)

/-- An attempt on a visit without a door in front of the agent and without a used door depends on
the doors of the building only. -/
theorem attempt_of_ready {visit : Visit} (hcurrent : visit.current = none)
    (hused : visit.used = none) :
    visit.attempt p g =
      some (.ofBlocks visit.entrances (blocksOf p visit.entrances g).1
          (blocksOf p visit.entrances g).2,
        visit.conclude visit.entrances (blocksOf p visit.entrances g).1) := by
  obtain ⟨scene, hrun, hvisit, hgenerator⟩ := Plan.run_eq_conclude p visit g
  rw [attempt, hrun]
  simp [hvisit, hgenerator, Outcome.ofBlocks, conclude, hcurrent, hused, addedSince]

/-- An attempt adds its entries to the journal, tries doors up to the one that it reaches, and
keeps the doors of the building. -/
theorem reused_conclude {building : Building} {visit : Visit} {blocks : List Block}
    (hentrances : visit.entrances = building.doors) (h : IsAttempt building.doorCount blocks) :
    Reused building visit (visit.restart.conclude building.doors blocks)
      [.ofBlocks building.doors blocks g] := by
  have hle : 0 + blocks.length ≤ building.doorCount := by simpa using h.length_le
  refine ⟨hentrances, ?_, [blocks.length], .cons (Outcome.reaches_ofBlocks g h) .nil, ?_⟩
  · simp [conclude, restart, Outcome.ofBlocks]
  · rw [attempted_conclude, building.doors_eq, take_doorsBetween hle, map_number_doorsBetween]
    simp [restart, attempted]

/-- Attempts on a visit that is restarted before each of them are like attempts on new visits. -/
theorem attempts_restart {building : Building} (trials : List Trial) {visit : Visit}
    (hentrances : visit.entrances = building.doors) (other : Visit) :
    ∃ outcomes after last, attempts restart trials visit g = some (outcomes, after) ∧
      attempts (fun _ => .of building) trials other g = some (outcomes, last) ∧
      Reused building visit after outcomes := by
  induction trials generalizing visit other g with
  | nil => exact ⟨[], visit, other, rfl, rfl, .refl hentrances⟩
  | cons trial trials ih =>
    let p := trial.policies
    let g₁ := trial.meanwhile g
    let blocks := (blocksOf p building.doors g₁).1
    let g₂ := (blocksOf p building.doors g₁).2
    have hattempt : IsAttempt building.doorCount blocks := by
      simpa using isAttempt_blocksOf p building.doors g₁
    have hagain : visit.restart.attempt p g₁ = some (.ofBlocks building.doors blocks g₂,
        visit.restart.conclude building.doors blocks) := by
      have hdoors : visit.restart.entrances = building.doors := hentrances
      rw [attempt_of_ready p g₁ rfl rfl, hdoors]
    have hnew : (Visit.of building).attempt p g₁ = some (.ofBlocks building.doors blocks g₂,
        (Visit.of building).conclude building.doors blocks) := attempt_of_ready p g₁ rfl rfl
    have hfirst := reused_conclude g₂ hentrances hattempt
    -- The outcome is the same, and in particular the random source from which the others go on.
    obtain ⟨outcomes, after, last, hmore, hmore', hrest⟩ := ih g₂ hfirst.entrances
      ((Visit.of building).conclude building.doors blocks)
    refine ⟨.ofBlocks building.doors blocks g₂ :: outcomes, after, last, ?_, ?_, hfirst.cons hrest⟩
    · rw [attempts, hagain]
      exact congrArg (Option.bind · _) hmore
    · rw [attempts, hnew]
      exact congrArg (Option.bind · _) hmore'

end Visit

/-- A visit that is used again is like a new one. Whatever the attempts are and whatever becomes of
the random source between them, attempts that begin with a restart have the outcomes that they have
on new visits. The journal consists of the entries of all attempts, the doors that the agent walked
to are, for each attempt, those up to the one that it reached, and the doors of the building are
still there. -/
theorem reused_visit_is_like_new (building : Building) (trials : List Trial) (g : Generator) :
    ∃ outcomes after last,
      Visit.attempts Visit.restart trials (.of building) g = some (outcomes, after) ∧
      Visit.attempts (fun _ => .of building) trials (.of building) g = some (outcomes, last) ∧
      after.entrances = building.doors ∧
      after.journal.toList = outcomes.flatMap Outcome.added ∧
      ∃ reached, List.Forall₂ (Outcome.Reaches building) outcomes reached ∧
        after.attempted = reached.flatMap (List.range' 1) := by
  have hdoors : (Visit.of building).entrances = building.doors := rfl
  obtain ⟨outcomes, after, last, hreused, hnew, hentrances, hjournal, reached, hreached,
    hattempted⟩ := Visit.attempts_restart g trials hdoors (.of building)
  exact ⟨outcomes, after, last, hreused, hnew, hentrances, hjournal, reached, hreached, hattempted⟩

end TickTree
