import Mathlib.Data.List.Forall2
import TickTree.Proofs.Doors.Consultation

/-!
# The numbers behind a journal

An agent whose actions depend on chance draws one number for each action that it carries out, and
none for anything else. So the entries of the journal and the numbers of the random source are in
step: an entry tells whether its number is below the percentage of its action, and when the visit is
over, the random source goes on behind the number of the last entry.

How many numbers are drawn depends on the numbers, as an action that fails may be the last at its
door. The consultations of the attempt are the numbers that were asked for, in order.

## Main definitions

* `JournalEntry.DecidedBy`: an entry is the outcome of its action for a number

## Main results

* `Consults.drawn`: each consultation of a chance is one number
* `entries_are_draws`: the law for a visit
-/

namespace TickTree

/-- The entry is about one of the actions, and says that it succeeded exactly if the number is
below the percentage of the action. -/
structure JournalEntry.DecidedBy (percents : ByAction Nat) (entry : JournalEntry) (draw : Nat) :
    Prop where
  known : ∃ kind, entry.action = ActionKind.name kind
  succeeded : ∀ kind, entry.action = ActionKind.name kind →
    entry.succeeded = decide (draw < percents.get kind)

theorem Consultation.decidedBy {percents : ByAction Nat} {c : Consultation} {draw : Nat}
    (h : c.succeeded = decide (draw < percents.get c.kind)) : c.entry.DecidedBy percents draw where
  known := ⟨c.kind, rfl⟩
  succeeded kind hkind := by
    obtain rfl := ActionKind.name_inj.1 hkind
    exact h

/-- The policy of an action that depends on chance draws one number. -/
theorem Plan.outcome_ofChances (percents : ByAction Nat) (kind : ActionKind) (door : Door)
    (g : Generator) : ((ofChances percents).get kind).outcome door g =
      (decide ((g.roll 100).1 < percents.get kind), (g.roll 100).2) := by
  rw [ofChances, ByAction.get_map]
  rfl

/-- If all actions depend on chance, then each consultation is one number. -/
theorem Consults.drawn {percents : ByAction Nat} {consultations : List Consultation}
    {g g' : Generator} (h : Consults (Plan.ofChances percents) consultations g g') :
    (g.rolls 100 consultations.length).2 = g' ∧
      List.Forall₂
        (fun (c : Consultation) draw => c.succeeded = decide (draw < percents.get c.kind))
        consultations (g.rolls 100 consultations.length).1 := by
  induction h with
  | nil g => exact ⟨rfl, .nil⟩
  | cons hfirst hrest ih =>
    rw [Plan.outcome_ofChances] at hfirst
    obtain ⟨hsucceeded, rfl⟩ := Prod.mk.inj hfirst
    exact ⟨ih.1, .cons hsucceeded.symm ih.2⟩

/-- The numbers of a row of consultations are those behind the entries that it leaves. -/
theorem Consults.decidedBy {percents : ByAction Nat} {consultations : List Consultation}
    {g g' : Generator} (h : Consults (Plan.ofChances percents) consultations g g') :
    List.Forall₂ (JournalEntry.DecidedBy percents) (consultations.map Consultation.entry)
      (g.rolls 100 consultations.length).1 := by
  rw [List.forall₂_map_left_iff]
  exact h.drawn.2.imp fun _ _ => Consultation.decidedBy

/-- A visit to a building is a row of consultations: they are what its journal consists of, and
they take the random source to where it is in the end. -/
theorem Config.exists_consults (config : Config) (g : Generator) :
    ∃ entry status consultations, config.enter g = some entry ∧ entry.result = .ok status ∧
      entry.visit.journal = (consultations.map Consultation.entry).toArray ∧
      Consults (Plan.ofChances config.chances) consultations (config.reseed g)
        entry.generator := by
  obtain ⟨blocks, g', events, hblocks, -, henter⟩ := config.enter_eq config.doorCount g
  refine ⟨_, _, consultationsOf (doorsBetween 0 config.doorCount) blocks, henter, rfl, ?_, ?_⟩
  · rw [Entry.journal_ofBlocks, record_eq]
  · exact (blocksOf_eq_iff.1 hblocks).2

/-- Every entry of the journal is one draw, in order. A visit to a building ends with a status.
With the numbers below 100 that are read from the random source as it is at the start, one for each
entry, an entry says that its action succeeded exactly if its number is below the percentage of the
action. The random source is left where these numbers end, so whoever reads more numbers from it
goes on with the same ones. -/
theorem entries_are_draws (config : Config) (g : Generator) :
    ∃ entry status draws, config.enter g = some entry ∧ entry.result = .ok status ∧
      (config.reseed g).rolls 100 entry.visit.journal.size = (draws, entry.generator) ∧
      List.Forall₂ (JournalEntry.DecidedBy config.chances) entry.visit.journal.toList draws ∧
      ∀ more, (config.reseed g).rolls 100 (entry.visit.journal.size + more) =
        (draws ++ (entry.generator.rolls 100 more).1, (entry.generator.rolls 100 more).2) := by
  obtain ⟨entry, status, consultations, henter, hresult, hjournal, hconsults⟩ :=
    config.exists_consults g
  have hsize : entry.visit.journal.size = consultations.length := by
    rw [hjournal, List.size_toArray, List.length_map]
  have hrolls : (config.reseed g).rolls 100 entry.visit.journal.size =
      (((config.reseed g).rolls 100 consultations.length).1, entry.generator) := by
    rw [hsize, ← hconsults.drawn.1]
  refine ⟨entry, status, _, henter, hresult, hrolls, ?_, ?_⟩
  · rw [hjournal]
    exact hconsults.decidedBy
  · intro more
    rw [Generator.rolls_add, hrolls]

end TickTree
