import TickTree.Proofs.Doors.Consultation

/-!
# The first door that works

A policy can settle beforehand at which doors its action succeeds: a fixed outcome and a script do,
and so does a chance of nothing or of certainty, although it draws a number. If all policies do,
then it is known of every door whether it leads into the building, and nothing in an attempt depends
on the random source. The agent goes through the doors from the top, takes the first that leads in,
and leaves the doors below it alone.

Policies like these answer as scripts do, and so an attempt with them is one with scripts.

## Main definitions

* `Policy.settled?`: the doors at which an action succeeds, if the policy settles this
* `ByAction.letsIn`: a door leads into the building
* `Visit.UsesFirst`: what an attempt makes of a visit if the first door that leads in is taken

## Main results

* `blocksOf_scripts_of_settled`: an attempt has the blocks that it has with scripts
* `any_passes_script`, `length_blocksOf_script`: its blocks, by the doors that lead in
* `first_door_is_used`: the law for all settled policies and all random sources
-/

namespace TickTree

/-! ### Policies that settle their outcomes -/

namespace Policy

/-- The doors at which an action succeeds, if the policy settles this whatever is drawn. -/
def settled? : Policy → Option (Door → Bool)
  | always outcome => some fun _ => outcome
  | chance percent =>
    if percent = 0 then some fun _ => false
    else if 100 ≤ percent then some fun _ => true
    else none
  | script passes => some passes

theorem outcome_of_settled {policy : Policy} {passes : Door → Bool}
    (h : policy.settled? = some passes) (door : Door) (g : Generator) :
    (policy.outcome door g).1 = passes door := by
  cases policy with
  | always outcome =>
    obtain rfl := Option.some.inj h
    rfl
  | chance percent =>
    have hroll : (g.roll 100).1 < 100 := g.roll_lt (by decide)
    rw [settled?] at h
    split at h
    · obtain rfl := Option.some.inj h
      simp [outcome, *]
    · split at h
      · obtain rfl := Option.some.inj h
        simp only [outcome, decide_eq_true_eq]
        omega
      · exact absurd h (by simp)
  | script script =>
    obtain rfl := Option.some.inj h
    rfl

end Policy

section

variable {p : ByAction Policy} {f : ByAction (Door → Bool)} {asked : List Consultation}
  {g g' : Generator}

/-- Policies that are settled give the answers that are settled. -/
theorem Consults.eq_of_settled (h : Consults p asked g g')
    (hsettled : ∀ kind, (p.get kind).settled? = some (f.get kind)) :
    ∀ c ∈ asked, c.succeeded = f.get c.kind c.door := by
  induction h with
  | nil g => simp
  | @cons c rest g g₁ g₂ hfirst hrest ih =>
    rw [List.forall_mem_cons]
    refine ⟨?_, ih⟩
    rw [← Policy.outcome_of_settled (hsettled c.kind) c.door g, hfirst]

/-- Scripts give all of their answers without drawing a number. -/
theorem consults_script (h : ∀ c ∈ asked, c.succeeded = f.get c.kind c.door) (g : Generator) :
    Consults (f.map .script) asked g g := by
  induction asked with
  | nil => exact .nil g
  | cons c rest ih =>
    rw [List.forall_mem_cons] at h
    refine .cons ?_ (ih h.2)
    rw [ByAction.get_map, h.1]
    rfl

/-- With policies that are settled an attempt has the blocks that it has with scripts, whatever
state the random source is in for the one or the other. -/
theorem blocksOf_scripts_of_settled
    (hsettled : ∀ kind, (p.get kind).settled? = some (f.get kind)) (doors : List Door)
    (g g' : Generator) :
    blocksOf (f.map .script) doors g' = ((blocksOf p doors g).1, g') := by
  obtain ⟨hattempt, hconsults⟩ := blocksOf_eq_iff.1 (Eq.refl (blocksOf p doors g))
  exact blocksOf_eq_iff.2 ⟨hattempt, consults_script (hconsults.eq_of_settled hsettled) g'⟩

end

/-! ### The doors that lead in -/

/-- A door leads into the building: the agent can walk to it, get it open in one way or another, and
walk through it. -/
def ByAction.letsIn (f : ByAction (Door → Bool)) (door : Door) : Bool :=
  f.walkTo door && (f.opening door || f.unlocking door || f.smashing door) && f.walkThrough door

section

variable (f : ByAction (Door → Bool))

theorem passes_blockAt_script (door : Door) (g : Generator) :
    (blockAt (f.map .script) door g).1.passes = f.letsIn door := by
  unfold blockAt wayAt ByAction.letsIn
  simp only [ByAction.map, ByAction.ofFn, ByAction.get, Policy.outcome]
  cases f.walkTo door with
  | false => rfl
  | true =>
    cases f.walkThrough door <;> cases f.opening door <;> cases f.unlocking door <;>
      cases f.smashing door <;> rfl

/-- An attempt gets through if there is a door that leads in. -/
theorem any_passes_script (doors : List Door) (g : Generator) :
    (blocksOf (f.map .script) doors g).1.any Block.passes = doors.any f.letsIn := by
  induction doors generalizing g with
  | nil => rfl
  | cons door rest ih =>
    rw [blocksOf, List.any_cons, ← passes_blockAt_script f door g]
    cases hpass : (blockAt (f.map .script) door g).1.passes <;> simp [hpass, ih]

/-- An attempt ends at the first door that leads in. -/
theorem length_blocksOf_script {above : List Door} {door : Door} (below : List Door)
    (habove : above.any f.letsIn = false) (hdoor : f.letsIn door = true) (g : Generator) :
    (blocksOf (f.map .script) (above ++ door :: below) g).1.length = above.length + 1 := by
  have hfail := (any_passes_script f above g).trans habove
  have hlength := (isAttempt_blocksOf (f.map .script) above g).length_eq hfail
  have hpass (g : Generator) := (passes_blockAt_script f door g).trans hdoor
  rw [blocksOf_append, if_neg (by simp [hfail]), blocksOf]
  simp [hpass, hlength]

end

/-! ### The first of them -/

/-- An attempt takes the first door that leads in, of those that the visit begins with. -/
structure Visit.UsesFirst (letsIn : Door → Bool) (before after : Visit) (status : Status) :
    Prop where
  /-- It succeeds if there is one. -/
  success_iff : status = .success ↔ ∃ door ∈ before.entrances, letsIn door = true
  /-- The journal goes on. -/
  journal : before.journal.toList <+: after.journal.toList
  /-- Behind doors that do not lead in, the one that does is used. The agent walked to each door
  down to this one, and the doors below it are left. -/
  entered : ∀ above door below, before.entrances = above ++ door :: below →
    (∀ other ∈ above, letsIn other = false) → letsIn door = true →
    after.used = some door ∧ after.doors = below ∧
      JournalEntry.walks (after.addedSince before) =
        (above ++ [door]).map fun door => some door.number
  /-- If no door leads in, then the agent walked to all of them, and there is none left. -/
  turnedAway : (∀ door ∈ before.entrances, letsIn door = false) →
    status = .failure ∧ after.used = none ∧ after.doors = [] ∧
      JournalEntry.walks (after.addedSince before) =
        before.entrances.map fun door => some door.number

/-- An attempt with scripts takes the first door that leads in. -/
theorem Visit.usesFirst_conclude (f : ByAction (Door → Bool)) {visit : Visit}
    (hused : visit.used = none) {blocks : List Block} {g : Generator}
    (hblocks : blocksOf (f.map .script) visit.entrances g = (blocks, g)) :
    visit.UsesFirst f.letsIn (visit.conclude visit.entrances blocks)
      (.ofBool (blocks.any Block.passes)) := by
  have hattempt := isAttempt_blocksOf (f.map .script) visit.entrances g
  have hany := any_passes_script f visit.entrances g
  rw [hblocks] at hattempt hany
  constructor
  case success_iff =>
    rw [hany, ← List.any_eq_true]
    cases visit.entrances.any f.letsIn <;> decide
  case journal => simp [conclude]
  case entered =>
    intro above door below hdoors habove hdoor
    have hnone : above.any f.letsIn = false := List.any_eq_false.2 (by simpa using habove)
    have hlength := length_blocksOf_script f below hnone hdoor g
    rw [← hdoors, hblocks] at hlength
    have hpass : blocks.any Block.passes = true := by
      rw [hany, hdoors]
      simp [hdoor]
    have htried : visit.entrances.take blocks.length = above ++ [door] := by
      rw [hlength, hdoors, List.take_length_add_append]
      rfl
    refine ⟨?_, ?_, ?_⟩
    · rw [visit.used_conclude_of_passes hpass,
        visit.current_conclude (length_pos_of_passes hpass) hattempt.length_le, htried,
        List.getLast?_concat]
    · rw [conclude, hlength, hdoors, List.drop_length_add_append]
      rfl
    · rw [addedSince_conclude, walks_record, htried]
  case turnedAway =>
    intro hnone
    have hfail : blocks.any Block.passes = false := by
      rw [hany, List.any_eq_false]
      simpa using hnone
    have hlength := hattempt.length_eq hfail
    refine ⟨?_, ?_, ?_, ?_⟩
    · rw [hfail]
      rfl
    · rw [visit.used_conclude_of_fails hfail, hused]
    · rw [conclude, hlength, List.drop_length]
    · rw [addedSince_conclude, walks_record, hlength, List.take_length]

/-- The first door that works is used. If all policies settle their outcomes, then the status, the
visit and the report are the same whatever state the random source is in: the agent takes the first
door that leads in, and the visit fails if there is none. -/
theorem first_door_is_used {p : ByAction Policy} {f : ByAction (Door → Bool)} {visit : Visit}
    (hsettled : ∀ kind, (p.get kind).settled? = some (f.get kind)) (hused : visit.used = none) :
    ∃ status after events,
      (∀ g, ∃ t, Plan.run (Plan.tree p) visit g = some (.ok status, t) ∧
        t.world.context = after ∧ t.events = events) ∧
      visit.UsesFirst f.letsIn after status := by
  -- Scripts draw nothing, so that any state of the random source will do for them.
  obtain ⟨blocks, hblocks⟩ : ∃ blocks, ∀ g, (blocksOf p visit.entrances g).1 = blocks := by
    refine ⟨(blocksOf (f.map .script) visit.entrances (.ofSeed 0)).1, fun g => ?_⟩
    rw [blocksOf_scripts_of_settled hsettled visit.entrances g]
  have hscripts : blocksOf (f.map .script) visit.entrances (.ofSeed 0) = (blocks, .ofSeed 0) := by
    rw [blocksOf_scripts_of_settled hsettled visit.entrances (.ofSeed 0), hblocks]
  have hattempt := isAttempt_blocksOf (f.map .script) visit.entrances (.ofSeed 0)
  rw [hscripts] at hattempt
  refine ⟨_, visit.conclude visit.entrances blocks, (replayed visit blocks).2.report,
    fun g => ?_, visit.usesFirst_conclude f hused hscripts⟩
  obtain ⟨t, hrun, hshown⟩ := Plan.run_eq_replayed p visit g
  rw [hblocks] at hrun hshown
  refine ⟨t, ?_, hshown.visit.trans (visit_replayed visit hattempt), hshown.report⟩
  rw [hrun, status_replayed visit hattempt, hused]
  simp

/-- Two doors have the number three, and only these can be opened. The agent gets in through the
upper one, whatever is drawn for the two actions that depend on chance. -/
theorem first_door_is_used_twins :
    let p : ByAction Policy := ⟨.chance 150, .script fun door => door.number = 3, .chance 0,
      .always false, .always true, .always false⟩
    let visit : Visit :=
      ⟨[⟨1⟩, ⟨3⟩, ⟨3⟩, ⟨4⟩], [⟨9⟩], some ⟨9⟩, none, #[⟨"Walk to door", some 9, true⟩]⟩
    ∃ status after events,
      (∀ g, ∃ t, Plan.run (Plan.tree p) visit g = some (.ok status, t) ∧
        t.world.context = after ∧ t.events = events) ∧
      status = .success ∧ after.used = some ⟨3⟩ ∧ after.doors = [⟨3⟩, ⟨4⟩] ∧
      JournalEntry.walks (after.addedSince visit) = [some 1, some 3] := by
  intro p visit
  let f : ByAction (Door → Bool) := ⟨fun _ => true, fun door => door.number = 3, fun _ => false,
    fun _ => false, fun _ => true, fun _ => false⟩
  have hsettled : ∀ kind, (p.get kind).settled? = some (f.get kind) := by
    intro kind
    cases kind <;> rfl
  obtain ⟨status, after, events, hrun, hfirst⟩ := @first_door_is_used p f visit hsettled rfl
  obtain ⟨hused, hdoors, hwalks⟩ := hfirst.entered [⟨1⟩] ⟨3⟩ [⟨3⟩, ⟨4⟩] rfl (by decide) (by decide)
  refine ⟨status, after, events, hrun, hfirst.success_iff.2 ⟨⟨3⟩, ?_, ?_⟩, hused, hdoors, hwalks⟩
  · decide
  · decide

end TickTree
