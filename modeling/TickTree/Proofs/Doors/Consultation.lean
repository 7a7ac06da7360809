import TickTree.Proofs.Doors.Outcome

/-!
# The policies that an attempt consults

An attempt asks the policies of some actions in front of some doors, one after the other, and what
it does depends on nothing but their answers. The answers are what enters the journal, in the same
order, so the journal names every action whose policy was asked. A policy whose action is not
named could have been any other.

The list of consultations says what was asked and what the answers were. It determines the blocks
of the attempt, and with the policies also the random numbers that were drawn.

## Main definitions

* `Consultation`: a policy is asked in front of a door and answers
* `Consults`: policies give these answers, one after the other
* `consultationsOf`: the consultations of an attempt, by its blocks

## Main results

* `Consults.congr`: only the policies that are asked matter
* `consults_blocksOf`, `blocksOf_of_consults`: an attempt has these blocks exactly if the policies
  give their answers
* `only_consulted_policies_matter`: another policy for an action that the journal does not name
  leads to the same run
-/

namespace TickTree

/-- The policy of an action is asked in front of a door whether the action succeeds. -/
structure Consultation where
  door : Door
  kind : ActionKind
  succeeded : Bool

/-- The entry that a consultation leaves in the journal. -/
def Consultation.entry (c : Consultation) : JournalEntry :=
  ⟨c.kind.name, some c.door.number, c.succeeded⟩

/-- The policies give these answers, one after the other, and this takes the random source from one
state to another. -/
inductive Consults (p : ByAction Policy) : List Consultation → Generator → Generator → Prop
  | nil (g : Generator) : Consults p [] g g
  | cons {c : Consultation} {rest : List Consultation} {g g₁ g₂ : Generator} :
      (p.get c.kind).outcome c.door g = (c.succeeded, g₁) → Consults p rest g₁ g₂ →
        Consults p (c :: rest) g g₂

namespace Consults

variable {p p' : ByAction Policy} {c : Consultation} {first rest : List Consultation}
  {g g₁ g₂ : Generator}

@[simp] theorem nil_iff : Consults p [] g g₁ ↔ g = g₁ := by
  constructor
  · rintro ⟨⟩
    rfl
  · rintro rfl
    exact nil g

@[simp] theorem cons_iff : Consults p (c :: rest) g g₂ ↔
    ∃ g₁, (p.get c.kind).outcome c.door g = (c.succeeded, g₁) ∧ Consults p rest g₁ g₂ := by
  constructor
  · intro h
    cases h with
    | cons hfirst hrest => exact ⟨_, hfirst, hrest⟩
  · rintro ⟨g₁, hfirst, hrest⟩
    exact cons hfirst hrest

theorem append_iff : Consults p (first ++ rest) g g₂ ↔
    ∃ g₁, Consults p first g g₁ ∧ Consults p rest g₁ g₂ := by
  induction first generalizing g with
  | nil => simp
  | cons c first ih =>
    rw [List.cons_append, cons_iff]
    constructor
    · rintro ⟨g₁, hc, hmore⟩
      obtain ⟨g', hfirst, hrest⟩ := ih.1 hmore
      exact ⟨g', cons hc hfirst, hrest⟩
    · rintro ⟨g', hall, hrest⟩
      obtain ⟨g₁, hc, hfirst⟩ := cons_iff.1 hall
      exact ⟨g₁, hc, ih.2 ⟨g', hfirst, hrest⟩⟩

/-- Only the policies that are asked matter. -/
theorem congr (h : Consults p rest g g₁) (hsame : ∀ c ∈ rest, p'.get c.kind = p.get c.kind) :
    Consults p' rest g g₁ := by
  induction h with
  | nil g => exact nil g
  | cons hfirst hrest ih =>
    rw [List.forall_mem_cons] at hsame
    refine cons ?_ (ih hsame.2)
    rw [hsame.1, hfirst]

end Consults

/-! ### The consultations of an attempt -/

/-- An outcome of an action, in front of a door. -/
def Consultation.at (door : Door) : ActionKind × Bool → Consultation
  | (kind, succeeded) => ⟨door, kind, succeeded⟩

/-- The consultations at a door, by its block. -/
def Block.consultations (b : Block) (door : Door) : List Consultation :=
  b.outcomes.map (.at door)

theorem Block.entries_eq (b : Block) (door : Door) :
    b.entries door = (b.consultations door).map Consultation.entry := by
  rw [entries, consultations, List.map_map]
  rfl

/-- The consultations of an attempt, by its blocks. -/
def consultationsOf (doors : List Door) (blocks : List Block) : List Consultation :=
  (List.zipWith (fun door b => b.consultations door) doors blocks).flatten

@[simp] theorem consultationsOf_nil (blocks : List Block) : consultationsOf [] blocks = [] := rfl

@[simp] theorem consultationsOf_nil_right (doors : List Door) : consultationsOf doors [] = [] := by
  rw [consultationsOf, List.zipWith_nil_right, List.flatten_nil]

@[simp] theorem consultationsOf_cons (door : Door) (rest : List Door) (b : Block)
    (blocks : List Block) : consultationsOf (door :: rest) (b :: blocks) =
      b.consultations door ++ consultationsOf rest blocks := rfl

theorem record_eq (doors : List Door) (blocks : List Block) :
    record doors blocks = (consultationsOf doors blocks).map Consultation.entry := by
  rw [record, consultationsOf, List.map_flatten, List.map_zipWith]
  simp only [Block.entries_eq]

variable {p p' : ByAction Policy} {door : Door} {b : Block} {g g' : Generator}

/-- What is tried to get a door open, with the outcomes. -/
def Way.tries : Option Way → List (ActionKind × Bool)
  | none => [(.opening, false), (.unlocking, false), (.smashing, false)]
  | some way => way.outcomes

/-- The policies get a door open in a way exactly if they give its answers. -/
theorem wayAt_eq_iff {way : Option Way} :
    wayAt p door g = (way, g') ↔ Consults p ((Way.tries way).map (.at door)) g g' := by
  unfold wayAt
  rcases hopen : p.opening.outcome door g with ⟨_ | _, g₁⟩
  case true =>
    rcases way with _ | _ | _ | _ <;>
      simp [Way.tries, Way.outcomes, Consultation.at, ByAction.get, hopen]
  rcases hunlock : p.unlocking.outcome door g₁ with ⟨_ | _, g₂⟩
  case true =>
    rcases way with _ | _ | _ | _ <;>
      simp [Way.tries, Way.outcomes, Consultation.at, ByAction.get, hopen, hunlock]
  rcases hsmash : p.smashing.outcome door g₂ with ⟨_ | _, g₃⟩ <;>
    rcases way with _ | _ | _ | _ <;>
      simp [Way.tries, Way.outcomes, Consultation.at, ByAction.get, hopen, hunlock, hsmash]

namespace Block

@[simp] theorem consults_unreached_iff : Consults p (unreached.consultations door) g g' ↔
    p.walkTo.outcome door g = (false, g') := by
  simp [consultations, outcomes, Consultation.at, ByAction.get]

@[simp] theorem consults_shut_iff : Consults p (shut.consultations door) g g' ↔
    ∃ g₁, p.walkTo.outcome door g = (true, g₁) ∧ wayAt p door g₁ = (none, g') := by
  have houtcomes : shut.outcomes = (.walkTo, true) :: Way.tries none := rfl
  simp [consultations, houtcomes, ← wayAt_eq_iff, Consultation.at, ByAction.get]

@[simp] theorem consults_blocked_iff {way : Way} :
    Consults p ((blocked way).consultations door) g g' ↔
      ∃ g₁ g₂, p.walkTo.outcome door g = (true, g₁) ∧ wayAt p door g₁ = (some way, g₂) ∧
        p.walkThrough.outcome door g₂ = (false, g') := by
  have houtcomes : (blocked way).outcomes =
      (.walkTo, true) :: (Way.tries (some way) ++ [(.walkThrough, false)]) := rfl
  simp [consultations, houtcomes, Consults.append_iff, ← wayAt_eq_iff, Consultation.at,
    ByAction.get]

@[simp] theorem consults_passed_iff {way : Way} {closed : Bool} :
    Consults p ((passed way closed).consultations door) g g' ↔
      ∃ g₁ g₂ g₃, p.walkTo.outcome door g = (true, g₁) ∧ wayAt p door g₁ = (some way, g₂) ∧
        p.walkThrough.outcome door g₂ = (true, g₃) ∧ p.closing.outcome door g₃ = (closed, g') := by
  have houtcomes : (passed way closed).outcomes =
      (.walkTo, true) :: (Way.tries (some way) ++ [(.walkThrough, true), (.closing, closed)]) := rfl
  simp [consultations, houtcomes, Consults.append_iff, ← wayAt_eq_iff, Consultation.at,
    ByAction.get]

end Block

/-- The policies lead to a block exactly if they give its answers. -/
theorem blockAt_eq_iff :
    blockAt p door g = (b, g') ↔ Consults p (b.consultations door) g g' := by
  unfold blockAt
  rcases hwalk : p.walkTo.outcome door g with ⟨_ | _, g₁⟩
  case false => cases b <;> simp [hwalk]
  rcases hway : wayAt p door g₁ with ⟨_ | way, g₂⟩
  case none => cases b <;> simp [hwalk, hway]
  rcases hpass : p.walkThrough.outcome door g₂ with ⟨_ | _, g₃⟩
  case false => cases b <;> simp [hwalk, hway, hpass, and_assoc]
  rcases hclose : p.closing.outcome door g₃ with ⟨closed, g₄⟩
  cases b <;> simp [hwalk, hway, hpass, hclose, and_assoc]

/-- The policies lead to the blocks of an attempt exactly if they give its answers. -/
theorem blocksOf_eq_iff {doors : List Door} {blocks : List Block} :
    blocksOf p doors g = (blocks, g') ↔
      IsAttempt doors.length blocks ∧ Consults p (consultationsOf doors blocks) g g' := by
  -- The blocks at the other doors begin where the block at the first door leaves the source.
  induction doors generalizing g blocks with
  | nil =>
    rw [blocksOf, Prod.mk.injEq, consultationsOf_nil, Consults.nil_iff]
    apply and_congr_left
    rintro -
    constructor
    · rintro rfl
      exact .nil
    · intro hattempt
      exact hattempt.eq_nil.symm
  | cons door rest ih =>
    constructor
    · intro h
      have hattempt := isAttempt_blocksOf p (door :: rest) g
      rw [h] at hattempt
      refine ⟨hattempt, ?_⟩
      rcases hb : blockAt p door g with ⟨b, g₁⟩
      have hfirst := blockAt_eq_iff.1 hb
      rcases hmore : blocksOf p rest g₁ with ⟨later, g₂⟩
      simp only [blocksOf, hb, hmore] at h
      -- Only behind a door that failed there are consultations at the others.
      cases hpass : b.passes with
      | true =>
        rw [if_pos hpass] at h
        obtain ⟨rfl, rfl⟩ := Prod.mk.inj h
        simpa using hfirst
      | false =>
        rw [if_neg (by simp [hpass])] at h
        obtain ⟨rfl, rfl⟩ := Prod.mk.inj h
        exact Consults.append_iff.2 ⟨g₁, hfirst, (ih.1 hmore).2⟩
    · rintro ⟨hattempt, hconsults⟩
      obtain ⟨b, blocks, rfl, hrest⟩ := hattempt.of_succ
      rw [consultationsOf_cons, Consults.append_iff] at hconsults
      obtain ⟨g₁, hb, hmore⟩ := hconsults
      rw [← blockAt_eq_iff] at hb
      rw [blocksOf, hb]
      rcases hrest with ⟨hpass, rfl⟩ | ⟨hfail, hrest⟩
      · rw [consultationsOf_nil_right, Consults.nil_iff] at hmore
        simp [hpass, hmore]
      · simp [hfail, ih.2 ⟨hrest, hmore⟩]

/-- Policies that agree on the actions that are asked about lead to the same blocks. -/
theorem blocksOf_congr {doors : List Door}
    (hsame : ∀ c ∈ consultationsOf doors (blocksOf p doors g).1, p'.get c.kind = p.get c.kind) :
    blocksOf p' doors g = blocksOf p doors g := by
  obtain ⟨hattempt, hconsults⟩ := blocksOf_eq_iff.1 (Eq.refl (blocksOf p doors g))
  exact blocksOf_eq_iff.2 ⟨hattempt, hconsults.congr hsame⟩

/-! ### Policies that are not consulted -/

/-- Only consulted policies matter. If the entries that a run adds to the journal do not name an
action, then any other policy for this action leads to the same run: from the same visit and random
source, it returns the same verdict and leaves the same visit, random source and report. -/
theorem only_consulted_policies_matter {p : ByAction Policy} {visit : Visit} {g : Generator}
    {v : Verdict} {t : Scene DoorLeaf Visit DoorNote} {kind : ActionKind}
    (hrun : Plan.run (Plan.tree p) visit g = some (v, t))
    (hsilent : ∀ entry ∈ t.world.context.addedSince visit, entry.action ≠ kind.name)
    (policy : Policy) :
    ∃ t', Plan.run (Plan.tree (p.set kind policy)) visit g = some (v, t') ∧
      t'.world.context = t.world.context ∧ t'.world.generator = t.world.generator ∧
      t'.events = t.events := by
  obtain ⟨scene, hscene, hshown⟩ := Plan.run_eq_replayed p visit g
  obtain ⟨t', hrun', hshown'⟩ := Plan.run_eq_replayed (p.set kind policy) visit g
  obtain ⟨rfl, rfl⟩ := Prod.mk.inj (Option.some.inj (hrun.symm.trans hscene))
  have hattempt := isAttempt_blocksOf p visit.entrances g
  -- An action that was asked about is named by an entry, so it is another one.
  have hadded : t.world.context.addedSince visit =
      (consultationsOf visit.entrances (blocksOf p visit.entrances g).1).map
        Consultation.entry := by
    rw [hshown.visit, visit_replayed visit hattempt, Visit.addedSince_conclude, record_eq]
  have hblocks : blocksOf (p.set kind policy) visit.entrances g =
      blocksOf p visit.entrances g := by
    apply blocksOf_congr
    intro c hc
    have hentry : c.entry ∈ t.world.context.addedSince visit := by
      rw [hadded]
      exact List.mem_map_of_mem hc
    have hkind : c.kind ≠ kind := fun heq => hsilent c.entry hentry (congrArg ActionKind.name heq)
    rw [ByAction.get_set, if_neg hkind]
  rw [hblocks] at hrun' hshown'
  exact ⟨t', hrun', hshown'.visit.trans hshown.visit.symm,
    hshown'.generator.trans hshown.generator.symm, hshown'.report.trans hshown.report.symm⟩

/-- An agent that opens the second door never smashes one, whatever was smashed in an earlier
attempt, so it could have left that to chance. -/
theorem only_consulted_policies_matter_smashing :
    let p : ByAction Policy := ⟨.script fun door => door.number = 2, .always true, .always false,
      .always false, .script fun door => door.number = 2, .always false⟩
    let visit : Visit := ⟨[⟨1⟩, ⟨2⟩], [⟨7⟩], some ⟨7⟩, none, #[⟨"Smash door", some 7, true⟩]⟩
    ∃ v t t', Plan.run (Plan.tree p) visit (.ofSeed 0) = some (v, t) ∧
      t.world.context.addedSince visit = [⟨"Walk to door", some 1, false⟩,
        ⟨"Walk to door", some 2, true⟩, ⟨"Open door", some 2, true⟩,
        ⟨"Walk through door", some 2, true⟩, ⟨"Close door", some 2, false⟩] ∧
      Plan.run (Plan.tree (p.set .smashing (.chance 50))) visit (.ofSeed 0) = some (v, t') ∧
      t'.world.context = t.world.context ∧ t'.world.generator = t.world.generator ∧
      t'.events = t.events := by
  intro p visit
  have hjournal : (Plan.run (Plan.tree p) visit (.ofSeed 0)).map
      (fun answer => answer.2.world.context.addedSince visit) =
        some [⟨"Walk to door", some 1, false⟩, ⟨"Walk to door", some 2, true⟩,
          ⟨"Open door", some 2, true⟩, ⟨"Walk through door", some 2, true⟩,
          ⟨"Close door", some 2, false⟩] := by
    decide +kernel
  obtain ⟨⟨v, t⟩, hrun, hadded⟩ := Option.map_eq_some_iff.1 hjournal
  have hsilent : ∀ entry ∈ t.world.context.addedSince visit,
      entry.action ≠ ActionKind.smashing.name := by
    rw [hadded]
    decide
  obtain ⟨t', hrun', hsame⟩ := only_consulted_policies_matter hrun hsilent (.chance 50)
  exact ⟨v, t, t', hrun, hadded, hrun', hsame⟩

end TickTree
