import TickTree.Proofs.Doors.Outcome

/-!
# Closing decides nothing

An agent that closes a door is through it already. Whether it can be closed changes neither what the
attempt returns nor where it ends, and nothing is done after it: the door is remembered, and the
loop over the doors is over. So the policy for closing is asked at most once in an attempt, and last
of all. With another policy the attempt is the same up to there, and differs by no more than this
one answer and the numbers that were drawn for it.

## Main definitions

* `JournalEntry.NoneOnClosing`: entries that are not about closing a door
* `Visit.ClosesLast`: an attempt up to the closing, and the closing
* `Visit.AlikeButClosing`: what two attempts have in common whose policies differ in closing

## Main results

* `blockAt_closing`, `blocksOf_closing`: the blocks of an attempt, for all policies for closing
* `closing_decides_nothing`: the law for any two policies for closing
-/

namespace TickTree

/-! ### Blocks with any policy for closing -/

section

variable (p : ByAction Policy)

/-- A block depends on the policy for closing only if the agent got through, and then only in
whether the door is closed. -/
theorem blockAt_closing (door : Door) (g : Generator) :
    (∃ b g₁, b.passes = false ∧
      ∀ close, blockAt { p with closing := close } door g = (b, g₁)) ∨
    ∃ way g₁, ∀ close, blockAt { p with closing := close } door g =
      (.passed way (close.outcome door g₁).1, (close.outcome door g₁).2) := by
  -- What comes before the closing is decided by the other policies.
  have hway (close : Policy) (g : Generator) :
      wayAt { p with closing := close } door g = wayAt p door g := rfl
  rcases hwalk : p.walkTo.outcome door g with ⟨_ | _, g₁⟩
  case false => exact .inl ⟨.unreached, g₁, rfl, fun close => by simp [blockAt, hwalk]⟩
  rcases hopen : wayAt p door g₁ with ⟨_ | way, g₂⟩
  case none => exact .inl ⟨.shut, g₂, rfl, fun close => by simp [blockAt, hwalk, hway, hopen]⟩
  rcases hpass : p.walkThrough.outcome door g₂ with ⟨_ | _, g₃⟩
  case false =>
    exact .inl ⟨.blocked way, g₃, rfl, fun close => by simp [blockAt, hwalk, hway, hopen, hpass]⟩
  exact .inr ⟨way, g₃, fun close => by simp [blockAt, hwalk, hway, hopen, hpass]⟩

/-- The blocks of an attempt depend on the policy for closing only if the agent got through a door,
and then only in whether this door is closed. -/
theorem blocksOf_closing (doors : List Door) (g : Generator) :
    (∃ blocks g₁, blocks.any Block.passes = false ∧
      ∀ close, blocksOf { p with closing := close } doors g = (blocks, g₁)) ∨
    ∃ above door below failing way g₁, doors = above ++ door :: below ∧
      above.length = failing.length ∧ failing.any Block.passes = false ∧
      ∀ close, blocksOf { p with closing := close } doors g =
        (failing ++ [.passed way (close.outcome door g₁).1], (close.outcome door g₁).2) := by
  induction doors generalizing g with
  | nil => exact .inl ⟨[], g, rfl, fun _ => rfl⟩
  | cons door rest ih =>
    rcases blockAt_closing p door g with ⟨b, g₁, hb, hblock⟩ | ⟨way, g₁, hblock⟩
    · -- The attempt goes on behind a door that failed.
      rcases ih g₁ with ⟨blocks, g₂, hfail, hblocks⟩ |
        ⟨above, door', below, failing, way, g₂, hdoors, hlength, hfail, hblocks⟩
      · refine .inl ⟨b :: blocks, g₂, by simp [hb, hfail], fun close => ?_⟩
        simp [blocksOf, hblock, hb, hblocks]
      · refine .inr ⟨door :: above, door', below, b :: failing, way, g₂, by rw [hdoors]; rfl,
          by simp [hlength], by simp [hb, hfail], fun close => ?_⟩
        simp [blocksOf, hblock, hb, hblocks]
    · refine .inr ⟨[], door, rest, [], way, g₁, rfl, rfl, rfl, fun close => ?_⟩
      simp [blocksOf, hblock, Block.passes]

end

/-! ### Entries on closing -/

namespace JournalEntry

/-- Entries that are not about closing a door. -/
def NoneOnClosing (entries : List JournalEntry) : Prop :=
  ∀ entry ∈ entries, entry.action ≠ ActionKind.closing.name

theorem NoneOnClosing.append {entries entries' : List JournalEntry} (h : NoneOnClosing entries)
    (h' : NoneOnClosing entries') : NoneOnClosing (entries ++ entries') :=
  List.forall_mem_append.2 ⟨h, h'⟩

theorem noneOnClosing_map {outcomes : List (ActionKind × Bool)}
    (h : ∀ outcome ∈ outcomes, outcome.1 ≠ .closing) (door : Door) :
    NoneOnClosing (outcomes.map fun outcome =>
      ⟨outcome.1.name, some door.number, outcome.2⟩) := by
  intro entry hentry hname
  obtain ⟨outcome, houtcome, rfl⟩ := List.mem_map.1 hentry
  exact h outcome houtcome (ActionKind.name_inj.1 hname)

end JournalEntry

/-- An agent that did not get through closed nothing. -/
theorem Block.noneOnClosing_entries {b : Block} (h : b.passes = false) (door : Door) :
    JournalEntry.NoneOnClosing (b.entries door) := by
  apply JournalEntry.noneOnClosing_map
  cases b with
  | unreached => decide
  | shut => decide
  | blocked way => cases way <;> decide
  | passed way closed => exact absurd h (by simp [passes])

theorem noneOnClosing_record (doors : List Door) {blocks : List Block}
    (h : blocks.any Block.passes = false) : JournalEntry.NoneOnClosing (record doors blocks) := by
  induction doors generalizing blocks with
  | nil => simp [record, JournalEntry.NoneOnClosing]
  | cons door rest ih =>
    cases blocks with
    | nil => simp [record, JournalEntry.NoneOnClosing]
    | cons b blocks =>
      rw [List.any_cons, Bool.or_eq_false_iff] at h
      rw [record_cons]
      exact (b.noneOnClosing_entries h.1 door).append (ih h.2)

/-- The entries of a door that led into the building end with the one on closing it. -/
theorem Block.exists_entries_passed (way : Way) (door : Door) :
    ∃ front, JournalEntry.NoneOnClosing front ∧ ∀ closed, (passed way closed).entries door =
      front ++ [⟨ActionKind.closing.name, some door.number, closed⟩] := by
  let before : List (ActionKind × Bool) := (.walkTo, true) :: way.outcomes ++ [(.walkThrough, true)]
  have hnone : ∀ outcome ∈ before, outcome.1 ≠ .closing := by
    cases way <;> decide
  refine ⟨_, JournalEntry.noneOnClosing_map hnone door, fun closed => ?_⟩
  have hsplit : (passed way closed).outcomes = before ++ [(.closing, closed)] := by
    simp [outcomes, before]
  rw [entries, hsplit, List.map_append]
  rfl

/-! ### Two policies for closing -/

namespace Visit

/-- The attempt adds the entries `earlier` to the journal and leaves the random source in the state
`g`. If there is a door to close, then this is the last thing that it does, by the policy
`close`. -/
def ClosesLast (close : Policy) (before : Visit) (earlier : List JournalEntry) (g : Generator)
    (t : Scene DoorLeaf Visit DoorNote) : Option Door → Prop
  | none => t.world.context.journal.toList = before.journal.toList ++ earlier ∧
      t.world.generator = g
  | some door => ∃ closed, close.decide (some door) g = (.ok closed, t.world.generator) ∧
      t.world.context.journal.toList = before.journal.toList ++ earlier ++
        [⟨ActionKind.closing.name, some door.number, closed⟩]

/-- Two attempts with these policies for closing leave the visit alike, except for what the last
entry of the journal says if it is on closing a door, and what was drawn for it. -/
structure AlikeButClosing (close close' : Policy) (before : Visit)
    (t t' : Scene DoorLeaf Visit DoorNote) : Prop where
  entrances : t.world.context.entrances = t'.world.context.entrances
  doors : t.world.context.doors = t'.world.context.doors
  current : t.world.context.current = t'.world.context.current
  used : t.world.context.used = t'.world.context.used
  closing : ∃ earlier g door, JournalEntry.NoneOnClosing earlier ∧
    ClosesLast close before earlier g t door ∧ ClosesLast close' before earlier g t' door

end Visit

/-- Closing decides nothing. For any two policies for closing, and whatever the visit, the random
source and the other policies are, both attempts return the same status and leave the same doors.
The journals are the same, except that they may end with different entries on closing the same door,
and up to there the same numbers are drawn. -/
theorem closing_decides_nothing (p : ByAction Policy) (close close' : Policy) (visit : Visit)
    (g : Generator) :
    ∃ status t t',
      Plan.run (Plan.tree { p with closing := close }) visit g = some (.ok status, t) ∧
      Plan.run (Plan.tree { p with closing := close' }) visit g = some (.ok status, t') ∧
      visit.AlikeButClosing close close' t t' := by
  obtain ⟨t, hrun, hvisit, hend⟩ :=
    Plan.run_eq_conclude { p with closing := close } visit g
  obtain ⟨t', hrun', hvisit', hend'⟩ :=
    Plan.run_eq_conclude { p with closing := close' } visit g
  rcases blocksOf_closing p visit.entrances g with ⟨blocks, g₁, hfail, hblocks⟩ |
    ⟨above, door, below, failing, way, g₁, hdoors, hlength, hfail, hblocks⟩
  · -- No door led into the building, so that none was closed.
    rw [hblocks] at hrun hvisit hend hrun' hvisit' hend'
    refine ⟨_, t, t', hrun, hrun', ?_⟩
    constructor
    case closing =>
      refine ⟨record visit.entrances blocks, g₁, none, noneOnClosing_record _ hfail, ?_, ?_⟩
      · exact ⟨by simp [hvisit, Visit.conclude], hend⟩
      · exact ⟨by simp [hvisit', Visit.conclude], hend'⟩
    all_goals rw [hvisit, hvisit']
  · rw [hblocks] at hrun hvisit hend hrun' hvisit' hend'
    have hany (closed : Bool) :
        (failing ++ [Block.passed way closed]).any Block.passes = true := by simp [Block.passes]
    rw [hany] at hrun hrun'
    refine ⟨_, t, t', hrun, hrun', ?_⟩
    obtain ⟨front, hfront, hentries⟩ := Block.exists_entries_passed way door
    have hrecord (closed : Bool) :
        record visit.entrances (failing ++ [Block.passed way closed]) =
          record above failing ++ front ++
            [⟨ActionKind.closing.name, some door.number, closed⟩] := by
      rw [hdoors, record_append hlength, List.append_assoc, ← hentries]
      simp [record]
    constructor
    case closing =>
      refine ⟨record above failing ++ front, g₁, some door, ?_, ?_, ?_⟩
      · exact (noneOnClosing_record above hfail).append hfront
      · refine ⟨(close.outcome door g₁).1, ?_, ?_⟩
        · rw [Policy.decide_some, hend]
        · simp [hvisit, Visit.conclude, hrecord]
      · refine ⟨(close'.outcome door g₁).1, ?_, ?_⟩
        · rw [Policy.decide_some, hend']
        · simp [hvisit', Visit.conclude, hrecord]
    all_goals
      rw [hvisit, hvisit']
      simp [Visit.conclude, hany]

end TickTree
