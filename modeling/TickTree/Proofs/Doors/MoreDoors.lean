import TickTree.Proofs.Doors.Outcome

/-!
# More doors

A building with more doors is entered like one with less, as long as the agent is at the doors that
both have. If it gets through one of these, then the other doors are left as they are, and nothing
else differs. If it gives up at them, then it goes on with the others as with the doors of a
building of their own, with the random source as it was left.

## Main definitions

* `Entry.Settled`, `Entry.Continued`: how visits to two buildings are related, one of which has more
  doors

## Main results

* `Entry.settled_ofBlocks`, `Entry.continued_ofBlocks`: attempts whose blocks are the same, or begin
  in the same way, are related
* `more_doors_extend_visit`: any two visits with the same chances are related
-/

namespace TickTree

/-- The agent got in through one of the first `n` doors. With `m` doors it did the same, and the
doors behind the one that it used are left. -/
structure Entry.Settled (few many : Entry) (n m : Nat) : Prop where
  success : few.result = .ok .success
  result : many.result = few.result
  current : many.visit.current = few.visit.current
  used : many.visit.used = few.visit.used
  journal : many.visit.journal = few.visit.journal
  generator : many.generator = few.generator
  doors : ∃ k, 1 ≤ k ∧ k ≤ n ∧ few.visit.used = some ⟨k⟩ ∧ many.visit.doors = doorsBetween k m

/-- The agent gave up at the first `n` doors. With `m` doors it went on as in a visit to the others
alone, which has this status and leaves this scene. -/
structure Entry.Continued (few many : Entry) (p : ByAction Policy) (n m : Nat) (status : Status)
    (rest : Scene DoorLeaf Visit DoorNote) : Prop where
  failure : few.result = .ok .failure
  run : Plan.run (Plan.tree p) (.ofDoors (doorsBetween n m)) few.generator =
    some (.ok status, rest)
  result : many.result = .ok status
  journal : many.visit.journal = few.visit.journal ++ rest.world.context.journal
  used : many.visit.used = rest.world.context.used
  generator : many.generator = rest.world.generator
  current : n < m → many.visit.current = rest.world.context.current
  doors : n < m → many.visit.doors = rest.world.context.doors

section

variable {n m : Nat} {blocks : List Block} (h : n ≤ m) (g : Generator)
  (events events' : List (Event DoorNote))

/-- Doors behind those of the blocks are left over. -/
theorem Visit.conclude_doorsBetween (visit : Visit) (h : n ≤ m) (hle : blocks.length ≤ n) :
    visit.conclude (doorsBetween 0 m) blocks =
      { visit.conclude (doorsBetween 0 n) blocks with doors := doorsBetween blocks.length m } := by
  have hlength : blocks.length ≤ (doorsBetween 0 n).length := by simpa using hle
  rw [← doorsBetween_append (Nat.zero_le n) h, visit.conclude_append_left _ hlength,
    drop_doorsBetween, Nat.zero_add, doorsBetween_append hle h]

namespace Entry

include h

theorem settled_ofBlocks (hattempt : IsAttempt n blocks)
    (hpass : blocks.any Block.passes = true) :
    (ofBlocks (doorsBetween 0 n) blocks g events).Settled
      (ofBlocks (doorsBetween 0 m) blocks g events') n m := by
  have hle : blocks.length ≤ n := hattempt.length_le
  have hpos : 0 < blocks.length := length_pos_of_passes hpass
  have hused : (ofBlocks (doorsBetween 0 n) blocks g events).visit.used = some ⟨blocks.length⟩ := by
    rw [visit_ofBlocks, Visit.used_conclude_of_passes _ hpass,
      Visit.current_conclude_doorsBetween _ hpos hle]
  have hmany : (ofBlocks (doorsBetween 0 m) blocks g events').visit =
      { (Visit.ofDoors (doorsBetween 0 m)).conclude (doorsBetween 0 n) blocks with
        doors := doorsBetween blocks.length m } := Visit.conclude_doorsBetween _ h hle
  constructor
  case success => exact result_ofBlocks_of_passes g events hpass
  case result => rfl
  case generator => rfl
  case doors =>
    rw [hmany]
    exact ⟨blocks.length, hpos, hle, hused, rfl⟩
  all_goals
    rw [hmany]
    rfl

theorem continued_ofBlocks (p : ByAction Policy) (hattempt : IsAttempt n blocks)
    (hfail : blocks.any Block.passes = false) :
    ∃ status rest, (ofBlocks (doorsBetween 0 n) blocks g events).Continued
      (ofBlocks (doorsBetween 0 m) (blocks ++ (blocksOf p (doorsBetween n m) g).1)
        (blocksOf p (doorsBetween n m) g).2 events') p n m status rest := by
  have hcount : (doorsBetween 0 n).length = blocks.length := by
    simpa using (hattempt.length_eq hfail).symm
  have hmore : IsAttempt (doorsBetween n m).length (blocksOf p (doorsBetween n m) g).1 :=
    isAttempt_blocksOf p (doorsBetween n m) g
  obtain ⟨rest, hrun, hrest, hend⟩ := Plan.run_eq_conclude p (.ofDoors (doorsBetween n m)) g
  have hmany : (Visit.ofDoors (doorsBetween 0 m)).conclude (doorsBetween 0 m)
      (blocks ++ (blocksOf p (doorsBetween n m) g).1) =
      ((Visit.ofDoors (doorsBetween 0 m)).conclude (doorsBetween 0 n) blocks).conclude
        (doorsBetween n m) (blocksOf p (doorsBetween n m) g).1 := by
    rw [← Visit.conclude_append _ hcount hfail, doorsBetween_append (Nat.zero_le n) h]
  -- No door was used so far, so the others decide which one is, as in a visit of their own.
  have hunused : ((Visit.ofDoors (doorsBetween 0 m)).conclude (doorsBetween 0 n) blocks).used =
      none := Visit.used_conclude_of_fails _ hfail
  refine ⟨.ofBool ((blocksOf p (doorsBetween n m) g).1.any Block.passes), rest, ?_⟩
  constructor
  case failure => exact result_ofBlocks_of_fails g events hfail
  case run =>
    rw [ofBlocks, hrun]
    simp [Visit.ofDoors]
  case result => simp [ofBlocks, hfail]
  case journal =>
    rw [visit_ofBlocks, hmany, hrest]
    simp [Visit.conclude, Visit.ofDoors]
  case used =>
    rw [visit_ofBlocks, hmany, hrest]
    exact Visit.used_conclude_congr hunused hmore.length_le
  case generator => exact hend.symm
  case current =>
    intro hlt
    have hdoors : 0 < (doorsBetween n m).length := by
      rw [length_doorsBetween]
      omega
    have hpos := hmore.length_pos hdoors
    rw [visit_ofBlocks, hmany, hrest]
    exact (Visit.current_conclude _ hpos hmore.length_le).trans
      (Visit.current_conclude _ hpos hmore.length_le).symm
  case doors =>
    intro _
    rw [visit_ofBlocks, hmany, hrest]
    rfl

end Entry

end

/-- More doors never change what happens at the first ones. -/
theorem more_doors_extend_visit (config : Config) (g : Generator) {n m : Nat} (h : n ≤ m) :
    ∃ few many, Config.enter { config with doorCount := n } g = some few ∧
      Config.enter { config with doorCount := m } g = some many ∧
      (few.Settled many n m ∨ ∃ status rest,
        few.Continued many (Plan.ofChances config.chances) n m status rest) := by
  obtain ⟨blocks, g₁, events, hblocks, hattempt, hfew⟩ := config.enter_eq n g
  obtain ⟨all, g₂, events', hall, -, hmany⟩ := config.enter_eq m g
  refine ⟨_, _, hfew, hmany, ?_⟩
  rw [← doorsBetween_append (Nat.zero_le n) h, blocksOf_append, hblocks] at hall
  cases hpass : blocks.any Block.passes with
  | true =>
    -- The attempt at all doors is over where the one at the first doors is.
    rw [if_pos hpass] at hall
    obtain ⟨rfl, rfl⟩ := Prod.mk.inj hall
    exact .inl (Entry.settled_ofBlocks h g₁ events events' hattempt hpass)
  | false =>
    -- The attempt at all doors has the blocks of the first doors and then those of the others.
    rw [if_neg (by simp [hpass])] at hall
    obtain ⟨rfl, rfl⟩ := Prod.mk.inj hall
    exact .inr (Entry.continued_ofBlocks h g₁ events events' _ hattempt hpass)

/-- An agent without a chance gives up at the first door, and then at the second. -/
theorem more_doors_extend_visit_hopeless :
    let config := { Config.standard with chances := ByAction.ofFn fun _ => 0 }
    ∃ few many status rest, Config.enter { config with doorCount := 1 } (.ofSeed 0) = some few ∧
      Config.enter { config with doorCount := 2 } (.ofSeed 0) = some many ∧
      few.visit.journal = #[⟨"Walk to door", some 1, false⟩] ∧
      few.Continued many (Plan.ofChances config.chances) 1 2 status rest := by
  intro config
  have hshown : ∃ few, Config.enter { config with doorCount := 1 } (.ofSeed 0) = some few ∧
      few.result = .ok .failure ∧ few.visit.journal = #[⟨"Walk to door", some 1, false⟩] :=
    ⟨_, rfl, rfl, rfl⟩
  obtain ⟨few, henter, hresult, hjournal⟩ := hshown
  obtain ⟨few', many, hfew, hmany, hcases⟩ :=
    more_doors_extend_visit config (.ofSeed 0) (by decide : 1 ≤ 2)
  obtain rfl : few = few' := Option.some.inj (henter.symm.trans hfew)
  rcases hcases with hsettled | ⟨status, rest, hcontinued⟩
  · have hsuccess := hsettled.success
    rw [hresult] at hsuccess
    exact nomatch hsuccess
  · exact ⟨few, many, status, rest, hfew, hmany, hjournal, hcontinued⟩

end TickTree
