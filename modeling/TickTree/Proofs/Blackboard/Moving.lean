import TickTree.Proofs.Blackboard.PopLoop

/-!
# Moving a stack

A stack is moved onto another item by item, through a slot: a pop loop pushes each item that it
takes. What lay on top comes to lie at the bottom of what was moved, so the items arrive in reverse
order. Moved twice they lie as before, which is a way to copy a stack through a third one, except
that the first stack is empty then.

If the two stacks are the same, each round puts back what it took, and there is no end.

## Main definitions

* `Node.moveAll`: the loop that moves a stack onto another
* `Moved`: what becomes of a world when items are moved from one stack to another

## Main results

* `Moved.append`: items are moved one list after the other
* `moved_of_inTurn`: what the rounds of the loop do to the world
* `Node.moveAll_answers`: the loop moves all items
* `moving_reverses`: it reverses a stack, twice it copies one, and onto itself it does not end
-/

namespace TickTree

open Blackboard

variable {C K S T : Type} [Blackboard C K S T]

/-- Moves the items of a stack onto another one, through a slot. -/
abbrev Node.moveAll (a : K) (x : S) (b : K) : Node (Primitive K S T) :=
  .popLoop (.pop a x) (.leaf (.push x b))

/-- Items from the top of one stack were moved onto another, through a slot, and nothing else was
changed. -/
structure Moved (a : K) (x : S) (b : K) (items : List T) (w w' : World C) : Prop where
  source : stack w.context a = items ++ stack w'.context a
  target : stack w'.context b = items.reverse ++ stack w.context b
  /-- The slot holds the item that was moved last, if there is one. -/
  slot : slot w'.context x = items.getLast?.or (slot w.context x)
  stack_eq : ∀ k, k ≠ a → k ≠ b → stack w'.context k = stack w.context k
  slot_eq : ∀ y, y ≠ x → Blackboard.slot w'.context y = Blackboard.slot w.context y
  flags_eq : w'.flags = w.flags
  generator_eq : w'.generator = w.generator

namespace Moved

variable {a b : K} {x : S} {items more : List T} {w w' w'' : World C}

theorem refl (w : World C) : Moved a x b [] w w :=
  ⟨rfl, rfl, rfl, fun _ _ _ => rfl, fun _ _ => rfl, rfl, rfl⟩

/-- Items that are moved later come to lie on top. -/
theorem append (h : Moved a x b items w w') (h' : Moved a x b more w' w'') :
    Moved a x b (items ++ more) w w'' where
  source := by rw [h.source, h'.source, List.append_assoc]
  target := by rw [h'.target, h.target, List.reverse_append, List.append_assoc]
  slot := by rw [h'.slot, h.slot, List.getLast?_append, Option.or_assoc]
  stack_eq k hka hkb := (h'.stack_eq k hka hkb).trans (h.stack_eq k hka hkb)
  slot_eq y hy := (h'.slot_eq y hy).trans (h.slot_eq y hy)
  flags_eq := h'.flags_eq.trans h.flags_eq
  generator_eq := h'.generator_eq.trans h.generator_eq

end Moved

variable [ToString T] {a b : K} {x : S} {s t u : Scene (Primitive K S T) C Transfer}

/-- A leaf that pushes puts the item of a slot onto a stack. -/
theorem Task.Runs.push_world {item : T} {acts : List (Act (Primitive K S T) Transfer)} {v : Verdict}
    (h : (Task.node (.leaf (Primitive.push x b))).Runs s acts v t)
    (hitem : slot s.world.context x = some item) :
    v = .ok .success ∧ t.world = { s.world with
      context := setStack s.world.context b (item :: stack s.world.context b) } := by
  obtain ⟨rfl, ht⟩ := (Primitive.performs_self _).runs h
  simp only [Primitive.act, hitem] at ht
  exact ⟨by rw [Primitive.act, hitem], ht⟩

/-- Each round takes an item from one stack and puts it onto the other, which may be the same. -/
theorem Serving.Leads.move_world {serving : Serving (Primitive K S T) T Transfer}
    (h : serving.Leads (.pop a x) (.leaf (.push x b)) a x s u) :
    serving.verdict = .ok .success ∧ ∃ rest, stack s.world.context a = serving.item :: rest ∧
      u.world = { s.world with
        context := setStack (setSlot (setStack s.world.context a rest) x (some serving.item)) b
          (serving.item :: stack (setStack s.world.context a rest) b) } := by
  obtain ⟨m, htaken, hstack, hslot, hbody⟩ := h
  obtain ⟨hverdict, hu⟩ := hbody.push_world hslot
  rcases (Primitive.performs_self _).runs_pop htaken with ⟨-, hfail, -⟩ | ⟨item, rest, hs, -, hm⟩
  · exact nomatch hfail
  · have hrest : stack m.world.context a = rest := by simp [hm]
    rw [hrest] at hstack
    obtain ⟨rfl, -⟩ := List.cons.inj (hs.symm.trans hstack)
    refine ⟨hverdict, rest, hs, ?_⟩
    rw [hu, hm]
    simp

/-! ### Onto another stack -/

/-- A leaf that pushes leaves the other stacks alone. -/
theorem Node.stack_push_of_ne (hab : a ≠ b) {v : Verdict}
    (h : (Node.leaf (Primitive.push x b)).Answers s v t) :
    stack t.world.context a = stack s.world.context a := by
  obtain ⟨acts, hacts⟩ := Node.answers_iff_exists_runs.1 h
  obtain ⟨-, ht⟩ := (Primitive.performs_self _).runs hacts
  rw [ht]
  cases hslot : slot s.world.context x <;>
    simp [Primitive.act, hslot, stack_setStack_of_ne _ _ hab]

/-- A round moves the item that it takes. -/
theorem Serving.Leads.moved {serving : Serving (Primitive K S T) T Transfer} (hab : a ≠ b)
    (h : serving.Leads (.pop a x) (.leaf (.push x b)) a x s u) :
    Moved a x b [serving.item] s.world u.world := by
  obtain ⟨-, rest, hs, hu⟩ := h.move_world
  rw [hu]
  constructor
  case source => simp [hs, stack_setStack_of_ne _ _ hab]
  case target => simp [stack_setStack_of_ne _ _ hab.symm]
  case slot => simp
  case stack_eq =>
    intro k hka hkb
    simp [stack_setStack_of_ne _ _ hkb, stack_setStack_of_ne _ _ hka]
  case slot_eq =>
    intro y hy
    simp [slot_setSlot_of_ne _ _ hy]
  case flags_eq => rfl
  case generator_eq => rfl

/-- Rounds move their items one after the other. -/
theorem moved_of_inTurn {servings : List (Serving (Primitive K S T) T Transfer)} (hab : a ≠ b)
    (h : InTurn (Serving.Leads (.pop a x) (.leaf (.push x b)) a x) servings s u) :
    Moved a x b (servings.map Serving.item) s.world u.world := by
  induction h with
  | nil => exact .refl _
  | cons hserving _ ih => exact (hserving.moved hab).append ih

/-- The loop moves all items. -/
theorem Node.moveAll_answers (hab : a ≠ b) (x : S) (s : Scene (Primitive K S T) C Transfer) :
    ∃ t, (moveAll a x b).Answers s (.ok .success) t ∧ stack t.world.context a = [] ∧
      Moved a x b (stack s.world.context a) s.world t.world := by
  have hpop := Primitive.performs_self (C := C) (.pop a x)
  obtain ⟨acts, v, t, hruns⟩ := Node.exists_runs_popLoop hpop (leaf_answers (.push x b))
    (fun s t v h => Nat.le_of_eq (congrArg List.length (stack_push_of_ne hab h))) s
  obtain ⟨_, successes, served, last, u, ending, rfl, hserved, -, hend, -⟩ :=
    (runs_popLoop_iff hpop).1 hruns
  -- The leaf that pushes finds the item in the slot, so no round but the one without an item ends
  -- the loop.
  cases hend with
  | empty hempty hmissed =>
    have hworld := hpop.world_eq_of_failure hmissed
    have hmoved := moved_of_inTurn hab hserved
    have hitems : stack s.world.context a = served.map Serving.item := by
      rw [hmoved.source, hempty, List.append_nil]
    rw [← hworld] at hempty hmoved
    rw [hitems]
    exact ⟨_, hruns.answers, hempty, hmoved⟩
  | failed hserving hverdict => exact nomatch hserving.move_world.1.symm.trans hverdict
  | fault hserving hverdict => exact nomatch hserving.move_world.1.symm.trans hverdict

/-- A leaf that copies a stack does so in one tick. -/
theorem Node.copy_answers (a b : K) (s : Scene (Primitive K S T) C Transfer) :
    ∃ t, (Node.leaf (Primitive.get b a none)).Answers s (.ok .success) t ∧
      stack t.world.context b = stack s.world.context a :=
  ⟨_, ⟨0, Behavior.leaf_eq _ s⟩, stack_setStack_self ..⟩

/-! ### Onto itself -/

/-- If a stack with items is moved onto itself, a round succeeds and leaves the stack as it was. -/
theorem Node.exists_leads_moveAll_self (h : stack s.world.context a ≠ []) :
    ∃ acts u, Round.Leads none (.popThen (.pop a x) (.leaf (.push x a))) ⟨.success, acts⟩ s u ∧
      stack u.world.context a = stack s.world.context a := by
  have hpop := Primitive.performs_self (C := C) (.pop a x)
  obtain ⟨acts, v, u, hruns⟩ := exists_runs_popThen hpop (leaf_answers (.push x a)) s
  rcases (runs_popThen_iff hpop).1 hruns with ⟨serving, hserving, rfl, -⟩ | ⟨hempty, -⟩
  · obtain ⟨hverdict, rest, hs, hu⟩ := hserving.move_world
    rw [hverdict] at hruns
    exact ⟨acts, u, ⟨rfl, hruns⟩, by simp [hu, hs]⟩
  · exact absurd hempty h

/-- So it succeeds again and again. -/
theorem Node.succeeds_moveAll_self (h : stack s.world.context a ≠ []) :
    UntilFail.Succeeds none (.popThen (.pop a x) (.leaf (.push x a))) s := by
  intro n
  induction n generalizing s with
  | zero => exact ⟨[], s, Rounds.nil_iff.2 ⟨rfl, rfl⟩⟩
  | succ n ih =>
    obtain ⟨first, m, hfirst, hstack⟩ := exists_leads_moveAll_self (x := x) h
    rw [← hstack] at h
    obtain ⟨rest, u, hrest⟩ := ih h
    exact ⟨first ++ rest, u, Rounds.cons_iff.2 ⟨first, m, rest, hfirst, hrest, rfl⟩⟩

/-- Moving a stack item by item reverses it, and twice copies it. From every scene, a stack `a` that
is moved onto another one `b` through a slot ends empty, and the items lie on `b` in reverse order.
The slot holds the item that lay at the bottom of `a`, if there was one. All other stacks and slots
are as they were. If `a` is moved onto an empty stack `g` and this onto an empty stack `b`, then `b`
holds what a copy of `a` would put there. A stack with items that is moved onto itself is moved
without end. Stacks are listed from the top. -/
theorem moving_reverses (s : Scene (Primitive K S T) C Transfer) (a b : K) (x : S) :
    (a ≠ b → ∃ t, (Node.moveAll a x b).Answers s (.ok .success) t ∧
      stack t.world.context a = [] ∧
      stack t.world.context b = (stack s.world.context a).reverse ++ stack s.world.context b ∧
      slot t.world.context x = (stack s.world.context a).getLast?.or (slot s.world.context x) ∧
      (∀ k, k ≠ a → k ≠ b → stack t.world.context k = stack s.world.context k) ∧
      (∀ y, y ≠ x → slot t.world.context y = slot s.world.context y)) ∧
    (∀ g, a ≠ g → g ≠ b → a ≠ b → stack s.world.context g = [] → stack s.world.context b = [] →
      ∃ m t copied, (Node.moveAll a x g).Answers s (.ok .success) m ∧
        (Node.moveAll g x b).Answers m (.ok .success) t ∧
        (Node.leaf (Primitive.get b a none)).Answers s (.ok .success) copied ∧
        stack t.world.context b = stack copied.world.context b ∧
        stack t.world.context a = [] ∧ stack t.world.context g = []) ∧
    (stack s.world.context a ≠ [] → ∀ v t, ¬ (Node.moveAll a x a).Answers s v t) := by
  refine ⟨?_, ?_, ?_⟩
  · intro hab
    obtain ⟨t, ht, hempty, hmoved⟩ := Node.moveAll_answers hab x s
    exact ⟨t, ht, hempty, hmoved.target, hmoved.slot, hmoved.stack_eq, hmoved.slot_eq⟩
  · intro g hag hgb hab hg hb
    obtain ⟨m, hm, hma, hmoved⟩ := Node.moveAll_answers hag x s
    obtain ⟨t, ht, htg, hmoved'⟩ := Node.moveAll_answers hgb x m
    have hthere : stack m.world.context g = (stack s.world.context a).reverse := by
      rw [hmoved.target, hg, List.append_nil]
    have hback : stack t.world.context b = stack s.world.context a := by
      rw [hmoved'.target, hthere, List.reverse_reverse, hmoved.stack_eq b hab.symm hgb.symm, hb,
        List.append_nil]
    have ha : stack t.world.context a = [] := by
      rw [hmoved'.stack_eq a hag hab, hma]
    obtain ⟨copied, hcopied, hcopy⟩ := Node.copy_answers a b s
    exact ⟨m, t, copied, hm, ht, hcopied, hback.trans hcopy.symm, ha, htg⟩
  · intro hsome
    exact Node.untilFail_endless_iff.2 (.inl (Node.succeeds_moveAll_self hsome))

/-- Two texts arrive in reverse order, or in their order on a detour. -/
theorem moving_reverses_two_texts :
    let start : Scene (Primitive Board.StackName Board.SlotName String) Board Transfer :=
      .start ⟨{ Board.blank with alpha := ["a", "b"] }, .clear, .ofSeed 0⟩
    (∃ t, (Node.moveAll .alpha .x .beta).Answers start (.ok .success) t ∧
      t.world.context.beta = ["b", "a"] ∧ t.world.context.x = some "b") ∧
    (∃ m t, (Node.moveAll .alpha .x .gamma).Answers start (.ok .success) m ∧
      (Node.moveAll .gamma .x .beta).Answers m (.ok .success) t ∧
      t.world.context.beta = ["a", "b"] ∧
      t.world.context.alpha = [] ∧ t.world.context.gamma = []) ∧
    ∀ v t, ¬ (Node.moveAll .alpha .x .alpha).Answers start v t := by
  intro start
  obtain ⟨hmove, hcopy, hself⟩ := moving_reverses start .alpha .beta .x
  obtain ⟨t, ht, -, hbeta, hx, -, -⟩ := hmove (by decide)
  obtain ⟨m, t', copied, hm, ht', hcopied, hbeta', halpha, hgamma⟩ :=
    hcopy .gamma (by decide) (by decide) (by decide) rfl rfl
  obtain ⟨copied', hcopied', hitems⟩ := Node.copy_answers Board.StackName.alpha .beta start
  obtain ⟨-, rfl⟩ := hcopied.unique hcopied'
  exact ⟨⟨t, ht, hbeta, hx⟩, ⟨m, t', hm, ht', hbeta'.trans hitems, halpha, hgamma⟩,
    hself (List.cons_ne_nil _ _)⟩

end TickTree
