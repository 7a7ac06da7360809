import TickTree.Doors.Action
import TickTree.Proofs.Blackboard.PopLoop
import TickTree.Proofs.Blackboard.Provenance

/-!
# All or nothing

A leaf over a blackboard succeeds, or it does nothing at all. It reads what it needs before it
writes, so a leaf that fails or returns a fault has written nothing, and it has nothing to report.
An action that returns a fault is no different.

Two leaves that move an item the opposite way undo each other, up to the slot that the item passes
through. And a copy of a stack is a copy of its items at that time: it changes only through leaves
that target the copy. All this holds for any handles, also if a leaf names the same one twice.

## Main definitions

* `Leaf.KeepsStack`: no tick of a leaf changes a stack

## Main results

* `Primitive.act_of_ne_success`, `Action.tick_eq_of_error`: without success nothing happens
* `Leaf.Performs.answers_push_pop`, `Leaf.Performs.answers_pop_push`: there and back
* `Move.stack_runAll`: leaves that keep a stack keep it for any number of ticks
* `leaves_are_all_or_nothing`: what this says about ticks of leaves
-/

namespace TickTree

open Blackboard

variable {L C E K S T : Type} [Leaf L C E] [Blackboard C K S T]

/-! ### Nothing -/

section

variable [ToString T]

namespace Primitive

variable {c : C} {k : K} {x : S} {item : T} {rest : List T}

/-- A leaf that does not succeed leaves the context as it is and reports nothing. -/
theorem act_of_ne_success {p : Primitive K S T} (h : (p.act c).1 ≠ .ok .success) :
    (p.act c).2 = (c, []) := by
  cases p with
  | push source target => cases hsource : slot c source <;> simp [act, hsource] at h ⊢
  | get target source extra => exact absurd rfl h
  | pop source target => cases hsource : stack c source <;> simp [act, hsource] at h ⊢
  | isEmpty source => rfl
  | assign target source => cases hsource : slot c source <;> simp [act, hsource] at h ⊢
  | isUnset source => rfl

theorem act_push_of_slot_eq (h : slot c x = some item) : (push x k).act c =
    (.ok .success, setStack c k (item :: stack c k), []) := by
  simp [act, h]

theorem act_pop_of_stack_eq (h : stack c k = item :: rest) : (pop k x).act c =
    (.ok .success, setSlot (setStack c k rest) x (some item),
      [.trying (toString item) (stackName C k) (slotName C x)]) := by
  simp [act, h]

end Primitive

/-- An action that returns a fault leaves the world as it is and reports nothing. -/
theorem Action.tick_eq_of_error {action : Action} {w : World Visit} {fault : Fault}
    (h : (action.tick w).verdict = .error fault) : action.tick w = ⟨.error fault, w, []⟩ := by
  obtain ⟨name, policy⟩ := action
  cases policy with
  | always outcome => simp [tick, Policy.decide] at h
  | chance percent => simp [tick, Policy.decide] at h
  | script passes =>
    cases hcurrent : w.context.current with
    | none =>
      simp only [tick, Policy.decide, hcurrent] at h ⊢
      rw [h]
    | some door => simp [tick, Policy.decide, hcurrent] at h

namespace Leaf.Performs

variable {note : Transfer → E} {l l' : L} {p : Primitive K S T} {k : K} {x : S} {item : T}
  {rest : List T} {s t : Scene L C E} {v : Verdict}

/-- What a tick of a leaf leaves behind. -/
theorem answers (h : Performs C note l p) (s : Scene L C E) :
    ∃ t, (Node.leaf l).Answers s (p.act s.world.context).1 t ∧
      t.world = { s.world with context := (p.act s.world.context).2.1 } ∧
      t.events = s.events ++ ((p.act s.world.context).2.2.map note).map .note := by
  have hleaf := Behavior.leaf_eq l s
  rw [h] at hleaf
  refine ⟨_, ⟨0, hleaf⟩, rfl, ?_⟩
  rw [Scene.events_log_of_event?_eq_none _ rfl, Scene.events_reportAll]
  rfl

/-- A leaf that does not succeed changes nothing and reports nothing. -/
theorem unchanged_of_ne_success (h : Performs C note l p) (ht : (Node.leaf l).Answers s v t)
    (hv : v ≠ .ok .success) : t.world = s.world ∧ t.events = s.events := by
  obtain ⟨t', ht', hworld, hevents⟩ := h.answers s
  obtain ⟨rfl, rfl⟩ := ht.unique ht'
  rw [Primitive.act_of_ne_success hv] at hworld hevents
  exact ⟨hworld, by simpa using hevents⟩

end Leaf.Performs

end

/-! ### There and back -/

/-- Two nodes of which the first succeeds, one after the other. -/
theorem Node.answers_sequence_pair {first second : Node L} {s u t : Scene L C E} {v : Verdict}
    (h : first.Answers s (.ok .success) u) (h' : second.Answers u v t) :
    (Node.composite .sequence [first, second]).Answers s v t := by
  obtain ⟨acts, hacts⟩ := Node.answers_iff_exists_runs.1 h
  obtain ⟨acts', hacts'⟩ := Node.answers_iff_exists_runs.1 h'
  have hrest : (Task.inOrder .success [second]).Runs u acts' v t :=
    Task.runs_inOrder_singleton_iff.2 hacts'
  have hboth := Task.runs_inOrder_cons_iff.2 (.inl ⟨acts, u, acts', hacts, hrest, rfl⟩)
  have hnode : (Task.node (.composite .sequence [first, second])).Runs s _ v t :=
    (Task.runs_node_id_iff rfl).2 ⟨_, hboth, rfl⟩
  exact hnode.answers

namespace Leaf.Performs

variable [ToString T] {note : Transfer → E} {push pop : L} {k : K} {x : S} {item : T}
  {rest : List T} {s : Scene L C E}

/-- To push an item and pop it again changes nothing. -/
theorem answers_push_pop (hpush : Performs C note push (.push x k))
    (hpop : Performs C note pop (.pop k x)) (hx : slot s.world.context x = some item) :
    ∃ t, (Node.composite .sequence [.leaf push, .leaf pop]).Answers s (.ok .success) t ∧
      t.world = s.world := by
  obtain ⟨u, hu, huworld, -⟩ := hpush.answers s
  obtain ⟨t, ht, htworld, -⟩ := hpop.answers u
  rw [Primitive.act_push_of_slot_eq hx] at hu huworld
  have hstack : stack u.world.context k = item :: stack s.world.context k := by
    rw [huworld, stack_setStack_self]
  rw [Primitive.act_pop_of_stack_eq hstack] at ht htworld
  refine ⟨t, Node.answers_sequence_pair hu ht, ?_⟩
  rw [htworld, huworld, setStack_setStack, setStack_stack, ← hx, setSlot_slot]

/-- To pop an item and push it again changes nothing but the slot, which has the item then. -/
theorem answers_pop_push (hpop : Performs C note pop (.pop k x))
    (hpush : Performs C note push (.push x k)) (hk : stack s.world.context k = item :: rest) :
    ∃ t, (Node.composite .sequence [.leaf pop, .leaf push]).Answers s (.ok .success) t ∧
      t.world = { s.world with context := setSlot s.world.context x (some item) } := by
  obtain ⟨u, hu, huworld, -⟩ := hpop.answers s
  obtain ⟨t, ht, htworld, -⟩ := hpush.answers u
  rw [Primitive.act_pop_of_stack_eq hk] at hu huworld
  have hslot : slot u.world.context x = some item := by
    rw [huworld, slot_setSlot_self]
  have hstack : stack u.world.context k = rest := by
    rw [huworld, stack_setSlot, stack_setStack_self]
  rw [Primitive.act_push_of_slot_eq hslot, hstack] at ht htworld
  have hcontext : setStack (setSlot (setStack s.world.context k rest) x (some item)) k
      (item :: rest) = setSlot s.world.context x (some item) := by
    rw [setSlot_setStack, setStack_setStack, ← setSlot_setStack, ← hk, setStack_stack]
  refine ⟨t, Node.answers_sequence_pair hu ht, ?_⟩
  simp only [htworld, huworld, hcontext]

end Leaf.Performs

/-! ### Copies -/

/-- No tick of a leaf changes the stack. -/
def Leaf.KeepsStack (C : Type) {E : Type} [Leaf L C E] [Blackboard C K S T] (k : K) (l : L) :
    Prop :=
  ∀ w : World C, stack (Leaf.tick l w : Reply C E).world.context k = stack w.context k

/-- A leaf keeps all stacks but the one that it targets. -/
theorem Leaf.Performs.keepsStack [ToString T] {note : Transfer → E} {l : L}
    {p : Primitive K S T} {k : K} (h : Performs C note l p) (hk : p.targetStack? ≠ some k) :
    KeepsStack C k l := by
  intro w
  rw [h]
  have hmoved : OnlyMoved (p = ·) w.context (p.act w.context).2.1 := OnlyMoved.act rfl w.context
  apply hmoved.stack_eq
  intro l hl
  rwa [← hl]

/-- A stack that all leaves keep is kept. -/
theorem Move.stack_runAll {k : K} {moves : List (Move L)}
    (h : ∀ l, .tick l ∈ moves → Leaf.KeepsStack C k l) (w : World C) :
    stack (Move.runAll w moves).context k = stack w.context k := by
  induction moves generalizing w with
  | nil => rfl
  | cons move moves ih =>
    have hmove : stack (Move.run w move).context k = stack w.context k := by
      cases move with
      | tick l => exact h l List.mem_cons_self w
      | shuffle count => rfl
    rw [← hmove]
    exact ih (fun l hl => h l (List.mem_cons_of_mem _ hl)) _

/-- A leaf of a visit that moves doors does what the leaf over the blackboard does. -/
theorem DoorLeaf.performs_move (p : Primitive Visit.DoorStack Visit.DoorSlot Door) :
    Leaf.Performs Visit .moved (DoorLeaf.move p) p := fun _ => rfl

/-- An action leaves all stacks alone. -/
theorem DoorLeaf.keepsStack_act (action : Action) (k : Visit.DoorStack) :
    Leaf.KeepsStack Visit k (DoorLeaf.act action) := by
  intro w
  simp only [Leaf.tick, tick, Action.tick]
  split <;> cases k <;> rfl

/-- Leaves are all or nothing, and what they do can be undone. Over any blackboard and for any
handles, the same one for two ends included:

* A leaf that does not succeed changes nothing and reports nothing, and neither does an action that
  returns a fault.
* To push the item of a slot and pop it into this slot again succeeds and changes nothing.
* To pop the top of a stack into a slot and push it again succeeds. The slot has the item then, and
  nothing else has changed.
* A copy of a stack has the items of the stack, with the extra item on top, and does not change the
  stack. It stays as it is until a leaf targets it, whatever leaves are ticked in between, those of
  a visit included. -/
theorem leaves_are_all_or_nothing [ToString T] (s : Scene (Primitive K S T) C Transfer) :
    (∀ l v t, (Node.leaf l).Answers s v t → v ≠ .ok .success →
      t.world = s.world ∧ t.events = s.events) ∧
    (∀ (action : Action) (w : World Visit) fault, (action.tick w).verdict = .error fault →
      (action.tick w).world = w ∧ (action.tick w).notes = []) ∧
    (∀ k x, (slot s.world.context x).isSome → ∃ t,
      (Node.composite .sequence [.leaf (.push x k), .leaf (.pop k x)]).Answers s (.ok .success) t ∧
        t.world = s.world) ∧
    (∀ k x item rest, stack s.world.context k = item :: rest → ∃ t,
      (Node.composite .sequence [.leaf (.pop k x), .leaf (.push x k)]).Answers s (.ok .success) t ∧
        (∀ j, stack t.world.context j = stack s.world.context j) ∧
        (∀ y, y ≠ x → slot t.world.context y = slot s.world.context y) ∧
        slot t.world.context x = some item) ∧
    (∀ k source extra, ∃ t, (Node.leaf (.get k source extra)).Answers s (.ok .success) t ∧
      stack t.world.context k = extra.toList ++ stack s.world.context source ∧
      (k ≠ source → stack t.world.context source = stack s.world.context source) ∧
      ∀ later : List (Move (Primitive K S T)), (∀ l, .tick l ∈ later → l.targetStack? ≠ some k) →
        stack (Move.runAll t.world later).context k =
          extra.toList ++ stack s.world.context source) ∧
    ∀ (w : World Visit) k source extra (later : List (Move DoorLeaf)),
      (∀ l, .tick (.move l) ∈ later → l.targetStack? ≠ some k) →
        stack (Move.runAll w (.tick (.move (.get k source extra)) :: later)).context k =
          extra.toList ++ stack w.context source := by
  refine ⟨?_, ?_, ?_, ?_, ?_, ?_⟩
  · intro l v t ht hv
    exact l.performs_self.unchanged_of_ne_success ht hv
  · intro action w fault h
    rw [Action.tick_eq_of_error h]
    exact ⟨rfl, rfl⟩
  · intro k x hx
    obtain ⟨item, hitem⟩ := Option.isSome_iff_exists.1 hx
    exact (Primitive.performs_self _).answers_push_pop (Primitive.performs_self _) hitem
  · intro k x item rest hk
    obtain ⟨t, ht, hworld⟩ :=
      (Primitive.performs_self _).answers_pop_push (Primitive.performs_self _) (x := x) hk
    refine ⟨t, ht, ?_, ?_, ?_⟩
    · intro j
      rw [hworld, stack_setSlot]
    · intro y hy
      rw [hworld, slot_setSlot_of_ne _ _ hy]
    · rw [hworld, slot_setSlot_self]
  · intro k source extra
    obtain ⟨t, ht, hworld, -⟩ := (Primitive.performs_self (.get k source extra)).answers s
    have hcopy : stack t.world.context k = extra.toList ++ stack s.world.context source := by
      rw [hworld]
      exact stack_setStack_self ..
    refine ⟨t, ht, hcopy, ?_, ?_⟩
    · intro hne
      rw [hworld]
      exact stack_setStack_of_ne _ _ hne.symm
    · intro later hlater
      rw [Move.stack_runAll fun l hl => l.performs_self.keepsStack (hlater l hl), hcopy]
  · intro w k source extra later hlater
    have hkept : ∀ l, .tick l ∈ later → Leaf.KeepsStack Visit k l := by
      intro l hl
      cases l with
      | move p => exact (DoorLeaf.performs_move p).keepsStack (hlater p hl)
      | act action => exact DoorLeaf.keepsStack_act action k
    have hcopy : stack (Move.run w (.tick (DoorLeaf.move (.get k source extra)))).context k =
        extra.toList ++ stack w.context source := stack_setStack_self ..
    rw [← hcopy]
    exact Move.stack_runAll hkept _

/-- One slot is set and one is not. The copy is one of the stack itself, and stays as it is while
another stack is written. -/
theorem leaves_are_all_or_nothing_oneStack :
    let start : Scene (Primitive Board.StackName Board.SlotName String) Board Transfer :=
      .start ⟨{ Board.blank with alpha := ["a", "b"], x := some "c" }, .clear, .ofSeed 0⟩
    let later : List (Move (Primitive Board.StackName Board.SlotName String)) :=
      [.tick (.push .x .beta), .tick (.pop .beta .y)]
    (∃ t, (Node.leaf (.push .y .alpha)).Answers start (.error (.unsetSlot "PushToStack" "y")) t ∧
      t.world = start.world ∧ t.events = []) ∧
    (∃ t, (Node.composite .sequence [.leaf (.push .x .alpha), .leaf (.pop .alpha .x)]).Answers start
      (.ok .success) t ∧ t.world = start.world) ∧
    (∃ t, (Node.composite .sequence [.leaf (.pop .alpha .x), .leaf (.push .x .alpha)]).Answers start
      (.ok .success) t ∧ t.world.context.alpha = ["a", "b"] ∧ t.world.context.x = some "a") ∧
    ∃ t, (Node.leaf (.get .alpha .alpha (some "new"))).Answers start (.ok .success) t ∧
      (Move.runAll t.world later).context.alpha = ["new", "a", "b"] := by
  intro start later
  obtain ⟨hnothing, -, hpush, hpop, hget, -⟩ := leaves_are_all_or_nothing start
  refine ⟨?_, hpush .alpha .x rfl, ?_, ?_⟩
  · have ht := Behavior.leaf_eq (Primitive.push Board.SlotName.y Board.StackName.alpha) start
    exact ⟨_, ⟨0, ht⟩, hnothing _ _ _ ⟨0, ht⟩ (by decide)⟩
  · obtain ⟨t, ht, hstack, -, hslot⟩ := hpop .alpha .x "a" ["b"] rfl
    exact ⟨t, ht, hstack .alpha, hslot⟩
  · obtain ⟨t, ht, -, -, hlater⟩ := hget .alpha .alpha (some "new")
    refine ⟨t, ht, hlater later ?_⟩
    simp [later, Primitive.targetStack?]

end TickTree
