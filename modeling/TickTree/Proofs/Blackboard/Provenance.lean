import TickTree.Proofs.Blackboard.SetSlots

/-!
# Leaves only move items

The leaves over a blackboard make nothing up. What they write into a stack or a slot is an item that
they found in a stack or a slot, except for the extra item that a leaf may bring along when it
copies a stack. And they write nowhere but into the stack and the slot that they name as their
target. So the items at the end of an evaluation can be traced to the start or to the tree, and what
no leaf of the tree targets is as it was.

A stack from which leaves only take loses items from its top and no others. Stacks are listed from
the top, so what is left of it is a suffix.

Both hold for one leaf at a time, and pass from one state of a context to the next. It makes no
difference whether a leaf names the same stack or slot twice, nor how the evaluation ends.

## Main definitions

* `Blackboard.Holds`: an item is in some stack or slot
* `Primitive.targetStack?`: the stack that a leaf may change
* `OnlyMoved`: what leaves that only move items may have done to a context

## Main results

* `OnlyMoved.act`: one leaf only moves items
* `leaves_only_move_items`: so do the leaves of a tree, whatever tree is evaluated
-/

namespace TickTree

open Blackboard

section

variable {C K S T : Type} [Blackboard C K S T]

/-- Some stack or some slot holds the item. -/
def Blackboard.Holds (c : C) (item : T) : Prop :=
  (∃ k, item ∈ stack c k) ∨ ∃ x, slot c x = some item

/-- The stack that a leaf may change. -/
def Primitive.targetStack? : Primitive K S T → Option K
  | push _ stack => some stack
  | get stack _ _ => some stack
  | pop stack _ => some stack
  | _ => none

/-- What leaves among `leaves` may have done to a context if all that they do is to move items from
one place to another. -/
structure OnlyMoved (leaves : Primitive K S T → Prop) (c c' : C) : Prop where
  /-- An item that is there was there before, or a leaf that copies a stack brought it along. -/
  source : ∀ item, Holds c' item →
    Holds c item ∨ ∃ stack source, leaves (.get stack source (some item))
  /-- A stack that no leaf targets is as it was. -/
  stack_eq : ∀ k, (∀ l, leaves l → l.targetStack? ≠ some k) → stack c' k = stack c k
  /-- A slot that no leaf targets is as it was. -/
  slot_eq : ∀ x, (∀ l, leaves l → l.target? ≠ some x) → slot c' x = slot c x
  /-- A stack from which leaves only take is what it was, without some items from its top. -/
  stack_suffix : ∀ k, (∀ l, leaves l → l.targetStack? = some k → ∃ x, l = .pop k x) →
    stack c' k <:+ stack c k

namespace OnlyMoved

variable {leaves : Primitive K S T → Prop} {l : Primitive K S T} {c c' c'' : C} {k : K} {x : S}

theorem refl (c : C) : OnlyMoved leaves c c where
  source _ h := .inl h
  stack_eq _ _ := rfl
  slot_eq _ _ := rfl
  stack_suffix _ _ := List.suffix_refl _

theorem trans (h : OnlyMoved leaves c c') (h' : OnlyMoved leaves c' c'') :
    OnlyMoved leaves c c'' where
  source item hitem := by
    rcases h'.source item hitem with hthere | hextra
    · exact h.source item hthere
    · exact .inr hextra
  stack_eq k hk := (h'.stack_eq k hk).trans (h.stack_eq k hk)
  slot_eq x hx := (h'.slot_eq x hx).trans (h.slot_eq x hx)
  stack_suffix k hk := (h'.stack_suffix k hk).trans (h.stack_suffix k hk)

/-- A leaf gives its target stack items that it found or brought along. -/
theorem setStack {items : List T} (hl : leaves l) (hk : l.targetStack? = some k)
    (hitems : ∀ item ∈ items,
      Holds c item ∨ ∃ stack source, leaves (.get stack source (some item)))
    (hpop : ∀ x, l = .pop k x → items <:+ stack c k) :
    OnlyMoved leaves c (Blackboard.setStack c k items) where
  source item hitem := by
    rcases hitem with ⟨j, hj⟩ | ⟨y, hy⟩
    · by_cases hjk : j = k
      · rw [hjk, stack_setStack_self] at hj
        exact hitems item hj
      · rw [stack_setStack_of_ne _ _ hjk] at hj
        exact .inl (.inl ⟨j, hj⟩)
    · rw [slot_setStack] at hy
      exact .inl (.inr ⟨y, hy⟩)
  stack_eq j hj := by
    have hne : j ≠ k := by
      rintro rfl
      exact hj l hl hk
    exact stack_setStack_of_ne _ _ hne
  slot_eq y _ := slot_setStack ..
  stack_suffix j hj := by
    by_cases hjk : j = k
    · obtain rfl := hjk
      obtain ⟨x, hx⟩ := hj l hl hk
      rw [stack_setStack_self]
      exact hpop x hx
    · simp only [stack_setStack_of_ne _ _ hjk, List.suffix_refl]

/-- A leaf gives its target slot an item that it found. -/
theorem setSlot {value : T} (hl : leaves l) (hx : l.target? = some x) (hvalue : Holds c value) :
    OnlyMoved leaves c (Blackboard.setSlot c x (some value)) where
  source item hitem := by
    rcases hitem with ⟨j, hj⟩ | ⟨y, hy⟩
    · rw [stack_setSlot] at hj
      exact .inl (.inl ⟨j, hj⟩)
    · by_cases hyx : y = x
      · rw [hyx, slot_setSlot_self] at hy
        obtain rfl := Option.some.inj hy
        exact .inl hvalue
      · rw [slot_setSlot_of_ne _ _ hyx] at hy
        exact .inl (.inr ⟨y, hy⟩)
  stack_eq _ _ := stack_setSlot ..
  slot_eq y hy := by
    have hne : y ≠ x := by
      rintro rfl
      exact hy l hl hx
    exact slot_setSlot_of_ne _ _ hne
  stack_suffix j _ := by
    simp only [stack_setSlot, List.suffix_refl]

/-- One tick of a leaf only moves items. -/
theorem act [ToString T] (hl : leaves l) (c : C) : OnlyMoved leaves c (l.act c).2.1 := by
  cases l with
  | push item target =>
    cases hitem : slot c item with
    | none => simpa only [Primitive.act, hitem] using refl c
    | some value =>
      simp only [Primitive.act, hitem]
      apply setStack hl rfl
      · intro other hother
        rcases List.mem_cons.1 hother with rfl | hbelow
        · exact .inl (.inr ⟨item, hitem⟩)
        · exact .inl (.inl ⟨target, hbelow⟩)
      · intro x hx
        cases hx
  | get target source extra =>
    apply setStack hl rfl
    · intro item hitem
      rcases List.mem_append.1 hitem with hextra | hcopied
      · obtain rfl := Option.mem_toList.1 hextra
        exact .inr ⟨target, source, hl⟩
      · exact .inl (.inl ⟨source, hcopied⟩)
    · intro x hx
      cases hx
  | pop source item =>
    cases hstack : stack c source with
    | nil => simpa only [Primitive.act, hstack] using refl c
    | cons value rest =>
      simp only [Primitive.act, hstack]
      -- In between, the item is nowhere. The other way around it is in both places.
      rw [setSlot_setStack]
      have htop : Holds c value := .inl ⟨source, by simp [hstack]⟩
      refine (setSlot hl rfl htop).trans (setStack hl rfl ?_ fun _ _ => ?_)
      · intro other hother
        exact .inl (.inl ⟨source, by simp [hstack, hother]⟩)
      · simp [hstack]
  | isEmpty source => exact refl c
  | assign target source =>
    cases hsource : slot c source with
    | none => simpa only [Primitive.act, hsource] using refl c
    | some value =>
      simp only [Primitive.act, hsource]
      exact setSlot hl rfl (.inr ⟨source, hsource⟩)
  | isUnset source => exact refl c

/-- What happens apart from the ticks of leaves does not touch the context. -/
theorem stepLaw [ToString T] :
    Scene.StepLaw fun s t : Scene (Primitive K S T) C Transfer =>
      OnlyMoved leaves s.world.context t.world.context where
  refl s := refl s.world.context
  trans := trans
  report s _ _ := refl s.world.context
  unbound s _ := refl s.world.context
  shuffled s _ := refl s.world.context

end OnlyMoved

/-- Leaves only move items. Let a tree of leaves over a blackboard be evaluated from any scene, and
let the evaluation end in any way. Then every item on the blackboard was there at the start or is an
extra item of a leaf of the tree, the stacks and the slots that no leaf of the tree targets are as
they were, and a stack from which the leaves only take has lost items from its top and no others. -/
theorem leaves_only_move_items [ToString T] (task : Task (Primitive K S T))
    {s t : Scene (Primitive K S T) C Transfer} {v : Verdict} (h : task.Answers s v t) :
    OnlyMoved (fun l => PartOf (.leaf l) task.nodes) s.world.context t.world.context := by
  refine OnlyMoved.stepLaw.of_answers (fun l hl s v t ht => ?_) h
  rw [Behavior.leaf_eq] at ht
  obtain ⟨-, rfl⟩ := Prod.mk.inj (Option.some.inj ht)
  exact OnlyMoved.act hl s.world.context

end

/-- Takes two items from a stack, copies what is left of it with one more item, and then needs a
slot that may be unset. -/
def Board.restocking : Node (Primitive Board.StackName Board.SlotName String) :=
  .composite .sequence [
    .decorator (.times ⟨2, by decide⟩) (.leaf (.pop .alpha .x)),
    .leaf (.get .beta .alpha (some "new")),
    .leaf (.push .y .gamma)]

/-- The evaluation ends with a fault. One item is new, and stands in the tree. The stack from which
items were taken ends as it did before, and the last slot is no target of a leaf. -/
theorem leaves_only_move_items_restocking :
    let start : Scene (Primitive Board.StackName Board.SlotName String) Board Transfer :=
      .start ⟨{ Board.blank with alpha := ["a", "b", "c"], z := some "z" }, .clear, .ofSeed 0⟩
    let task := Task.node Board.restocking
    ∃ t, task.Answers start (.error (.unsetSlot "PushToStack" "y")) t ∧
      OnlyMoved (fun l => PartOf (.leaf l) task.nodes) start.world.context t.world.context ∧
      t.world.context =
        { Board.blank with
          alpha := ["c"], beta := ["new", "c"], x := some "b", z := some "z" } ∧
      PartOf (.leaf (.get .beta .alpha (some "new"))) task.nodes := by
  intro start task
  have hrun : (task.behavior 0 start).map (fun (v, t) => (v, t.world.context)) =
      some (.error (.unsetSlot "PushToStack" "y"),
        { Board.blank with
          alpha := ["c"], beta := ["new", "c"], x := some "b", z := some "z" }) := by
    decide +kernel
  obtain ⟨⟨v, t⟩, hv, hshown⟩ := Option.map_eq_some_iff.1 hrun
  obtain ⟨rfl, hcontext⟩ := Prod.mk.inj hshown
  have ht : task.Answers start _ t := ⟨0, hv⟩
  refine ⟨t, ht, leaves_only_move_items task ht, hcontext, Board.restocking, ?_, ?_⟩
  · exact List.mem_singleton.2 rfl
  · simp [Board.restocking]

end TickTree
