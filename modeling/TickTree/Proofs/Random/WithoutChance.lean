import Mathlib.Data.List.Basic
import TickTree.Proofs.Random.Evaluation
import TickTree.Proofs.Replay

/-!
# Trees without chance

A tree makes no use of the random source if none of its leaves does and none of its random
selectors has a choice: one child has one order, and no child has none. Such a tree can be evaluated
with any random source. It takes the same course, act by act, and comes to the same end, or it goes
on forever with all of them; and it leaves the random source as it found it.

## Main definitions

* `Node.DrawsNothing`: nodes that read no word when they are activated
* `Task.WithoutChance`: tasks that consist of such nodes
* `IgnoresSource`: what evaluations with two random sources have in common

## Main results

* `Task.Runs.drawing`: a course without draws is possible with every random source
* `trees_without_chance_ignore_source`: the law for the evaluation of nodes and trees
-/

namespace TickTree

variable {L C E : Type}

/-- An order of fewer than two places is drawn without a word. -/
theorem Generator.shuffle_of_lt_two {n : Nat} (h : n < 2) (g : Generator) :
    g.shuffle n = (Shuffle.order n [], g) := by
  have hdraws : n - 1 = 0 := by omega
  rw [shuffle, hdraws, Shuffle.draws]

namespace Scene

/-- An order of fewer than two places leaves its entry in the history and nothing else. -/
theorem drawing_shuffled {n : Nat} (h : n < 2) (s : Scene L C E) (g : Generator) :
    (s.bare.drawing g).shuffled n = (s.shuffled n).bare.drawing g := by
  change (⟨⟨s.world.context, s.world.flags, (g.shuffle n).2⟩, _⟩ : Scene L C E) = _
  rw [Generator.shuffle_of_lt_two h]
  rfl

end Scene

/-- A node reads no word when it is activated, apart from what its children do: it is no leaf that
makes use of the random source, and no random selector with a choice. -/
def Node.DrawsNothing (C : Type) {E : Type} [Leaf L C E] : Node L → Prop
  | .leaf l => Leaf.DrawsNothing C l
  | .composite .randomSelector children => children.length < 2
  | _ => True

/-- No node that is activated in the course of these acts reads a word. -/
def Act.DrawNothing (C : Type) [Leaf L C E] (acts : List (Act L E)) : Prop :=
  ∀ n, .entered n ∈ acts → n.DrawsNothing C

variable [Leaf L C E]

namespace Act.DrawNothing

variable {a : Act L E} {acts rest : List (Act L E)}

theorem entered {n : Node L} (h : DrawNothing C (.entered n :: acts)) : n.DrawsNothing C :=
  h n (List.mem_cons_self ..)

theorem tail (h : DrawNothing C (a :: acts)) : DrawNothing C acts :=
  fun n hn => h n (List.mem_cons_of_mem _ hn)

theorem left (h : DrawNothing C (acts ++ rest)) : DrawNothing C acts :=
  fun n hn => h n (List.mem_append_left _ hn)

theorem right (h : DrawNothing C (acts ++ rest)) : DrawNothing C rest :=
  fun n hn => h n (List.mem_append_right _ hn)

end Act.DrawNothing

namespace Leaf.DrawsNothing

variable {l : L} (hl : DrawsNothing C l)

include hl

theorem notes_tick (w : World C) (g : Generator) :
    (Leaf.tick l { w with generator := g } : Reply C E).notes =
      (Leaf.tick l w : Reply C E).notes := by
  rw [hl w g]

/-- The leaf does the same in the scene with another random source. -/
theorem leaf_drawing (s : Scene L C E) (g : Generator) :
    Behavior.leaf l (s.bare.drawing g) =
      (Behavior.leaf l s).map fun (v, t) => (v, t.bare.drawing g) := by
  have hreply : (Leaf.tick l (s.bare.drawing g).world : Reply C E) = _ := hl s.world g
  rw [Behavior.leaf_eq, Behavior.leaf_eq, hreply]
  rfl

end Leaf.DrawsNothing

namespace Task

variable {task : Task L} {s t : Scene L C E} {acts : List (Act L E)} {v : Verdict}

/-- A course without draws is possible with every other random source. -/
theorem Runs.drawing (h : task.Runs s acts v t) (hacts : Act.DrawNothing C acts)
    (g : Generator) : task.Runs (s.bare.drawing g) acts v (t.bare.drawing g) := by
  -- One case for each rule; only leaves and random selectors could look at the random source.
  induction h with
  | @leaf l s v t h =>
    have hl : Leaf.DrawsNothing C l := hacts.entered
    rw [← hl.notes_tick s.world g]
    refine .leaf ?_
    rw [hl.leaf_drawing, h]
    rfl
  | unbound => exact .unbound
  | delegated hn _ ih => exact .delegated hn (ih hacts.tail)
  | @shuffled children s acts v t _ ih =>
    have hcount : children.length < 2 := hacts.entered
    have hrest := ih hacts.tail.tail
    refine .shuffled ?_
    rw [Generator.shuffle_of_lt_two hcount] at hrest ⊢
    rw [Scene.drawing_shuffled hcount]
    exact hrest
  | inOrderNil => exact .inOrderNil
  | inOrderNext _ _ ih ih' => exact .inOrderNext (ih hacts.left) (ih' hacts.right)
  | inOrderStop hv _ ih => exact .inOrderStop hv (ih hacts)
  | againNil => exact .againNil
  | againNext _ _ ih ih' => exact .againNext (ih hacts.left) (ih' hacts.right)
  | againFault _ ih => exact .againFault (ih hacts)
  | @loopCancelled d child ticks token s hw htoken =>
    exact Runs.loopCancelled (s := s.bare.drawing g) hw htoken
  | loopNext hc hgo _ _ ih ih' => exact .loopNext hc hgo (ih hacts.left) (ih' hacts.right)
  | @loopDone d child ticks status s u acts hc hgo _ ih =>
    exact Runs.loopDone (s := s.bare.drawing g) hc hgo (ih hacts.left)
  | loopFault hc _ ih => exact .loopFault hc (ih hacts)
  | treeDone _ ih => exact Runs.treeDone (ih hacts.left)
  | treeFault _ ih => exact .treeFault (ih hacts)

/-- A course without draws leaves the random source as it is. -/
theorem Runs.generator_eq (h : task.Runs s acts v t) (hacts : Act.DrawNothing C acts) :
    t.world.generator = s.world.generator := by
  -- With the random source of the start, the same acts lead to a world with this source.
  have hsame : task.Runs s acts v (t.bare.drawing s.world.generator) :=
    h.drawing hacts s.world.generator
  have hworld := h.leads.world.trans hsame.leads.world.symm
  rw [hworld]
  rfl

/-- No part of the task reads a word: there is no leaf that draws, and no random selector with two
or more children. -/
def WithoutChance (C : Type) {E : Type} [Leaf L C E] (task : Task L) : Prop :=
  ∀ part, PartOf part task.nodes → part.DrawsNothing C

/-- An evaluation without chance is possible with every other random source, and leaves the random
source as it is. -/
theorem Answers.drawing (h : task.Answers s v t) (hchance : task.WithoutChance C) (g : Generator) :
    task.Answers (s.bare.drawing g) v (t.bare.drawing g) ∧
      t.world.generator = s.world.generator := by
  obtain ⟨acts, hruns⟩ := exists_runs_iff.2 h
  have hacts : Act.DrawNothing C acts := fun n hn => hchance n (hruns.partOf_of_entered hn)
  exact ⟨(hruns.drawing hacts g).answers, hruns.generator_eq hacts⟩

end Task

/-! ### The law -/

/-- What the evaluations that start in the worlds `w` and `w'` have in common. -/
structure IgnoresSource {E : Type} [Leaf L C E] (task : Task L) (w w' : World C) : Prop where
  /-- Both return, or none of them does. -/
  returns : (∃ v t, task.Answers (.start w) v t) ↔ ∃ v t, task.Answers (.start w') v t
  /-- They return the same verdict and leave the same context and the same tokens, after the same
  leaves were ticked and the same events reported. -/
  same : ∀ v v' t t', task.Answers (.start w) v t → task.Answers (.start w') v' t' →
    v = v' ∧ t.world.Agrees t'.world ∧ t.leafTicks = t'.leafTicks ∧ t.events = t'.events
  /-- Each of them leaves its random source as it was. -/
  kept : ∀ v t, (task.Answers (.start w) v t → t.world.generator = w.generator) ∧
    (task.Answers (.start w') v t → t.world.generator = w'.generator)

/-- Trees without chance ignore the random source. Let a task have no random selector with two or
more children and no leaf that draws, and let two worlds differ in nothing but the random source.
Then the task goes the same way in both. -/
theorem trees_without_chance_ignore_source {task : Task L} (hchance : task.WithoutChance C)
    {w w' : World C} (hw : w.Agrees w') : IgnoresSource task w w' := by
  obtain ⟨context, flags, g⟩ := w
  obtain ⟨_, _, g'⟩ := w'
  obtain ⟨rfl, rfl⟩ := hw
  have hforth {v t} (h : task.Answers (.start ⟨context, flags, g⟩) v t) :
      task.Answers (.start ⟨context, flags, g'⟩) v (t.bare.drawing g') := (h.drawing hchance g').1
  have hback {v t} (h : task.Answers (.start ⟨context, flags, g'⟩) v t) :
      task.Answers (.start ⟨context, flags, g⟩) v (t.bare.drawing g) := (h.drawing hchance g).1
  constructor
  case returns => exact ⟨fun ⟨v, t, h⟩ => ⟨v, _, hforth h⟩, fun ⟨v, t, h⟩ => ⟨v, _, hback h⟩⟩
  case same =>
    intro v v' t t' h h'
    -- The second evaluation is the first one with the other random source.
    obtain ⟨limit, hl, hl'⟩ := (hforth h).within h'
    obtain ⟨rfl, rfl⟩ := Prod.mk.inj (Option.some.inj (hl.symm.trans hl'))
    exact ⟨rfl, ⟨rfl, rfl⟩, rfl, rfl⟩
  case kept =>
    intro v t
    exact ⟨fun h => (h.drawing hchance g).2, fun h => (h.drawing hchance g').2⟩

/-- Takes one item after the other from a stack, each by a random selector with one child, and then
ticks a random selector that has none. -/
def Board.singleChoices : Node (Primitive Board.StackName Board.SlotName String) :=
  .composite .sequence [
    .decorator (.untilFail none) (.composite .randomSelector [.leaf (.pop .alpha .x)]),
    .composite .selector [.composite .randomSelector [], .leaf (.push .y .beta)]]

theorem Board.singleChoices_withoutChance :
    (Task.node Board.singleChoices).WithoutChance Board := by
  rintro part ⟨n, hn, hwithin⟩
  obtain rfl := List.mem_singleton.1 hn
  cases part with
  | leaf l => exact l.drawsNothing
  | composite kind children =>
    cases kind with
    | randomSelector =>
      -- There are two of them in the tree, one with a child and one without.
      have hchildren : children = [.leaf (.pop .alpha .x)] ∨ children = [] := by
        simpa [Board.singleChoices] using hwithin
      rw [Node.DrawsNothing]
      rcases hchildren with rfl | rfl <;> decide
    | _ => trivial
  | _ => trivial

/-- Random selectors are ticked four times, with one seed and with another, and both evaluations end
with the same fault. -/
theorem trees_without_chance_ignore_source_singleChoices :
    let task := Task.node Board.singleChoices
    let start (seed : UInt64) : World Board :=
      ⟨{ Board.blank with alpha := ["a", "b"] }, .clear, .ofSeed seed⟩
    task.WithoutChance Board ∧ (start 1).Agrees (start 2) ∧
      IgnoresSource task (start 1) (start 2) ∧
      ∃ t t', task.Answers (.start (start 1)) (.error (.unsetSlot "PushToStack" "y")) t ∧
        task.Answers (.start (start 2)) (.error (.unsetSlot "PushToStack" "y")) t' ∧
        t'.world.context = { Board.blank with x := some "b" } ∧
        t'.world.generator = .ofSeed 2 := by
  intro task start
  have hagrees : (start 1).Agrees (start 2) := ⟨rfl, rfl⟩
  have hlaw := trees_without_chance_ignore_source Board.singleChoices_withoutChance hagrees
  have hrun : (task.behavior 3 (.start (start 1))).map (fun (v, t) => (v, t.world.context)) =
      some (.error (.unsetSlot "PushToStack" "y"), { Board.blank with x := some "b" }) := by
    decide +kernel
  obtain ⟨⟨v, t⟩, hv, hshown⟩ := Option.map_eq_some_iff.1 hrun
  obtain ⟨rfl, hcontext⟩ := Prod.mk.inj hshown
  have ht : task.Answers (.start (start 1)) _ t := ⟨3, hv⟩
  -- The evaluation with the other seed is not carried out, but taken from the law.
  obtain ⟨v', t', ht'⟩ := hlaw.returns.1 ⟨_, t, ht⟩
  obtain ⟨rfl, hworld, -, -⟩ := hlaw.same _ v' t t' ht ht'
  exact ⟨Board.singleChoices_withoutChance, hagrees, hlaw, t, t', ht, ht',
    hworld.context ▸ hcontext, (hlaw.kept _ t').2 ht'⟩

end TickTree
