import Mathlib
import TickTree.Proofs.Random.Order
import TickTree.Workbench.Board

/-!
# The weight of a tree

Without a loop that goes on until something happens, an evaluation ends, and the tree says how long
it may take. A leaf weighs one, a counted repetition multiplies the weight of its child, and all
other nodes weigh as much as their children together. However the composites cut their rows short
and whatever orders are drawn, no evaluation ticks more leaves than the tree weighs. If all leaves
succeed and no node turns this into something else, nothing is cut short, and the number of ticks is
the weight.

Both are laws about composing behaviors: what behaviors tick one after the other adds up.

## Main definitions

* `Node.weight`: the weight of a node
* `Node.Bounded`: no loop without a bound is in the tree
* `Node.OnlySucceeds`: all leaves succeed, and all other nodes pass this on
* `Behavior.Counts`: what holds of the verdict and of the number of ticked leaves
* `Task.Counts`: the same for the evaluation of a tree

## Main results

* `Behavior.Counts.andThen`: ticks of leaves add up
* `Node.counts_atMost`, `Node.counts_succeeds`: the two laws for nodes
* `bounded_trees_end_within_weight`: the laws for whole evaluations
-/

namespace TickTree

variable {L C E : Type}

/-! ### Weights -/

/-- What a decorator makes of the weight of its child. -/
def Decorator.weigh : Decorator → Nat → Nat
  | times count, n => count.val * n
  | _, n => n

/-- A decorator that is no loop without a bound. -/
def Decorator.isBounded : Decorator → Bool
  | forever _ => false
  | untilFail _ => false
  | _ => true

namespace Node

mutual

/-- The weight of a node. -/
def weight : Node L → Nat
  | leaf _ => 1
  | composite _ children => weightAll children
  | unbound _ => 0
  | decorator kind child => kind.weigh (weight child)
  | boxed node => weight node

/-- The weight of a list of nodes. -/
def weightAll : List (Node L) → Nat
  | [] => 0
  | node :: nodes => weight node + weightAll nodes

end

theorem weightAll_eq_sum (nodes : List (Node L)) : weightAll nodes = (nodes.map weight).sum := by
  induction nodes with
  | nil => rfl
  | cons node nodes ih => rw [weightAll, ih, List.map_cons, List.sum_cons]

/-- No loop without a bound is in the tree. -/
def Bounded (node : Node L) : Prop :=
  ∀ kind child, (decorator kind child).Within node → kind.isBounded = true

/-- All leaves succeed in all worlds, and the nodes above them succeed if their children do, after
they have ticked them all. -/
structure OnlySucceeds (C : Type) {E : Type} [Leaf L C E] (node : Node L) : Prop where
  leaf : ∀ l, (Node.leaf l).Within node →
    ∀ w : World C, (Leaf.tick l w : Reply C E).verdict = .ok .success
  composite : ∀ kind children, (Node.composite kind children).Within node → kind = .sequence
  unbound : ∀ kind, ¬ (Node.unbound kind).Within node
  decorator : ∀ kind child, (Node.decorator kind child).Within node →
    kind = .root ∨ kind = .succeeder ∨ ∃ count, kind = .times count

end Node

/-! ### Counting the ticks of a behavior -/

/-- From every scene, a behavior comes to an answer and ticks leaves, and this holds of its verdict
and of their number. -/
def Behavior.Counts (Q : Verdict → Nat → Prop) (b : Behavior L C E) : Prop :=
  ∀ s, ∃ v t ticked, b s = some (v, t) ∧ t.leafTicks = s.leafTicks ++ ticked ∧ Q v ticked.length

/-- At most so many leaves are ticked, whatever the verdict is. -/
def AtMost (n : Nat) (_ : Verdict) (ticked : Nat) : Prop := ticked ≤ n

/-- There is success after exactly so many ticks. -/
def SucceedsAfter (n : Nat) (v : Verdict) (ticked : Nat) : Prop := v = .ok .success ∧ ticked = n

namespace Behavior.Counts

variable {Q R : Verdict → Nat → Prop} {b : Behavior L C E} {next : Status → Behavior L C E}
  {m n : Nat}

theorem mono (hb : Counts Q b) (h : ∀ v n, Q v n → R v n) : Counts R b := by
  intro s
  obtain ⟨v, t, ticked, ht, hticked, hcount⟩ := hb s
  exact ⟨v, t, ticked, ht, hticked, h v _ hcount⟩

/-- What is ticked by two behaviors, one after the other, adds up. -/
theorem andThen (hb : Counts Q b)
    (hok : ∀ status m, Q (.ok status) m → Counts (fun v n => R v (m + n)) (next status))
    (herror : ∀ fault m, Q (.error fault) m → R (.error fault) m) : Counts R (andThen b next) := by
  intro s
  obtain ⟨v, u, ticked, hv, hticked, hcount⟩ := hb s
  cases v with
  | error fault =>
    exact ⟨_, u, ticked, andThen_of_error next hv, hticked, herror fault _ hcount⟩
  | ok status =>
    obtain ⟨v, t, more, ht, hmore, hsum⟩ := hok status _ hcount u
    refine ⟨v, t, ticked ++ more, (andThen_of_ok next hv).trans ht, ?_, ?_⟩
    · rw [hmore, hticked, List.append_assoc]
    · rwa [List.length_append]

theorem answer {status : Status} (h : Q (.ok status) 0) :
    Counts Q (answer status : Behavior L C E) := by
  intro s
  exact ⟨_, s, [], rfl, (List.append_nil _).symm, h⟩

theorem note {status : Status} (event : Event E) (h : Q (.ok status) 0) :
    Counts Q (note event status : Behavior L C E) := by
  intro s
  refine ⟨_, _, [], rfl, ?_, h⟩
  simp [Scene.leafTicks_eq, Occurrence.leafTick?]

theorem leaf [Leaf L C E] {l : L}
    (h : ∀ w : World C, Q (Leaf.tick l w : Reply C E).verdict 1) :
    Counts Q (leaf l : Behavior L C E) := by
  intro s
  refine ⟨_, _, [(l, (Leaf.tick l s.world : Reply C E).verdict)], leaf_eq l s, ?_, h s.world⟩
  simp [Scene.leafTicks_eq, Occurrence.leafTick?, Function.comp_def]

theorem unbound {d : Decorator} (h : Q (.error (.missingChild d.name)) 0) :
    Counts Q (unbound d : Behavior L C E) := by
  intro s
  refine ⟨_, _, [], rfl, ?_, h⟩
  simp [Scene.leafTicks_eq, Occurrence.leafTick?]

/-- Drawing an order ticks no leaf. -/
theorem shuffled {next : List Nat → Behavior L C E}
    (h : ∀ order, order.Perm (List.range n) → Counts Q (next order)) :
    Counts Q (shuffled n next) := by
  intro s
  obtain ⟨v, t, ticked, ht, hticked, hcount⟩ :=
    h _ (s.world.generator.shuffle_perm n) (s.shuffled n)
  refine ⟨v, t, ticked, ht, ?_, hcount⟩
  rw [hticked]
  simp [Scene.shuffled, Scene.leafTicks_eq, Occurrence.leafTick?]

/-! ### At most so many leaves -/

section

variable {ι : Type} {size : ι → Nat} {f : ι → Behavior L C E} {is : List ι}

theorem andThen_atMost (hb : Counts (AtMost m) b)
    (hnext : ∀ status, Counts (AtMost n) (next status)) :
    Counts (AtMost (m + n)) (Behavior.andThen b next) := by
  apply hb.andThen
  · intro status k hk
    exact (hnext status).mono fun _ _ hn => Nat.add_le_add hk hn
  · intro fault k hk
    exact Nat.le_add_right_of_le hk

theorem inOrder_atMost (goOn : Status) (h : ∀ i ∈ is, Counts (AtMost (size i)) (f i)) :
    Counts (AtMost (is.map size).sum) (inOrder goOn (is.map f)) := by
  induction is with
  | nil => exact answer (Nat.le_refl 0)
  | cons i is ih =>
    obtain ⟨hi, his⟩ := List.forall_mem_cons.1 h
    rw [List.map_cons, List.map_cons, List.sum_cons, inOrder]
    refine hi.andThen_atMost fun status => ?_
    split
    · exact ih his
    · exact answer (Nat.zero_le _)

/-- In whatever order behaviors are ticked, they tick as many leaves. -/
theorem randomSelector_atMost (h : ∀ i ∈ is, Counts (AtMost (size i)) (f i)) :
    Counts (AtMost (is.map size).sum) (randomSelector (is.map f)) := by
  rw [randomSelector_eq, List.length_map]
  refine shuffled fun order horder => ?_
  have hperm := horder.filterMap (is[·]?)
  rw [Generator.filterMap_getElem?_range] at hperm
  rw [filterMap_getElem?_map, ← (hperm.map size).sum_eq]
  exact inOrder_atMost .failure fun i hi => h i (hperm.mem_iff.1 hi)

theorem composite_atMost (kind : Composite) (h : ∀ i ∈ is, Counts (AtMost (size i)) (f i)) :
    Counts (AtMost (is.map size).sum) (composite kind (is.map f)) := by
  cases kind with
  | sequence =>
    rw [composite, sequence_eq_inOrder]
    exact inOrder_atMost .success h
  | selector =>
    rw [composite, selector_eq_inOrder]
    exact inOrder_atMost .failure h
  | randomSelector => exact randomSelector_atMost h

theorem revise_atMost (g : Status → Status) (hb : Counts (AtMost n) b) :
    Counts (AtMost n) (revise g b) := by
  rw [revise_eq]
  exact hb.andThen_atMost fun _ => answer (Nat.le_refl 0)

theorem repeated_atMost (hb : Counts (AtMost n) b) (count : Nat) (last : Status) :
    Counts (AtMost (count * n)) (repeated b count last) := by
  induction count generalizing last with
  | zero => exact answer (Nat.zero_le _)
  | succ count ih =>
    rw [repeated_succ, Nat.succ_mul, Nat.add_comm]
    exact hb.andThen_atMost ih

theorem decorate_atMost {kind : Decorator} (hkind : kind.isBounded = true)
    (hb : Counts (AtMost n) b) (limit : Nat) :
    Counts (AtMost (kind.weigh n)) (decorate limit kind b) := by
  cases kind with
  | root => exact hb
  | inverter => exact hb.revise_atMost Status.invert
  | succeeder => exact hb.revise_atMost fun _ => .success
  | failer => exact hb.revise_atMost fun _ => .failure
  | times count => exact hb.repeated_atMost count.val .failure
  | forever token => exact nomatch hkind
  | untilFail token => exact nomatch hkind

/-! ### Exactly so many leaves -/

theorem andThen_succeeds (hb : Counts (SucceedsAfter m) b)
    (hnext : Counts (SucceedsAfter n) (next .success)) :
    Counts (SucceedsAfter (m + n)) (Behavior.andThen b next) := by
  apply hb.andThen
  · intro status k hk
    rw [Except.ok.inj hk.1, hk.2]
    exact hnext.mono fun _ _ hn => ⟨hn.1, congrArg (m + ·) hn.2⟩
  · intro fault k hk
    exact nomatch hk.1

theorem inOrder_succeeds (h : ∀ i ∈ is, Counts (SucceedsAfter (size i)) (f i)) :
    Counts (SucceedsAfter (is.map size).sum) (inOrder .success (is.map f)) := by
  induction is with
  | nil => exact answer ⟨rfl, rfl⟩
  | cons i is ih =>
    obtain ⟨hi, his⟩ := List.forall_mem_cons.1 h
    exact hi.andThen_succeeds (ih his)

theorem repeated_succeeds (hb : Counts (SucceedsAfter n) b) (count : Nat) :
    Counts (SucceedsAfter (count * n)) (repeated b count .success) := by
  induction count with
  | zero => exact answer ⟨rfl, (Nat.zero_mul n).symm⟩
  | succ count ih =>
    rw [repeated_succ, Nat.succ_mul, Nat.add_comm]
    exact hb.andThen_succeeds ih

theorem revise_succeeds (hb : Counts (SucceedsAfter n) b) :
    Counts (SucceedsAfter n) (revise (fun _ => .success) b) := by
  rw [revise_eq]
  apply andThen_succeeds (n := 0) hb
  exact answer ⟨rfl, rfl⟩

/-- As a counted repetition ticks its child at least once, it succeeds with its child. -/
theorem times_succeeds (hb : Counts (SucceedsAfter n) b) (count : Count) (limit : Nat) :
    Counts (SucceedsAfter (count.val * n)) (decorate limit (.times count) b) := by
  obtain ⟨count, hcount⟩ := count
  cases count with
  | zero => exact absurd hcount (Nat.lt_irrefl 0)
  | succ count =>
    have hlast : decorate limit (.times ⟨count + 1, hcount⟩) b =
        repeated b (count + 1) .success := by
      rw [decorate, repeated_succ, repeated_succ]
    rw [hlast]
    exact hb.repeated_succeeds (count + 1)

end

end Behavior.Counts

/-! ### Nodes and trees -/

namespace Node

variable [Leaf L C E] {node : Node L}

/-- No node ticks more leaves than it weighs. -/
theorem counts_atMost (h : node.Bounded) (limit : Nat) :
    (node.tick limit : Behavior L C E).Counts (AtMost node.weight) := by
  induction node using Node.induction with
  | leaf l => exact .leaf fun _ => Nat.le_refl 1
  | composite kind children ih =>
    rw [tick, tickAll_eq_map, weight, weightAll_eq_sum]
    apply Behavior.Counts.composite_atMost
    intro child hchild
    exact ih child hchild fun k c hpart => h k c (.child hchild hpart)
  | unbound kind => exact .unbound (Nat.zero_le _)
  | decorator kind child ih =>
    have hchild := ih fun k c hpart => h k c (.bound hpart)
    exact hchild.decorate_atMost (h kind child .self) limit
  | boxed node ih => exact ih fun k c hpart => h k c (.boxed hpart)

theorem Within.trans {part whole : Node L} (h : part.Within node) (h' : node.Within whole) :
    part.Within whole := by
  induction h' with
  | self => exact h
  | child hmem _ ih => exact .child hmem ih
  | bound _ ih => exact .bound ih
  | boxed _ ih => exact .boxed ih

theorem OnlySucceeds.part {part : Node L} (h : OnlySucceeds C node) (hpart : part.Within node) :
    OnlySucceeds C part where
  leaf l hl := h.leaf l (hl.trans hpart)
  composite kind children hnode := h.composite kind children (hnode.trans hpart)
  unbound kind hnode := h.unbound kind (hnode.trans hpart)
  decorator kind child hnode := h.decorator kind child (hnode.trans hpart)

/-- If nothing fails, a node ticks exactly as many leaves as it weighs, and succeeds. -/
theorem counts_succeeds (h : OnlySucceeds C node) (limit : Nat) :
    (node.tick limit : Behavior L C E).Counts (SucceedsAfter node.weight) := by
  induction node using Node.induction with
  | leaf l => exact .leaf fun w => ⟨h.leaf l .self w, rfl⟩
  | composite kind children ih =>
    obtain rfl := h.composite kind children .self
    rw [tick, tickAll_eq_map, weight, weightAll_eq_sum, Behavior.composite,
      Behavior.sequence_eq_inOrder]
    apply Behavior.Counts.inOrder_succeeds
    intro child hchild
    exact ih child hchild (h.part (.child hchild .self))
  | unbound kind => exact absurd .self (h.unbound kind)
  | decorator kind child ih =>
    have hchild := ih (h.part (.bound .self))
    rcases h.decorator kind child .self with rfl | rfl | ⟨count, rfl⟩
    · exact hchild
    · exact hchild.revise_succeeds
    · exact hchild.times_succeeds count limit
  | boxed node ih => exact ih (h.part (.boxed .self))

end Node

namespace Tree

variable [Leaf L C E] {tree : Tree L}

/-- The weight of a tree is that of its root. -/
def weight (tree : Tree L) : Nat := tree.root.weight

theorem counts_atMost (h : tree.root.Bounded) (limit : Nat) :
    (tree.run limit : Behavior L C E).Counts (AtMost tree.weight) := by
  rw [run, Behavior.evaluation_eq]
  exact (Node.counts_atMost h limit).andThen_atMost fun _ => .note _ (Nat.le_refl 0)

theorem counts_succeeds (h : tree.root.OnlySucceeds C) (limit : Nat) :
    (tree.run limit : Behavior L C E).Counts (SucceedsAfter tree.weight) := by
  rw [run, Behavior.evaluation_eq]
  apply Behavior.Counts.andThen_succeeds (n := 0) (Node.counts_succeeds h limit)
  exact .note _ ⟨rfl, rfl⟩

end Tree

section

variable [Leaf L C E]

/-- From every scene, the evaluation of a task ends after some ticks of leaves, and this holds of
its verdict and of their number. -/
def Task.Counts (C : Type) {E : Type} [Leaf L C E] (Q : Verdict → Nat → Prop) (task : Task L) :
    Prop :=
  ∀ s : Scene L C E, ∃ v t ticked,
    task.Answers s v t ∧ t.leafTicks = s.leafTicks ++ ticked ∧ Q v ticked.length

theorem Task.counts_of_behavior {task : Task L} {Q : Verdict → Nat → Prop} {limit : Nat}
    (h : (task.behavior limit : Behavior L C E).Counts Q) : task.Counts C Q := by
  intro s
  obtain ⟨v, t, ticked, ht, hticked, hcount⟩ := h s
  exact ⟨v, t, ticked, ⟨limit, ht⟩, hticked, hcount⟩

/-- Trees without unbounded loops end within their weight, over leaves of any kind. From every scene
there is an answer, and the number of ticked leaves is at most the weight of the node or of the tree
that was evaluated. If all leaves succeed, from whatever world they are ticked, and stand below
sequences, roots, succeeders and counted repetitions only, then the evaluation succeeds and the
number of ticked leaves is the weight. -/
theorem bounded_trees_end_within_weight :
    (∀ node : Node L, node.Bounded → (Task.node node).Counts C fun _ n => n ≤ node.weight) ∧
    (∀ tree : Tree L, tree.root.Bounded → (Task.tree tree).Counts C fun _ n => n ≤ tree.weight) ∧
    (∀ node : Node L, node.OnlySucceeds C →
      (Task.node node).Counts C fun v n => v = .ok .success ∧ n = node.weight) ∧
    ∀ tree : Tree L, tree.root.OnlySucceeds C →
      (Task.tree tree).Counts C fun v n => v = .ok .success ∧ n = tree.weight := by
  refine ⟨?_, ?_, ?_, ?_⟩
  · intro node h
    exact Task.counts_of_behavior (Node.counts_atMost h 0)
  · intro tree h
    exact Task.counts_of_behavior (Tree.counts_atMost h 0)
  · intro node h
    exact Task.counts_of_behavior (Node.counts_succeeds h 0)
  · intro tree h
    exact Task.counts_of_behavior (Tree.counts_succeeds h 0)

end

/-- Counted repetitions in each other, over leaves that always succeed. -/
def Board.copying : Node (Primitive Board.StackName Board.SlotName String) :=
  .decorator (.times ⟨3, by decide⟩) (.composite .sequence [
    .leaf (.get .beta .alpha none),
    .decorator (.times ⟨4, by decide⟩) (.leaf (.get .gamma .beta (some "new")))])

/-- The repetitions tick fifteen leaves. A selector of them and one more leaf ticks sixteen leaves
at most. -/
theorem bounded_trees_end_within_weight_copying :
    let selector : Node (Primitive Board.StackName Board.SlotName String) :=
      .composite .selector [Board.copying, .leaf (.isEmpty .alpha)]
    Board.copying.OnlySucceeds Board ∧ Board.copying.weight = 15 ∧
    ((Task.node Board.copying).Counts Board fun v n => v = .ok .success ∧ n = 15) ∧
    selector.Bounded ∧ selector.weight = 16 ∧
    (Task.node selector).Counts Board fun _ n => n ≤ 16 := by
  intro selector
  obtain ⟨hatMost, -, hsucceeds, -⟩ := bounded_trees_end_within_weight
    (L := Primitive Board.StackName Board.SlotName String) (C := Board)
  have honly : Board.copying.OnlySucceeds Board := by
    constructor
    · intro l hl w
      have hcopy : l = .get .beta .alpha none ∨ l = .get .gamma .beta (some "new") := by
        simpa [Board.copying] using hl
      rcases hcopy with rfl | rfl <;> rfl
    · intro kind children h
      cases kind with
      | sequence => rfl
      | _ => simp [Board.copying] at h
    · intro kind h
      simp [Board.copying] at h
    · intro kind child h
      cases kind with
      | times count => exact .inr (.inr ⟨count, rfl⟩)
      | _ => simp [Board.copying] at h
  have hbounded : selector.Bounded := by
    intro kind child h
    cases kind with
    | times count => rfl
    | _ => simp [selector, Board.copying] at h
  have hweight : Board.copying.weight = 15 := by decide
  have hweight' : selector.weight = 16 := by decide
  refine ⟨honly, hweight, ?_, hbounded, hweight', ?_⟩
  · simpa only [hweight] using hsucceeds Board.copying honly
  · simpa only [hweight'] using hatMost selector hbounded

end TickTree
