import TickTree.Proofs.Answer

/-!
# The algebra of composites

An ordered composite goes through its children while they return one status, success for a sequence
and failure for a selector, and is done with any other. The laws of composites say nothing else:
the children that are left after some of them are ticked as a composite of their own, and turning
all statuses around turns a sequence into a selector.

These are equations between behaviors, whatever the children are. A child may write, draw, report,
return a fault or not return at all, and what it does is done on both sides in the same scene. So
nodes that differ by such a law have the same answers, with the same history.

## Main definitions

* `Node.SameAnswers`: nodes that cannot be told apart by what they answer
* `Addition`, `Node.extend?`: children that are added to a composite after it was made

## Main results

* `Behavior.inOrder_append`: the rest of a list of children is a list of children
* `Behavior.inOrder_nested`: a composite among the children of one of its kind
* `Behavior.revise_invert_inOrder`: the other composite of inverted children, inverted
* `composites_obey_algebra`: the laws for nodes, and for composites that were added to
-/

namespace TickTree

theorem Status.invert_inj {a b : Status} : a.invert = b.invert ↔ a = b := by
  cases a <;> cases b <;> simp [invert]

variable {L C E : Type}

/-! ### Equations between behaviors -/

namespace Behavior

theorem andThen_assoc (b : Behavior L C E) (f g : Status → Behavior L C E) :
    andThen (andThen b f) g = andThen b fun status => andThen (f status) g := by
  funext s
  simp only [andThen]
  rcases b s with _ | ⟨_ | _, u⟩ <;> rfl

theorem answer_andThen (status : Status) (next : Status → Behavior L C E) :
    andThen (answer status) next = next status := rfl

theorem revise_answer (f : Status → Status) (status : Status) :
    revise f (answer status) = (answer (f status) : Behavior L C E) := rfl

theorem revise_andThen (f : Status → Status) (b : Behavior L C E)
    (next : Status → Behavior L C E) :
    revise f (andThen b next) = andThen b fun status => revise f (next status) := by
  simp only [revise_eq, andThen_assoc]

theorem andThen_revise (f : Status → Status) (b : Behavior L C E)
    (next : Status → Behavior L C E) :
    andThen (revise f b) next = andThen b fun status => next (f status) := by
  simp only [revise_eq, andThen_assoc, answer_andThen]

theorem revise_revise (f g : Status → Status) (b : Behavior L C E) :
    revise f (revise g b) = revise (fun status => f (g status)) b := by
  rw [revise_eq g, revise_andThen, revise_eq]
  rfl

/-- When the first behaviors are through, the others are gone through in the same way. -/
theorem inOrder_append (goOn : Status) (bs cs : List (Behavior L C E)) :
    inOrder goOn (bs ++ cs) = andThen (inOrder goOn bs) fun status =>
      if status = goOn then inOrder goOn cs else answer status := by
  induction bs with
  | nil => rw [List.nil_append, inOrder, answer_andThen, if_pos rfl]
  | cons b bs ih =>
    rw [List.cons_append, inOrder, inOrder, andThen_assoc, ih]
    congr 1
    funext status
    split
    · rfl
    · next hstop => rw [answer_andThen, if_neg hstop]

/-- Behaviors among others can be put together first, or all gone through at once. -/
theorem inOrder_nested (goOn : Status) (bs cs ds : List (Behavior L C E)) :
    inOrder goOn (bs ++ [inOrder goOn cs] ++ ds) = inOrder goOn (bs ++ cs ++ ds) := by
  have hrest : inOrder goOn (inOrder goOn cs :: ds) = inOrder goOn (cs ++ ds) := by
    rw [inOrder_append, inOrder]
  calc
    _ = inOrder goOn (bs ++ inOrder goOn cs :: ds) := by
      rw [List.append_assoc, List.singleton_append]
    _ = inOrder goOn (bs ++ (cs ++ ds)) := by rw [inOrder_append, hrest, ← inOrder_append]
    _ = _ := by rw [List.append_assoc]

/-- Inverted behaviors go on with the other status, and it is the other status in the end. -/
theorem revise_invert_inOrder (goOn : Status) (bs : List (Behavior L C E)) :
    revise Status.invert (inOrder goOn.invert (bs.map (revise Status.invert))) =
      inOrder goOn bs := by
  induction bs with
  | nil => rw [List.map_nil, inOrder, inOrder, revise_answer, Status.invert_invert]
  | cons b bs ih =>
    rw [List.map_cons, inOrder, inOrder, andThen_revise, revise_andThen]
    congr 1
    funext status
    simp only [Status.invert_inj]
    split
    · exact ih
    · rw [revise_answer, Status.invert_invert]

end Behavior

/-! ### Nodes with the same answers -/

namespace Node

/-- From every scene, both nodes return the same verdict and leave the same scene, or neither of
them returns. -/
def SameAnswers (C : Type) {E : Type} [Leaf L C E] (n n' : Node L) : Prop :=
  ∀ (s : Scene L C E) v t, n.Answers s v t ↔ n'.Answers s v t

/-- Nodes with the same behavior have the same answers. -/
theorem SameAnswers.of_tick_eq [Leaf L C E] {n n' : Node L}
    (h : ∀ limit, (n.tick limit : Behavior L C E) = n'.tick limit) : SameAnswers C n n' := by
  intro s v t
  simp only [Answers, h]

section

variable [Leaf L C E] (limit : Nat)

theorem tick_sequence (children : List (Node L)) :
    ((composite .sequence children).tick limit : Behavior L C E) =
      Behavior.inOrder .success (children.map (tick limit)) := by
  rw [tick, tickAll_eq_map, Behavior.composite, Behavior.sequence_eq_inOrder]

theorem tick_selector (children : List (Node L)) :
    ((composite .selector children).tick limit : Behavior L C E) =
      Behavior.inOrder .failure (children.map (tick limit)) := by
  rw [tick, tickAll_eq_map, Behavior.composite, Behavior.selector_eq_inOrder]

/-- What an inverter does with each of some nodes. -/
theorem map_tick_inverter (nodes : List (Node L)) :
    ((nodes.map (decorator .inverter)).map (tick limit) : List (Behavior L C E)) =
      (nodes.map (tick limit)).map (Behavior.revise Status.invert) := by
  rw [List.map_map, List.map_map]
  rfl

end

end Node

/-! ### Adding children -/

/-- A call that appends nodes to the children of a composite. -/
inductive Addition (L : Type)
  /-- Appends one node. -/
  | child (node : Node L)
  /-- Appends nodes, in order. -/
  | children (nodes : List (Node L))

namespace Addition

/-- The nodes that are appended. -/
def nodes : Addition L → List (Node L)
  | child node => [node]
  | children nodes => nodes

/-- The node after a call. -/
def onto? (node : Node L) : Addition L → Option (Node L)
  | child more => node.addChild? more
  | children more => node.addChildren? more

theorem onto?_composite (kind : Composite) (start : List (Node L)) (addition : Addition L) :
    addition.onto? (.composite kind start) = some (.composite kind (start ++ addition.nodes)) := by
  cases addition <;> rfl

end Addition

/-- The node after a series of calls. -/
def Node.extend? (node : Node L) (additions : List (Addition L)) : Option (Node L) :=
  additions.foldlM Addition.onto? node

/-- A composite that was added to has all the children, in order. -/
theorem Node.extend?_composite (kind : Composite) (start : List (Node L))
    (additions : List (Addition L)) :
    (composite kind start).extend? additions =
      some (composite kind (start ++ additions.flatMap Addition.nodes)) := by
  induction additions generalizing start with
  | nil => simp [extend?]
  | cons addition additions ih =>
    rw [extend?, List.foldlM_cons, Addition.onto?_composite, List.flatMap_cons,
      ← List.append_assoc]
    exact ih _

/-! ### The laws -/

/-- The algebra of composites. A composite among the children of a composite of its kind can be
replaced by its own children. A selector is the inverter of a sequence of inverted children, and a
sequence that of a selector. A failer is an inverter of a succeeder. In each case both nodes return
the same and leave the same scene, or neither returns, whatever the nodes in them are. A composite
to whose children others were added, one or many at a time, is the composite of all of them. -/
theorem composites_obey_algebra [Leaf L C E] (xs ys zs : List (Node L)) (child : Node L) :
    Node.SameAnswers C (.composite .sequence (xs ++ [.composite .sequence ys] ++ zs))
      (.composite .sequence (xs ++ ys ++ zs)) ∧
    Node.SameAnswers C (.composite .selector (xs ++ [.composite .selector ys] ++ zs))
      (.composite .selector (xs ++ ys ++ zs)) ∧
    Node.SameAnswers C (.composite .selector xs)
      (.decorator .inverter (.composite .sequence (xs.map (.decorator .inverter)))) ∧
    Node.SameAnswers C (.composite .sequence xs)
      (.decorator .inverter (.composite .selector (xs.map (.decorator .inverter)))) ∧
    Node.SameAnswers C (.decorator .failer child)
      (.decorator .inverter (.decorator .succeeder child)) ∧
    ∀ (kind : Composite) (additions : List (Addition L)),
      (Node.composite kind xs).extend? additions =
        some (.composite kind (xs ++ additions.flatMap Addition.nodes)) := by
  refine ⟨.of_tick_eq fun limit => ?_, .of_tick_eq fun limit => ?_, .of_tick_eq fun limit => ?_,
    .of_tick_eq fun limit => ?_, .of_tick_eq fun limit => ?_,
    fun kind additions => Node.extend?_composite kind xs additions⟩
  · simp only [Node.tick_sequence, List.map_append, List.map_singleton]
    exact Behavior.inOrder_nested ..
  · simp only [Node.tick_selector, List.map_append, List.map_singleton]
    exact Behavior.inOrder_nested ..
  · rw [Node.tick_selector, Node.tick, Node.tick_sequence, Node.map_tick_inverter]
    exact (Behavior.revise_invert_inOrder .failure _).symm
  · rw [Node.tick_sequence, Node.tick, Node.tick_selector, Node.map_tick_inverter]
    exact (Behavior.revise_invert_inOrder .success _).symm
  · exact (Behavior.revise_revise Status.invert (fun _ => .success) _).symm

end TickTree
