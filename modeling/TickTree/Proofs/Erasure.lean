import TickTree.Proofs.Course

/-!
# Erasing transparent nodes

Some nodes make no difference to what they are put around: a box, a root, a repetition of one tick,
a composite with only one child, an inverter around an inverter. Erasing them everywhere in a tree,
below loops and below shuffled composites too, leaves a tree with the same answers.

The one thing that a transparent node may leave behind is the entry of a shuffle of one place, which
draws nothing. So scenes are compared up to such idle shuffles, and two nodes are interchangeable if
each answers where the other does, and alike. That a node may take the place of an interchangeable
one in any other follows from the steps of an evaluation.

## Main definitions

* `Node.erase`: a node without its transparent parts
* `Node.Bare`: nodes of which no part is transparent
* `Scene.Alike`: scenes that differ in idle shuffles only
* `Behavior.Interchangeable`: behaviors with the same answers, up to idle shuffles

## Main results

* `Node.bare_erase`: no part of an erased node is transparent
* `Behavior.mimics_closed`: interchangeable behaviors may replace each other
* `Node.interchangeable_erase`: an erased node has the answers of the node
* `erasing_keeps_answers`: this for nodes and whole trees, from every world
-/

namespace TickTree

variable {L C E : Type}

namespace Node

/-- A composite over these children. An only child stands for itself. -/
def group (kind : Composite) : List (Node L) → Node L
  | [child] => child
  | children => composite kind children

/-- A decorator over a child. Where it would make no difference, the child stands for itself, and
what an inverter inverts stands for the inverter of the inverter. -/
def wrap : Decorator → Node L → Node L
  | .root, child => child
  | .inverter, decorator .inverter node => node
  | .times count, child => if count.val = 1 then child else decorator (.times count) child
  | kind, child => decorator kind child

mutual

/-- A node without its transparent parts. -/
def erase : Node L → Node L
  | leaf l => leaf l
  | composite kind children => group kind (eraseAll children)
  | unbound kind => unbound kind
  | decorator kind child => wrap kind (erase child)
  | boxed node => erase node

/-- Nodes without their transparent parts. -/
def eraseAll : List (Node L) → List (Node L)
  | [] => []
  | node :: nodes => erase node :: eraseAll nodes

end

theorem eraseAll_eq_map (nodes : List (Node L)) : eraseAll nodes = nodes.map erase := by
  induction nodes with
  | nil => rfl
  | cons node nodes ih => rw [eraseAll, ih, List.map_cons]

/-- A node that makes no difference to what it is put around. -/
def isTransparent : Node L → Bool
  | boxed _ => true
  | composite _ [_] => true
  | decorator .root _ => true
  | decorator (.times count) _ => count.val = 1
  | decorator .inverter (decorator .inverter _) => true
  | _ => false

/-! ### Nothing is left to erase -/

/-- No part of a node is transparent. -/
def Bare (node : Node L) : Prop := ∀ part : Node L, part.Within node → part.isTransparent = false

theorem Bare.of_within {part node : Node L} (h : node.Bare)
    (hpart : ∀ p : Node L, p.Within part → p.Within node) : part.Bare :=
  fun p hp => h p (hpart p hp)

theorem Bare.leaf (l : L) : (Node.leaf l).Bare := by
  rintro part ⟨⟩
  rfl

theorem Bare.unbound (kind : Decorator) : (Node.unbound kind : Node L).Bare := by
  rintro part ⟨⟩
  rfl

theorem Bare.composite {kind : Composite} {children : List (Node L)}
    (h : ∀ child ∈ children, child.Bare)
    (hself : (Node.composite kind children).isTransparent = false) :
    (Node.composite kind children).Bare := by
  intro part hpart
  cases hpart with
  | self => exact hself
  | child hmem hpart => exact h _ hmem part hpart

theorem Bare.decorator {kind : Decorator} {child : Node L} (h : child.Bare)
    (hself : (Node.decorator kind child).isTransparent = false) :
    (Node.decorator kind child).Bare := by
  intro part hpart
  cases hpart with
  | self => exact hself
  | bound hpart => exact h part hpart

theorem Bare.group {kind : Composite} {children : List (Node L)}
    (h : ∀ child ∈ children, child.Bare) : (Node.group kind children).Bare := by
  match children with
  | [] => exact Bare.composite h rfl
  | [child] => exact h child (List.mem_singleton.2 rfl)
  | _ :: _ :: _ => exact Bare.composite h rfl

theorem Bare.wrap {kind : Decorator} {child : Node L} (h : child.Bare) :
    (Node.wrap kind child).Bare := by
  unfold Node.wrap
  split
  · exact h
  · -- What the inner inverter inverts is a part of the child.
    exact h.of_within fun _ => .bound
  · split
    · exact h
    · next hcount => exact h.decorator (by simpa [isTransparent] using hcount)
  · next hroot hinverter htimes =>
    refine h.decorator ?_
    unfold isTransparent
    split <;> simp_all

/-- Everything transparent is erased. -/
theorem bare_erase (node : Node L) : node.erase.Bare := by
  induction node using Node.induction with
  | leaf l => exact .leaf l
  | composite kind children ih =>
    rw [erase, eraseAll_eq_map]
    apply Bare.group
    intro child hchild
    obtain ⟨node, hnode, rfl⟩ := List.mem_map.1 hchild
    exact ih node hnode
  | unbound kind => exact .unbound kind
  | decorator kind child ih => exact ih.wrap
  | boxed node ih => exact ih

/-- Inverters that meet when the box between them is erased are erased, too. -/
example (l : L) (once : Count) (h : once.val = 1) :
    (boxed (.decorator .inverter (.boxed (.decorator .inverter (.decorator (.times once)
      (.composite .randomSelector [.leaf l])))))).erase = .leaf l := by
  simp [erase, eraseAll, group, wrap, h]

end Node

/-! ### Scenes up to idle shuffles -/

/-- A shuffle of fewer than two places draws nothing. -/
def Occurrence.isIdle : Occurrence L E → Bool
  | .shuffled count => count < 2
  | _ => false

/-- The scenes show the same world, and the same history up to idle shuffles. -/
structure Scene.Alike (s s' : Scene L C E) : Prop where
  world : s.world = s'.world
  history : s.history.toList.filter (!·.isIdle) = s'.history.toList.filter (!·.isIdle)

namespace Scene.Alike

variable {s s' : Scene L C E}

theorem refl (s : Scene L C E) : s.Alike s := ⟨rfl, rfl⟩

theorem symm (h : s.Alike s') : s'.Alike s := ⟨h.world.symm, h.history.symm⟩

theorem trans {s'' : Scene L C E} (h : s.Alike s') (h' : s'.Alike s'') : s.Alike s'' :=
  ⟨h.world.trans h'.world, h.history.trans h'.history⟩

theorem log (h : s.Alike s') (o : Occurrence L E) : (s.log o).Alike (s'.log o) := by
  refine ⟨h.world, ?_⟩
  rw [toList_history_log, toList_history_log, List.filter_append, List.filter_append, h.history]

theorem log_left (h : s.Alike s') {o : Occurrence L E} (ho : o.isIdle = true) :
    (s.log o).Alike s' := by
  refine ⟨h.world, ?_⟩
  rw [toList_history_log, List.filter_append, h.history]
  simp [ho]

theorem report (h : s.Alike s') (e : Event E) : (s.report e).Alike (s'.report e) := h.log _

theorem reportAll (h : s.Alike s') (es : List (Event E)) :
    (s.reportAll es).Alike (s'.reportAll es) := by
  refine ⟨h.world, ?_⟩
  rw [toList_history_reportAll, toList_history_reportAll, List.filter_append, List.filter_append,
    h.history]

/-- Idle shuffles are no events. -/
theorem events_eq (h : s.Alike s') : s.events = s'.events := by
  have hidle (history : List (Occurrence L E)) :
      (history.filter (!·.isIdle)).filterMap Occurrence.event? =
        history.filterMap Occurrence.event? := by
    rw [List.filterMap_filter]
    congr 1
    funext o
    cases o with
    | shuffled count => exact ite_self none
    | leaf _ _ => rfl
    | unbound _ => rfl
    | event _ => rfl
  rw [Scene.events_eq, Scene.events_eq, ← hidle, h.history, hidle]

end Scene.Alike

/-! ### Interchangeable behaviors -/

namespace Behavior

/-- Where the first behavior answers, the second gives the same verdict from an alike scene, and
leaves an alike scene. -/
def Mimics (b b' : Behavior L C E) : Prop :=
  ∀ s s' v t, s.Alike s' → b s = some (v, t) → ∃ t', b' s' = some (v, t') ∧ t.Alike t'

/-- Each of two behaviors answers where the other does, and alike. -/
structure Interchangeable (b b' : Behavior L C E) : Prop where
  left : Mimics b b'
  right : Mimics b' b

theorem Mimics.andThen {b b' : Behavior L C E} {next next' : Status → Behavior L C E}
    (hb : Mimics b b') (hnext : ∀ status, Mimics (next status) (next' status)) :
    Mimics (andThen b next) (andThen b' next') := by
  intro s s' v t hs h
  rcases andThen_eq_some_iff.1 h with ⟨status, u, hbs, hnexts⟩ | ⟨fault, hbs, rfl⟩
  · obtain ⟨u', hbs', hu⟩ := hb s s' _ u hs hbs
    rw [andThen_of_ok next' hbs']
    exact hnext status u u' v t hu hnexts
  · obtain ⟨t', hbs', ht⟩ := hb s s' _ t hs hbs
    exact ⟨t', andThen_of_error next' hbs', ht⟩

theorem Mimics.guarded {b b' : Behavior L C E} (hb : Mimics b b') (d : Decorator) (ticks : Nat) :
    Mimics (guarded d ticks b) (guarded d ticks b') := by
  intro s s' v t hs h
  cases hc : d.watched.any s.world.flags.isCancelled with
  | true =>
    rw [guarded_of_cancelled ticks b hc] at h
    obtain ⟨rfl, rfl⟩ := Prod.mk.inj (Option.some.inj h)
    rw [hs.world] at hc
    exact ⟨_, guarded_of_cancelled ticks b' hc, hs.report _⟩
  | false =>
    rw [guarded_of_not_cancelled ticks b hc] at h
    rw [hs.world] at hc
    rw [guarded_of_not_cancelled ticks b' hc]
    exact hb s s' v t hs h

theorem Mimics.shuffled {next next' : List Nat → Behavior L C E}
    (hnext : ∀ order, Mimics (next order) (next' order)) (n : Nat) :
    Mimics (shuffled n next) (shuffled n next') := by
  rintro ⟨w, history⟩ ⟨_, history'⟩ v t ⟨rfl, hhistory⟩ h
  have hs : Scene.Alike (⟨{ w with generator := (w.generator.shuffle n).2 }, history⟩ :
      Scene L C E) ⟨{ w with generator := (w.generator.shuffle n).2 }, history'⟩ := ⟨rfl, hhistory⟩
  exact hnext (w.generator.shuffle n).1 _ _ v t (hs.log (.shuffled n)) h

theorem Mimics.trans {b b' b'' : Behavior L C E} (h : Mimics b b') (h' : Mimics b' b'') :
    Mimics b b'' := by
  intro s s' v t hs ht
  obtain ⟨u, hu, htu⟩ := h s s' v t hs ht
  obtain ⟨t', ht', hut'⟩ := h' s' s' v u (.refl s') hu
  exact ⟨t', ht', htu.trans hut'⟩

theorem Interchangeable.trans {b b' b'' : Behavior L C E} (h : Interchangeable b b')
    (h' : Interchangeable b' b'') : Interchangeable b b'' :=
  ⟨h.left.trans h'.left, h'.right.trans h.right⟩

/-! ### What transparent nodes do -/

theorem andThen_answer (b : Behavior L C E) : andThen b answer = b := by
  funext s
  rw [andThen]
  rcases b s with _ | ⟨_ | _, u⟩ <;> rfl

theorem inOrder_singleton (goOn : Status) (b : Behavior L C E) : inOrder goOn [b] = b := by
  have hnext : (fun status => if status = goOn then inOrder goOn [] else answer status) =
      (answer : Status → Behavior L C E) := by
    funext status
    split
    · next heq => rw [heq, inOrder]
    · rfl
  rw [inOrder, hnext, andThen_answer]

theorem repeated_one (b : Behavior L C E) (last : Status) : repeated b 1 last = b := by
  have hdone : repeated b 0 = answer := rfl
  rw [repeated_succ, hdone, andThen_answer]

theorem revise_invert_revise_invert (b : Behavior L C E) :
    revise Status.invert (revise Status.invert b) = b := by
  funext s
  rw [revise, revise]
  rcases b s with _ | ⟨_ | status, u⟩
  · rfl
  · rfl
  · simp

/-- An order of one place draws nothing and leaves an idle entry only. -/
theorem randomSelector_singleton (b : Behavior L C E) (s : Scene L C E) :
    randomSelector [b] s = b (s.log (.shuffled 1)) := by
  have horder : s.world.generator.shuffle 1 = ([0], s.world.generator) := rfl
  rw [randomSelector_eq, shuffled, List.length_singleton, horder]
  exact congrFun (inOrder_singleton .failure b) _

/-! ### Interchangeable nodes -/

variable [Leaf L C E]

theorem Mimics.leaf (l : L) : Mimics (leaf l : Behavior L C E) (Behavior.leaf l) := by
  rintro ⟨w, history⟩ ⟨_, history'⟩ v t ⟨rfl, hhistory⟩ h
  rw [leaf_eq] at h
  obtain ⟨rfl, rfl⟩ := Prod.mk.inj (Option.some.inj h)
  have hs : Scene.Alike (⟨(Leaf.tick l w : Reply C E).world, history⟩ : Scene L C E)
      ⟨(Leaf.tick l w : Reply C E).world, history'⟩ := ⟨rfl, hhistory⟩
  exact ⟨_, leaf_eq l _, (hs.reportAll _).log _⟩

/-- Mimicking respects the steps of an evaluation. -/
theorem mimics_closed : Closed (Mimics : Behavior L C E → Behavior L C E → Prop) fun _ => True where
  stuck _ _ _ _ _ _ h := nomatch h
  answer _ _ _ _ _ hs h := by
    obtain ⟨rfl, rfl⟩ := Prod.mk.inj (Option.some.inj h)
    exact ⟨_, rfl, hs⟩
  andThen hb hnext := Mimics.andThen hb hnext
  note _ _ _ _ _ _ hs h := by
    obtain ⟨rfl, rfl⟩ := Prod.mk.inj (Option.some.inj h)
    exact ⟨_, rfl, hs.report _⟩
  leaf l _ := Mimics.leaf l
  unbound _ _ _ _ _ _ hs h := by
    obtain ⟨rfl, rfl⟩ := Prod.mk.inj (Option.some.inj h)
    exact ⟨_, rfl, hs.log _⟩
  guarded ticks _ hb := Mimics.guarded hb _ ticks
  shuffled hnext := Mimics.shuffled hnext _

namespace Interchangeable

theorem node (limit : Nat) (n : Node L) :
    Interchangeable (n.tick limit : Behavior L C E) (n.tick limit) where
  left := mimics_closed.tick (fun _ _ => trivial) (Nat.le_refl limit)
  right := mimics_closed.tick (fun _ _ => trivial) (Nat.le_refl limit)

theorem of_eq (limit : Nat) {n n' : Node L}
    (h : (n.tick limit : Behavior L C E) = n'.tick limit) :
    Interchangeable (n.tick limit : Behavior L C E) (n'.tick limit) := by
  rw [h]
  exact .node limit n'

/-- Interchangeable children may replace each other below a composite. -/
theorem composite {limit : Nat} {children : List (Node L)} {f : Node L → Node L}
    (h : ∀ child ∈ children,
      Interchangeable (child.tick limit : Behavior L C E) ((f child).tick limit))
    (kind : Composite) :
    Interchangeable ((Node.composite kind children).tick limit : Behavior L C E)
      ((Node.composite kind (children.map f)).tick limit) := by
  rw [Node.tick, Node.tick, Node.tickAll_eq_map, Node.tickAll_eq_map, List.map_map]
  exact ⟨mimics_closed.composite kind fun child hchild => (h child hchild).left,
    mimics_closed.composite kind fun child hchild => (h child hchild).right⟩

/-- Interchangeable children may replace each other below a decorator. -/
theorem decorator {limit : Nat} {child child' : Node L}
    (h : Interchangeable (child.tick limit : Behavior L C E) (child'.tick limit))
    (kind : Decorator) :
    Interchangeable ((Node.decorator kind child).tick limit : Behavior L C E)
      ((Node.decorator kind child').tick limit) where
  left := mimics_closed.decorate (n := child) trivial h.left (Nat.le_refl limit)
  right := mimics_closed.decorate (n := child) trivial h.right (Nat.le_refl limit)

end Interchangeable

end Behavior

namespace Node

variable [Leaf L C E] (limit : Nat)

theorem interchangeable_only_child (kind : Composite) (child : Node L) :
    Behavior.Interchangeable ((composite kind [child]).tick limit : Behavior L C E)
      (child.tick limit) := by
  have hself := Behavior.Interchangeable.node (C := C) (E := E) limit child
  cases kind with
  | sequence =>
    apply Behavior.Interchangeable.of_eq
    exact (Behavior.sequence_eq_inOrder _).trans (Behavior.inOrder_singleton _ _)
  | selector =>
    apply Behavior.Interchangeable.of_eq
    exact (Behavior.selector_eq_inOrder _).trans (Behavior.inOrder_singleton _ _)
  | randomSelector =>
    have htick (s : Scene L C E) : (composite .randomSelector [child]).tick limit s =
        child.tick limit (s.log (.shuffled 1)) := Behavior.randomSelector_singleton _ s
    -- The only difference is the idle entry, on one side or the other.
    constructor
    · intro s s' v t hs h
      rw [htick] at h
      exact hself.left _ s' v t (hs.log_left rfl) h
    · intro s s' v t hs h
      rw [htick]
      exact hself.left s _ v t (hs.symm.log_left rfl).symm h

theorem interchangeable_group (kind : Composite) (children : List (Node L)) :
    Behavior.Interchangeable ((composite kind children).tick limit : Behavior L C E)
      ((group kind children).tick limit) := by
  match children with
  | [] => exact .node limit _
  | [child] => exact interchangeable_only_child limit kind child
  | _ :: _ :: _ => exact .node limit _

theorem interchangeable_wrap (kind : Decorator) (child : Node L) :
    Behavior.Interchangeable ((decorator kind child).tick limit : Behavior L C E)
      ((wrap kind child).tick limit) := by
  unfold wrap
  split
  · exact .node limit _
  · exact .of_eq limit (Behavior.revise_invert_revise_invert _)
  · split
    · next hcount =>
      apply Behavior.Interchangeable.of_eq
      rw [tick, Behavior.decorate, hcount, Behavior.repeated_one]
    · exact .node limit _
  · exact .node limit _

/-- An erased node has the answers of the node, within every limit. -/
theorem interchangeable_erase (node : Node L) :
    Behavior.Interchangeable (node.tick limit : Behavior L C E) (node.erase.tick limit) := by
  -- The children are erased first, and then the node over what is left of them.
  induction node using Node.induction with
  | leaf l => exact .node limit _
  | composite kind children ih =>
    rw [erase, eraseAll_eq_map]
    exact (Behavior.Interchangeable.composite ih kind).trans (interchangeable_group limit kind _)
  | unbound kind => exact .node limit _
  | decorator kind child ih =>
    exact (ih.decorator kind).trans (interchangeable_wrap limit kind _)
  | boxed node ih => exact ih

end Node

/-! ### Erasing keeps answers -/

variable [Leaf L C E]

/-- What shows of the answer of a task: its verdict, the world that it leaves and its events. -/
def Task.Yields (task : Task L) (w : World C) (v : Verdict) (u : World C)
    (events : List (Event E)) : Prop :=
  ∃ t : Scene L C E, task.Answers (.start w) v t ∧ t.world = u ∧ t.events = events

theorem Behavior.Mimics.yields {task task' : Task L} {w u : World C} {v : Verdict}
    {events : List (Event E)}
    (h : ∀ limit, Mimics (task.behavior limit : Behavior L C E) (task'.behavior limit))
    (hyields : task.Yields w v u events) : task'.Yields w v u events := by
  obtain ⟨t, ⟨limit, ht⟩, rfl, rfl⟩ := hyields
  obtain ⟨t', ht', halike⟩ := h limit (.start w) _ v t (.refl _) ht
  exact ⟨t', ⟨limit, ht'⟩, halike.world.symm, halike.events_eq.symm⟩

theorem Behavior.Interchangeable.yields_iff {task task' : Task L} {w u : World C} {v : Verdict}
    {events : List (Event E)}
    (h : ∀ limit, Interchangeable (task.behavior limit : Behavior L C E) (task'.behavior limit)) :
    task.Yields w v u events ↔ task'.Yields w v u events :=
  ⟨Mimics.yields fun limit => (h limit).left, Mimics.yields fun limit => (h limit).right⟩

/-- A tree over interchangeable nodes. -/
theorem Tree.interchangeable_of {node node' : Node L} {limit : Nat}
    (h : Behavior.Interchangeable (node.tick limit : Behavior L C E) (node'.tick limit)) :
    Behavior.Interchangeable ((Tree.of node).run limit : Behavior L C E)
      ((Tree.of node').run limit) := by
  rw [run, run, Behavior.evaluation_eq, Behavior.evaluation_eq]
  constructor
  · exact Behavior.mimics_closed.andThen h.left fun _ => Behavior.mimics_closed.note _ rfl
  · exact Behavior.mimics_closed.andThen h.right fun _ => Behavior.mimics_closed.note _ rfl

/-- Transparent nodes can be erased at every depth. No part of the erased node is transparent, and
from every world ticking it, and evaluating the tree over it, has the same answer as before, with
the same world and the same events, or none if there was none. -/
theorem erasing_keeps_answers (node : Node L) :
    node.erase.Bare ∧
      ∀ (w : World C) (v : Verdict) (u : World C) (events : List (Event E)),
        ((Task.node node).Yields w v u events ↔ (Task.node node.erase).Yields w v u events) ∧
          ((Task.tree (.of node)).Yields w v u events ↔
            (Task.tree (.of node.erase)).Yields w v u events) := by
  refine ⟨node.bare_erase, fun w v u events => ⟨?_, ?_⟩⟩
  · exact Behavior.Interchangeable.yields_iff fun limit => node.interchangeable_erase limit
  · apply Behavior.Interchangeable.yields_iff
    intro limit
    exact Tree.interchangeable_of (node.interchangeable_erase limit)

end TickTree
