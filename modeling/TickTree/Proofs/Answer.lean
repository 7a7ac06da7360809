import TickTree.Proofs.Step

/-!
# Answers and histories

A node returns if it answers for some limit on its loops. A larger limit never changes an answer,
so a node has at most one from each scene. Behaviors only add to the history, and no kind of node
leads out of such behaviors: nothing that was recorded is ever taken back.

## Main definitions

* `Node.Answers`, `Tree.Answers`: the answer of a node and of a tree, without a limit
* `Behavior.Grows`: behaviors that only add to the history

## Main results

* `Node.tick_mono`, `Tree.run_mono`: a larger limit keeps an answer
* `Node.Answers.unique`, `Tree.Answers.unique`: there is at most one answer
* `Behavior.grows_closed`: the kinds of nodes are made of behaviors that only add to the history
-/

namespace TickTree

variable {L C E : Type}

namespace Scene

variable (s : Scene L C E)

@[simp] theorem world_log (o : Occurrence L E) : (s.log o).world = s.world := rfl

@[simp] theorem world_report (e : Event E) : (s.report e).world = s.world := rfl

@[simp] theorem toList_history_log (o : Occurrence L E) :
    (s.log o).history.toList = s.history.toList ++ [o] := Array.toList_push

@[simp] theorem toList_history_report (e : Event E) :
    (s.report e).history.toList = s.history.toList ++ [.event e] := Array.toList_push

@[simp] theorem toList_history_reportAll (es : List (Event E)) :
    (s.reportAll es).history.toList = s.history.toList ++ es.map .event := by
  simp [reportAll]

end Scene

/-- The event of an entry, if it is one. -/
def Occurrence.event? : Occurrence L E → Option (Event E)
  | .event e => some e
  | _ => none

/-- The leaf of an entry and what it returned, if it is the tick of one. -/
def Occurrence.leafTick? : Occurrence L E → Option (L × Verdict)
  | .leaf l v => some (l, v)
  | _ => none

namespace Scene

theorem events_eq (s : Scene L C E) : s.events = s.history.toList.filterMap Occurrence.event? := rfl

theorem leafTicks_eq (s : Scene L C E) :
    s.leafTicks = s.history.toList.filterMap Occurrence.leafTick? := rfl

@[simp] theorem events_start (w : World C) : (start w : Scene L C E).events = [] := rfl

@[simp] theorem events_report (s : Scene L C E) (e : Event E) :
    (s.report e).events = s.events ++ [e] := by
  simp [events_eq, Occurrence.event?]

theorem events_log_of_event?_eq_none (s : Scene L C E) {o : Occurrence L E}
    (h : o.event? = none) : (s.log o).events = s.events := by
  simp [events_eq, h]

@[simp] theorem events_reportAll (s : Scene L C E) (es : List (Event E)) :
    (s.reportAll es).events = s.events ++ es := by
  have hes : (es.map (Occurrence.event (L := L))).filterMap Occurrence.event? = es := by
    rw [List.filterMap_map]
    exact List.filterMap_some
  rw [events_eq, toList_history_reportAll, List.filterMap_append, hes, ← events_eq]

end Scene

namespace Behavior

/-- The second behavior answers wherever the first does, and alike. -/
def Refines (b b' : Behavior L C E) : Prop := ∀ s a, b s = some a → b' s = some a

/-- What a behavior adds to the history comes after all that is there. -/
def Grows (b : Behavior L C E) : Prop :=
  ∀ s v t, b s = some (v, t) → s.history.toList <+: t.history.toList

theorem Grows.andThen {b : Behavior L C E} {next : Status → Behavior L C E} (hb : Grows b)
    (hnext : ∀ status, Grows (next status)) : Grows (andThen b next) := by
  intro s v t h
  rcases andThen_eq_some_iff.1 h with ⟨status, u, hbs, hnexts⟩ | ⟨fault, hbs, -⟩
  · exact (hb _ _ _ hbs).trans (hnext status _ _ _ hnexts)
  · exact hb _ _ _ hbs

theorem Grows.guarded {b : Behavior L C E} (hb : Grows b) (d : Decorator) (ticks : Nat) :
    Grows (guarded d ticks b) := by
  intro s v t h
  cases hc : d.watched.any s.world.flags.isCancelled with
  | true =>
    rw [guarded_of_cancelled ticks b hc] at h
    obtain ⟨-, rfl⟩ := Prod.mk.inj (Option.some.inj h)
    simp
  | false =>
    rw [guarded_of_not_cancelled ticks b hc] at h
    exact hb _ _ _ h

theorem Grows.shuffled {next : List Nat → Behavior L C E} (hnext : ∀ order, Grows (next order))
    (n : Nat) : Grows (shuffled n next) := by
  intro s v t h
  have hgrows := hnext _ _ _ _ h
  rw [Scene.toList_history_log] at hgrows
  exact (List.prefix_append _ _).trans hgrows

variable [Leaf L C E]

/-- The scene that a leaf leaves behind. -/
theorem leaf_eq (l : L) (s : Scene L C E) :
    leaf l s = some ((Leaf.tick l s.world : Reply C E).verdict,
      ((⟨(Leaf.tick l s.world : Reply C E).world, s.history⟩ : Scene L C E).reportAll
        ((Leaf.tick l s.world : Reply C E).notes.map .note)).log
          (.leaf l (Leaf.tick l s.world : Reply C E).verdict)) := rfl

theorem refines_closed :
    Closed (Refines : Behavior L C E → Behavior L C E → Prop) fun _ => True where
  stuck _ _ _ h := nomatch h
  answer _ _ _ h := h
  andThen := by
    intro b b' next next' hb hnext s a h
    obtain ⟨v, t⟩ := a
    rcases andThen_eq_some_iff.1 h with ⟨status, u, hbs, hnexts⟩ | ⟨fault, hbs, rfl⟩
    · rw [andThen_of_ok next' (hb s _ hbs)]
      exact hnext status u _ hnexts
    · exact andThen_of_error next' (hb s _ hbs)
  note _ _ _ _ h := h
  leaf _ _ _ _ h := h
  unbound _ _ _ _ h := h
  guarded := by
    intro d child b b' ticks _ hb s a h
    cases hc : d.watched.any s.world.flags.isCancelled with
    | true =>
      rw [guarded_of_cancelled ticks b hc] at h
      rw [guarded_of_cancelled ticks b' hc, h]
    | false =>
      rw [guarded_of_not_cancelled ticks b hc] at h
      rw [guarded_of_not_cancelled ticks b' hc, hb s a h]
  shuffled hnext _ _ h := hnext _ _ _ h

theorem grows_closed : Closed (fun b _ : Behavior L C E => Grows b) fun _ => True where
  stuck _ _ _ _ h := nomatch h
  answer _ s v t h := by
    obtain ⟨-, rfl⟩ := Prod.mk.inj (Option.some.inj h)
    exact List.prefix_refl _
  andThen hb hnext := hb.andThen hnext
  note _ _ s v t h := by
    obtain ⟨-, rfl⟩ := Prod.mk.inj (Option.some.inj h)
    simp
  leaf l _ s v t h := by
    rw [leaf_eq] at h
    obtain ⟨-, rfl⟩ := Prod.mk.inj (Option.some.inj h)
    simp
  unbound _ _ s v t h := by
    obtain ⟨-, rfl⟩ := Prod.mk.inj (Option.some.inj h)
    simp
  guarded ticks _ hb := hb.guarded _ ticks
  shuffled hnext := Grows.shuffled hnext _

end Behavior

/-! ### The answer of a node -/

namespace Node

variable [Leaf L C E] {node : Node L} {s t : Scene L C E} {v : Verdict} {limit limit' : Nat}

theorem tick_mono (hl : limit ≤ limit') {a : Verdict × Scene L C E}
    (h : node.tick limit s = some a) : node.tick limit' s = some a :=
  Behavior.refines_closed.tick (fun _ _ => trivial) hl s a h

/-- A node answers with a verdict and a scene if it does so within some limit. -/
def Answers (node : Node L) (s : Scene L C E) (v : Verdict) (t : Scene L C E) : Prop :=
  ∃ limit, node.tick limit s = some (v, t)

theorem Answers.unique {v' : Verdict} {t' : Scene L C E} (h : node.Answers s v t)
    (h' : node.Answers s v' t') : v = v' ∧ t = t' := by
  obtain ⟨limit, hl⟩ := h
  obtain ⟨limit', hl'⟩ := h'
  -- Under the larger of the two limits both answers are the answer.
  have hm := tick_mono (Nat.le_max_left limit limit') hl
  rw [tick_mono (Nat.le_max_right limit limit') hl'] at hm
  exact Prod.mk.inj (Option.some.inj hm.symm)

end Node

namespace Tree

variable [Leaf L C E] {tree : Tree L} {s t : Scene L C E} {v : Verdict} {limit limit' : Nat}

theorem run_mono (hl : limit ≤ limit') {a : Verdict × Scene L C E}
    (h : tree.run limit s = some a) : tree.run limit' s = some a :=
  Behavior.refines_closed.run (fun _ _ => trivial) hl s a h

/-- A tree answers with a verdict and a scene if it does so within some limit. -/
def Answers (tree : Tree L) (s : Scene L C E) (v : Verdict) (t : Scene L C E) : Prop :=
  ∃ limit, tree.run limit s = some (v, t)

theorem Answers.unique {v' : Verdict} {t' : Scene L C E} (h : tree.Answers s v t)
    (h' : tree.Answers s v' t') : v = v' ∧ t = t' := by
  obtain ⟨limit, hl⟩ := h
  obtain ⟨limit', hl'⟩ := h'
  have hm := run_mono (Nat.le_max_left limit limit') hl
  rw [run_mono (Nat.le_max_right limit limit') hl'] at hm
  exact Prod.mk.inj (Option.some.inj hm.symm)

end Tree

end TickTree
