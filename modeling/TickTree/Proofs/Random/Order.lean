import TickTree.Proofs.Erasure
import TickTree.Proofs.InTurn
import TickTree.Proofs.Random.WithoutChance

/-!
# Selecting in a random order

A random selector draws an order of its children before it ticks any of them, and from there on it
is a selector over the children in that order. Whatever the draws are, the order is a permutation,
so that every child has one place in it: no child is ticked twice, and if all fail, each was ticked
once. Children that return the same status from everywhere therefore have the same status together,
in whatever order they are ticked.

## Main definitions

* `Generator.visited`: a list in the order that is drawn for it
* `SelectsInDrawnOrder`: what a random selector has in common with a selector

## Main results

* `Generator.shuffle_perm`: every order that is drawn is a permutation
* `Task.runs_randomSelector_iff`: after its draws, a random selector ticks its children in order
* `random_selectors_select_in_drawn_order`: the law, from every scene
-/

namespace TickTree

/-! ### The order that is drawn -/

namespace Shuffle

theorem swapIfInBounds_perm {α : Type} (order : Array α) (i j : Nat) :
    (order.swapIfInBounds i j).Perm order := by
  rw [Array.swapIfInBounds_def]
  split
  · split
    · exact Array.swap_perm ..
    · exact .refl _
  · exact .refl _

/-- Swapping keeps all items, whatever the draws are. -/
theorem arrange_perm {α : Type} (order : Array α) (draws : List Nat) :
    (arrange order draws).Perm order := by
  induction draws generalizing order with
  | nil => exact .refl _
  | cons j js ih => exact (ih _).trans (swapIfInBounds_perm order _ j)

theorem order_perm (n : Nat) (draws : List Nat) : (order n draws).Perm (List.range n) := by
  have h := (arrange_perm (Array.range n) draws).toList
  rwa [Array.toList_range] at h

end Shuffle

namespace Generator

theorem shuffle_perm (g : Generator) (n : Nat) : (g.shuffle n).1.Perm (List.range n) :=
  Shuffle.order_perm n _

/-- The items of a list, in the order that is drawn for it. -/
def visited {α : Type} (g : Generator) (xs : List α) : List α :=
  (g.shuffle xs.length).1.filterMap (xs[·]?)

variable {α : Type} (g : Generator) (xs : List α)

/-- Every place of the order is a place of the list. -/
theorem map_some_visited : (g.visited xs).map some = (g.shuffle xs.length).1.map (xs[·]?) := by
  rw [visited, List.map_filterMap_some_eq_filter_map_isSome, List.filter_eq_self]
  intro item hitem
  obtain ⟨place, hplace, rfl⟩ := List.mem_map.1 hitem
  have hlt : place < xs.length := List.mem_range.1 ((g.shuffle_perm _).mem_iff.1 hplace)
  simp [hlt]

theorem length_visited : (g.visited xs).length = xs.length := by
  have h := congrArg List.length (g.map_some_visited xs)
  rwa [List.length_map, List.length_map, (g.shuffle_perm _).length_eq, List.length_range] at h

theorem filterMap_getElem?_range : (List.range xs.length).filterMap (xs[·]?) = xs := by
  induction xs with
  | nil => rfl
  | cons x xs ih => simpa [List.range_succ_eq_map, List.filterMap_map, Function.comp_def] using ih

theorem visited_perm : (g.visited xs).Perm xs := by
  have h := (g.shuffle_perm xs.length).filterMap (xs[·]?)
  rwa [filterMap_getElem?_range] at h

end Generator

variable {L C E : Type} [Leaf L C E]

/-! ### After the draws -/

namespace Task

variable {children nodes : List (Node L)} {s t : Scene L C E} {acts : List (Act L E)} {v : Verdict}

/-- The draws of a random selector come before all that its children do. -/
theorem runs_randomSelector_iff : (node (.composite .randomSelector children)).Runs s acts v t ↔
    ∃ rest, (inOrder .failure (s.world.generator.visited children)).Runs
        (s.shuffled children.length) rest v t ∧
      acts = .entered (.composite .randomSelector children) :: .drew children.length :: rest := by
  constructor
  · intro h
    cases h with
    | delegated hn _ => exact nomatch hn
    | shuffled h => exact ⟨_, h, rfl⟩
  · rintro ⟨rest, h, rfl⟩
    exact .shuffled h

/-- What shows of an answer can be told from a course, from any scene with the world. -/
theorem yields_iff_of_world_eq {task : Task L} {w u : World C} {events : List (Event E)}
    (hs : s.world = w) : task.Yields w v u events ↔
      ∃ acts t, task.Runs s acts v t ∧ t.world = u ∧ acts.filterMap Act.event? = events := by
  constructor
  · rintro ⟨t, hanswer, rfl, rfl⟩
    obtain ⟨acts, h⟩ := exists_runs_iff.2 hanswer
    obtain ⟨t', h'⟩ := h.exists_of_world_eq hs.symm
    exact ⟨acts, t', h', h'.world_eq h hs, h.leads.events.symm⟩
  · rintro ⟨acts, t, h, rfl, rfl⟩
    have hstart : s.world = (Scene.start w : Scene L C E).world := hs
    obtain ⟨t', h'⟩ := h.exists_of_world_eq hstart
    exact ⟨t', h'.answers, h'.world_eq h hs.symm, h'.leads.events⟩

/-- A random selector shows what a selector of the drawn order shows after the draws. -/
theorem yields_randomSelector_iff {w u : World C} {events : List (Event E)} :
    (node (.composite .randomSelector children)).Yields w v u events ↔
      (node (.composite .selector (w.generator.visited children))).Yields
        { w with generator := (w.generator.shuffle children.length).2 } v u events := by
  refine (yields_iff_of_world_eq (s := .start w) rfl).trans (Iff.trans ?_
    (yields_iff_of_world_eq (s := (Scene.start w).shuffled children.length) rfl).symm)
  simp only [runs_randomSelector_iff, runs_node_id_iff (n := .composite .selector _) rfl]
  -- Neither activating a node nor drawing an order is an event.
  constructor
  · rintro ⟨_, t, ⟨rest, h, rfl⟩, rfl, rfl⟩
    exact ⟨_, t, ⟨rest, h, rfl⟩, rfl, rfl⟩
  · rintro ⟨_, t, ⟨rest, h, rfl⟩, rfl, rfl⟩
    exact ⟨_, t, ⟨rest, h, rfl⟩, rfl, rfl⟩

/-- Of nodes that return the same status from everywhere, one succeeds or all fail. -/
theorem exists_runs_of_steady {status : Node L → Status}
    (h : ∀ n ∈ nodes, ∀ s : Scene L C E, ∃ t, n.Answers s (.ok (status n)) t) :
    ∃ acts final t, (inOrder .failure nodes).Runs s acts (.ok final) t ∧
      (final = .success ↔ ∃ n ∈ nodes, status n = .success) := by
  induction nodes generalizing s with
  | nil => exact ⟨[], .failure, s, .inOrderNil, by simp⟩
  | cons n nodes ih =>
    obtain ⟨hn, hnodes⟩ := List.forall_mem_cons.1 h
    obtain ⟨u, hanswer⟩ := hn s
    obtain ⟨acts, hacts⟩ := Node.answers_iff_exists_runs.1 hanswer
    cases hstatus : status n with
    | success =>
      rw [hstatus] at hacts
      exact ⟨acts, .success, u, .inOrderStop (by simp) hacts, by simp [hstatus]⟩
    | failure =>
      rw [hstatus] at hacts
      obtain ⟨rest, final, t, hrest, hfinal⟩ := ih (s := u) hnodes
      exact ⟨_, final, t, .inOrderNext hacts hrest, by simp [hstatus, hfinal]⟩

end Task

/-! ### The law -/

/-- After all its draws, a random selector ticks children of different places in the order that was
drawn, each in the scene that the one before it left. If it fails, they are the children of all
places. -/
def TicksInDrawnOrder (children : List (Node L)) (s : Scene L C E) (acts : List (Act L E))
    (v : Verdict) (t : Scene L C E) : Prop :=
  ∃ places turns, acts = .entered (.composite .randomSelector children) ::
      .drew children.length :: turns.flatMap Turn.acts ∧
    InTurn Turn.Leads turns (s.shuffled children.length) t ∧
    turns.map (fun turn => some turn.node) = places.map (children[·]?) ∧
    places <+: (s.world.generator.shuffle children.length).1 ∧ places.Nodup ∧
    (v = .ok .failure → places.Perm (List.range children.length))

/-- What a random selector does from a scene, compared with a selector. -/
structure SelectsInDrawnOrder (children : List (Node L)) (s : Scene L C E) : Prop where
  /-- The order that is drawn is a permutation of the places of the children. -/
  order_perm : (s.world.generator.shuffle children.length).1.Perm (List.range children.length)
  /-- Each place of the order has a child, which is visited in its turn. -/
  visited_eq : (s.world.generator.visited children).map some =
    (s.world.generator.shuffle children.length).1.map (children[·]?)
  /-- Fewer than two children need no draw. -/
  idle : children.length < 2 →
    (s.world.generator.shuffle children.length).2 = s.world.generator
  /-- It returns, makes of the world and reports what a selector of the visited children does, when
  the random source is as the draws leave it. -/
  yields : ∀ v u events,
    (Task.node (.composite .randomSelector children)).Yields s.world v u events ↔
      (Task.node (.composite .selector (s.world.generator.visited children))).Yields
        { s.world with generator := (s.world.generator.shuffle children.length).2 } v u events
  /-- After all its draws it ticks each child at most once, and all of them if it fails. -/
  turns : ∀ acts v t, (Task.node (.composite .randomSelector children)).Runs s acts v t →
    TicksInDrawnOrder children s acts v t
  /-- If each child returns the same status from everywhere, then it succeeds exactly if one of them
  does, whatever the draws are. -/
  verdict : ∀ status : Node L → Status,
    (∀ child ∈ children, ∀ s : Scene L C E, ∃ t, child.Answers s (.ok (status child)) t) →
    ∃ final t, (Node.composite .randomSelector children).Answers s (.ok final) t ∧
      (final = .success ↔ ∃ child ∈ children, status child = .success)

theorem Task.Runs.ticksInDrawnOrder {children : List (Node L)} {s t : Scene L C E}
    {acts : List (Act L E)} {v : Verdict}
    (h : (Task.node (.composite .randomSelector children)).Runs s acts v t) :
    TicksInDrawnOrder children s acts v t := by
  let g := s.world.generator
  let order := (g.shuffle children.length).1
  have horder : order.Perm (List.range children.length) := g.shuffle_perm _
  obtain ⟨_, hrest, rfl⟩ := Task.runs_randomSelector_iff.1 h
  obtain ⟨turns, hturns, ⟨hnodes, hverdicts⟩, rfl⟩ := Task.runs_inOrder_iff.1 hrest
  -- The places of the turns are the first ones of the order.
  have hplaces : turns.map (fun turn => some turn.node) =
      (order.take turns.length).map (children[·]?) := by
    rw [List.prefix_iff_eq_take, List.length_map] at hnodes
    calc
      _ = (turns.map Turn.node).map some := by rw [List.map_map]; rfl
      _ = ((g.visited children).map some).take turns.length := by rw [hnodes, List.map_take]
      _ = _ := by rw [g.map_some_visited, List.map_take]
  refine ⟨order.take turns.length, turns, rfl, hturns, hplaces, List.take_prefix _ _, ?_, ?_⟩
  · exact (horder.nodup_iff.2 List.nodup_range).sublist (List.take_sublist _ _)
  · intro hv
    rcases hverdicts with ⟨-, hall⟩ | ⟨hno, -⟩
    · have hlength : turns.length = order.length := by
        have hturns := congrArg List.length hall
        rw [List.length_map, List.length_replicate, g.length_visited] at hturns
        rw [hturns, horder.length_eq, List.length_range]
      rw [hlength, List.take_length]
      exact horder
    · exact absurd hv hno

/-- A random selector is a selector over a permutation of its children, which it draws before it
ticks any of them. -/
theorem random_selectors_select_in_drawn_order (children : List (Node L)) (s : Scene L C E) :
    SelectsInDrawnOrder children s where
  order_perm := s.world.generator.shuffle_perm _
  visited_eq := s.world.generator.map_some_visited children
  idle h := by rw [Generator.shuffle_of_lt_two h]
  yields _ _ _ := Task.yields_randomSelector_iff
  turns _ _ _ h := h.ticksInDrawnOrder
  verdict status hsteady := by
    have hperm := s.world.generator.visited_perm children
    have hvisited : ∀ child ∈ s.world.generator.visited children, ∀ s : Scene L C E,
        ∃ t, child.Answers s (.ok (status child)) t :=
      fun child hchild => hsteady child (hperm.mem_iff.1 hchild)
    obtain ⟨acts, final, t, hacts, hfinal⟩ :=
      Task.exists_runs_of_steady (s := s.shuffled children.length) hvisited
    have hruns := Task.runs_randomSelector_iff.2 ⟨acts, hacts, rfl⟩
    exact ⟨final, t, hruns.answers, by simp only [hfinal, hperm.mem_iff]⟩

end TickTree
