import TickTree.Proofs.InTurn

/-!
# Short circuits

An ordered composite ticks its children from left to right, each in the scene that the one before it
left, and goes on while they return one status: success for a sequence and failure for a selector.
The first child that returns anything else, be it the other status or a fault, has the last word,
and if a child does not return, then neither does the composite. What a child judges may have been
changed by those before it, so which children are ticked is known only as the ticks are made.

Both composites are the same here. They differ in the status with which they go on.

## Main definitions

* `Through`: nodes are ticked in order and all go on
* `InOrder.Completes`, `InOrder.Stops`, `InOrder.Hangs`: what becomes of nodes in order
* `ShortCircuits`: what a composite does from a scene, by the ticks of its children

## Main results

* `Through.runs_append_iff`: behind nodes that go on, the others are on their own
* `Task.runs_inOrder_iff_completes_or_stops`, `Task.inOrder_endless_iff`: what becomes of nodes in
  order, exactly
* `ordered_composites_short_circuit`: the law for both composites
-/

namespace TickTree

variable {L C E : Type} [Leaf L C E]

/-- The nodes are ticked once each and in order, every one in the scene that the one before it left,
and all of them return the status `goOn`. -/
def Through (goOn : Status) (nodes : List (Node L)) (s : Scene L C E) (acts : List (Act L E))
    (u : Scene L C E) : Prop :=
  ∃ turns, InTurn Turn.Leads turns s u ∧ turns.map Turn.node = nodes ∧
    (∀ turn ∈ turns, turn.verdict = .ok goOn) ∧ turns.flatMap Turn.acts = acts

namespace Through

variable {goOn : Status} {n : Node L} {nodes rest : List (Node L)} {s t u : Scene L C E}
  {acts ticks : List (Act L E)} {v : Verdict}

@[simp] theorem nil_iff : Through goOn ([] : List (Node L)) s acts u ↔ acts = [] ∧ s = u := by
  constructor
  · intro ⟨turns, hturns, hnodes, _, hacts⟩
    rw [List.map_eq_nil_iff] at hnodes
    subst hnodes
    exact ⟨hacts.symm, InTurn.nil_iff.1 hturns⟩
  · intro ⟨hacts, hs⟩
    subst hacts hs
    exact ⟨[], .nil, rfl, by simp, rfl⟩

/-- The first node has the first turn. -/
theorem cons_iff : Through goOn (n :: nodes) s acts t ↔
    ∃ first u more, (Task.node n).Runs s first (.ok goOn) u ∧ Through goOn nodes u more t ∧
      acts = first ++ more := by
  constructor
  · intro ⟨turns, hturns, hnodes, hall, hacts⟩
    obtain ⟨turn, later, hturn, hnode, hlater⟩ := List.map_eq_cons_iff.1 hnodes
    subst hturn
    obtain ⟨hgo, hall⟩ := List.forall_mem_cons.1 hall
    obtain ⟨u, hfirst, hrest⟩ := InTurn.cons_iff.1 hturns
    rw [Turn.Leads, hnode, hgo] at hfirst
    exact ⟨turn.acts, u, _, hfirst, ⟨later, hrest, hlater, hall, rfl⟩, hacts.symm⟩
  · intro ⟨first, u, more, hfirst, ⟨turns, hturns, hnodes, hall, hmore⟩, hacts⟩
    let turn : Turn L E := ⟨n, first, .ok goOn⟩
    have hturn : turn.Leads s u := hfirst
    refine ⟨turn :: turns, .cons hturn hturns, ?_, List.forall_mem_cons.2 ⟨rfl, hall⟩, ?_⟩
    · rw [List.map_cons, hnodes]
    · rw [List.flatMap_cons, hmore, hacts]

/-- Behind nodes that go on, the others are ticked as if they were on their own. -/
theorem runs_append_iff (h : Through goOn nodes s ticks u) :
    (Task.inOrder goOn (nodes ++ rest)).Runs s acts v t ↔
      ∃ more, (Task.inOrder goOn rest).Runs u more v t ∧ acts = ticks ++ more := by
  induction nodes generalizing s acts ticks with
  | nil =>
    obtain ⟨hticks, hs⟩ := nil_iff.1 h
    subst hticks hs
    simp
  | cons n nodes ih =>
    obtain ⟨first, m, later, hfirst, hlater, hticks⟩ := cons_iff.1 h
    subst hticks
    rw [List.cons_append, Task.runs_inOrder_cons_iff]
    constructor
    · rintro (⟨first', m', more, hfirst', hmore, hacts⟩ | ⟨hv, hn⟩)
      · obtain ⟨hsame, -, hm⟩ := hfirst.unique hfirst'
        subst hsame hm
        obtain ⟨rest', hrest, hmore⟩ := (ih hlater).1 hmore
        exact ⟨rest', hrest, by rw [hacts, hmore, List.append_assoc]⟩
      · exact absurd (hfirst.unique hn).2.1.symm hv
    · intro ⟨more, hrest, hacts⟩
      refine .inl ⟨first, m, later ++ more, hfirst, (ih hlater).2 ⟨more, hrest, rfl⟩, ?_⟩
      rw [hacts, List.append_assoc]

end Through

/-! ### What becomes of nodes in order -/

section

variable (goOn : Status) (nodes : List (Node L)) (s : Scene L C E) (acts : List (Act L E))

/-- All of the nodes go on. -/
def InOrder.Completes (v : Verdict) (t : Scene L C E) : Prop :=
  v = .ok goOn ∧ Through goOn nodes s acts t

/-- The nodes before one of them go on, and this one returns something else. -/
def InOrder.Stops (v : Verdict) (t : Scene L C E) : Prop :=
  ∃ before child after ticks u last, nodes = before ++ child :: after ∧
    Through goOn before s ticks u ∧ (Task.node child).Runs u last v t ∧ v ≠ .ok goOn ∧
    acts = ticks ++ last

/-- The nodes before one of them go on, and this one does not return. -/
def InOrder.Hangs : Prop :=
  ∃ before child after ticks u, nodes = before ++ child :: after ∧
    Through goOn before s ticks u ∧ ∀ v t, ¬ child.Answers u v t

end

namespace Task

variable {goOn : Status} {nodes : List (Node L)} {s t : Scene L C E} {acts : List (Act L E)}
  {v : Verdict}

theorem runs_inOrder_of_completes (h : InOrder.Completes goOn nodes s acts v t) :
    (inOrder goOn nodes).Runs s acts v t := by
  obtain ⟨hv, hthrough⟩ := h
  rw [← List.append_nil nodes, hthrough.runs_append_iff, hv]
  exact ⟨[], .inOrderNil, (List.append_nil acts).symm⟩

theorem runs_inOrder_of_stops (h : InOrder.Stops goOn nodes s acts v t) :
    (inOrder goOn nodes).Runs s acts v t := by
  obtain ⟨before, child, after, ticks, u, last, hnodes, hbefore, hchild, hv, hacts⟩ := h
  rw [hnodes, hbefore.runs_append_iff]
  exact ⟨last, .inOrderStop hv hchild, hacts⟩

/-- Nodes in order return in two ways: all of them go on, or one is the first that does not. -/
theorem runs_inOrder_iff_completes_or_stops : (inOrder goOn nodes).Runs s acts v t ↔
    InOrder.Completes goOn nodes s acts v t ∨ InOrder.Stops goOn nodes s acts v t := by
  constructor
  · intro h
    induction nodes generalizing s acts with
    | nil =>
      obtain ⟨hacts, hv, hs⟩ := runs_inOrder_nil_iff.1 h
      exact .inl ⟨hv, Through.nil_iff.2 ⟨hacts, hs⟩⟩
    | cons n nodes ih =>
      rcases runs_inOrder_cons_iff.1 h with ⟨first, u, more, hn, hmore, hacts⟩ | ⟨hv, hn⟩
      · rcases ih hmore with ⟨hv, hall⟩ |
          ⟨before, child, after, ticks, m, last, hnodes, hbefore, hchild, hv, hlast⟩
        · exact .inl ⟨hv, Through.cons_iff.2 ⟨first, u, more, hn, hall, hacts⟩⟩
        · -- The first that does not go on is among the others.
          refine .inr ⟨n :: before, child, after, first ++ ticks, m, last, ?_,
            Through.cons_iff.2 ⟨first, u, ticks, hn, hbefore, rfl⟩, hchild, hv, ?_⟩
          · rw [hnodes, List.cons_append]
          · rw [hacts, hlast, List.append_assoc]
      · exact .inr ⟨[], n, nodes, [], s, acts, rfl, Through.nil_iff.2 ⟨rfl, rfl⟩, hn, hv, rfl⟩
  · rintro (h | h)
    · exact runs_inOrder_of_completes h
    · exact runs_inOrder_of_stops h

/-- Nodes in order return the status with which they go on if all of them go on, and only then. -/
theorem runs_inOrder_goOn_iff :
    (inOrder goOn nodes).Runs s acts (.ok goOn) t ↔ Through goOn nodes s acts t := by
  rw [runs_inOrder_iff_completes_or_stops]
  constructor
  · rintro (⟨-, hthrough⟩ | ⟨_, _, _, _, _, _, -, -, -, hv, -⟩)
    · exact hthrough
    · exact absurd rfl hv
  · intro hthrough
    exact .inl ⟨rfl, hthrough⟩

/-- Behind nodes that go on, a node that does not return keeps all of them from returning. -/
theorem not_runs_inOrder_of_hangs (h : InOrder.Hangs goOn nodes s) :
    ¬ (inOrder goOn nodes).Runs s acts v t := by
  obtain ⟨before, child, after, ticks, u, hnodes, hbefore, hno⟩ := h
  rw [hnodes, hbefore.runs_append_iff]
  intro ⟨more, hmore, _⟩
  rcases runs_inOrder_cons_iff.1 hmore with ⟨first, m, _, hchild, -, -⟩ | ⟨-, hchild⟩
  · exact hno _ m hchild.answers
  · exact hno v t hchild.answers

/-- If nodes in order do not return, then one of them does not, behind others that go on. -/
theorem hangs_of_endless (h : ∀ acts v t, ¬ (inOrder goOn nodes).Runs s acts v t) :
    InOrder.Hangs goOn nodes s := by
  induction nodes generalizing s with
  | nil => exact absurd .inOrderNil (h [] (.ok goOn) s)
  | cons n nodes ih =>
    by_cases hn : ∃ v u, n.Answers s v u
    · obtain ⟨v, u, hanswer⟩ := hn
      obtain ⟨first, hfirst⟩ := Node.answers_iff_exists_runs.1 hanswer
      by_cases hv : v = .ok goOn
      · subst hv
        have hrest : ∀ acts v t, ¬ (inOrder goOn nodes).Runs u acts v t :=
          fun acts v t hruns => h _ v t (.inOrderNext hfirst hruns)
        obtain ⟨before, child, after, ticks, m, hnodes, hbefore, hno⟩ := ih hrest
        refine ⟨n :: before, child, after, first ++ ticks, m, ?_, ?_, hno⟩
        · rw [hnodes, List.cons_append]
        · exact Through.cons_iff.2 ⟨first, u, ticks, hfirst, hbefore, rfl⟩
      · exact absurd (.inOrderStop hv hfirst) (h first v u)
    · refine ⟨[], n, nodes, [], s, rfl, Through.nil_iff.2 ⟨rfl, rfl⟩, ?_⟩
      exact fun v u hanswer => hn ⟨v, u, hanswer⟩

theorem inOrder_endless_iff :
    (∀ acts v t, ¬ (inOrder goOn nodes).Runs s acts v t) ↔ InOrder.Hangs goOn nodes s :=
  ⟨hangs_of_endless, fun h _ _ _ => not_runs_inOrder_of_hangs h⟩

end Task

/-! ### The law -/

/-- What a composite does from a scene that goes on with its children while they return `goOn`. -/
structure ShortCircuits (goOn : Status) (composite : Node L) (children : List (Node L))
    (s : Scene L C E) : Prop where
  /-- It returns what it has a course for. -/
  answers_iff : ∀ v t, composite.Answers s v t ↔ ∃ acts, (Task.node composite).Runs s acts v t
  /-- Either every child returns `goOn`, and so does the composite, after one tick of each of them,
  in the scene that the last one left. Or it returns what the first child returns that does not
  return `goOn`, after one tick of each child up to this one and of no other, in the scene that this
  one left. -/
  runs_iff : ∀ acts v t, (Task.node composite).Runs s acts v t ↔
    ∃ ticks, (InOrder.Completes goOn children s ticks v t ∨
      InOrder.Stops goOn children s ticks v t) ∧ acts = .entered composite :: ticks
  /-- It does not return exactly if there is a child that does not return, behind children that
  return `goOn`. -/
  endless_iff : (∀ v t, ¬ composite.Answers s v t) ↔ InOrder.Hangs goOn children s

/-- A node that hands its work to its children in order short-circuits. -/
theorem ShortCircuits.of_delegate? {goOn : Status} {composite : Node L} {children : List (Node L)}
    (h : composite.delegate? = some (.inOrder goOn children, id)) (s : Scene L C E) :
    ShortCircuits goOn composite children s where
  answers_iff _ _ := Node.answers_iff_exists_runs
  runs_iff acts v t := by
    simp only [Task.runs_node_id_iff h, Task.runs_inOrder_iff_completes_or_stops]
  endless_iff := by
    rw [← Task.inOrder_endless_iff]
    constructor
    · intro hnone acts v t hruns
      exact hnone v t ((Task.runs_node_id_iff h).2 ⟨acts, hruns, rfl⟩).answers
    · intro hnone v t hanswer
      obtain ⟨acts, hacts⟩ := Node.answers_iff_exists_runs.1 hanswer
      obtain ⟨rest, hrest, -⟩ := (Task.runs_node_id_iff h).1 hacts
      exact hnone rest v t hrest

/-- Sequences and selectors short-circuit. From every scene, a sequence ticks its children from left
to right up to the first that does not succeed, and a selector up to the first that does not fail.
It returns what this child returns, or the status of all of them if there is none. -/
theorem ordered_composites_short_circuit (children : List (Node L)) (s : Scene L C E) :
    ShortCircuits .success (.composite .sequence children) children s ∧
      ShortCircuits .failure (.composite .selector children) children s :=
  ⟨.of_delegate? rfl s, .of_delegate? rfl s⟩

end TickTree
