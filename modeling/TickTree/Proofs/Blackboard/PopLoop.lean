import Mathlib.Data.List.Basic
import TickTree.Proofs.Loop.UntilFail
import TickTree.Workbench.Leaf

/-!
# Pop loops

A pop loop takes the items of a stack one after the other, from the top, and ticks a body for each.
It is a repetition until failure of a sequence of two: a leaf takes the next item into a slot and
fails if there is none, and then comes the body. So the loop ends with the stack, or at the first
item with which the body does not succeed.

The loop has no bound of its own, and the body may write the stack too. But each round takes an item
away. As long as the body never leaves more items than it found, there are at most as many
successful rounds as there are items at the start.

## Main definitions

* `Leaf.Performs`: leaves of any kind that do what a leaf over a blackboard does
* `Node.popThen`, `Node.popLoop`: the sequence and the loop
* `Serving`, `Serving.Leads`: one item that is taken, and the tick of the body with it
* `PopLoop`: the servings of a pop loop and how it ends

## Main results

* `Node.runs_popLoop_iff`: these are the courses of the loop
* `Serving.length_add_length_le`, `Serving.stack_eq_append`: what servings take from the stack
* `pop_loop_serves_from_top`: the loop ends, and what it has served by then
-/

namespace TickTree

open Blackboard

variable {L C E K S T : Type} [Leaf L C E] [Blackboard C K S T]

/-! ### Leaves that do what a leaf over a blackboard does -/

section

variable [ToString T]

/-- A leaf does what a leaf over a blackboard does, and reports the same as notes of its kind. -/
def Leaf.Performs (C : Type) [Leaf L C E] [Blackboard C K S T] (note : Transfer → E) (l : L)
    (p : Primitive K S T) : Prop :=
  ∀ w : World C, (Leaf.tick l w : Reply C E) =
    ⟨(p.act w.context).1, { w with context := (p.act w.context).2.1 },
      (p.act w.context).2.2.map note⟩

theorem Primitive.performs_self (p : Primitive K S T) : Leaf.Performs C id p p := by
  intro w
  rw [List.map_id]
  rfl

theorem BenchLeaf.performs_primitive (p : Primitive Board.StackName Board.SlotName String) :
    Leaf.Performs Workbench id (BenchLeaf.primitive p) p := by
  intro w
  rw [List.map_id]
  rfl

namespace Leaf.Performs

variable {note : Transfer → E} {l : L} {p : Primitive K S T} {k : K} {x : S} {s t : Scene L C E}
  {acts : List (Act L E)} {v : Verdict}

theorem runs (h : Performs C note l p) (hruns : (Task.node (.leaf l)).Runs s acts v t) :
    v = (p.act s.world.context).1 ∧
      t.world = { s.world with context := (p.act s.world.context).2.1 } := by
  cases hruns with
  | leaf hl =>
    rw [Behavior.leaf_eq, h] at hl
    obtain ⟨rfl, rfl⟩ := Prod.mk.inj (Option.some.inj hl)
    exact ⟨rfl, rfl⟩
  | delegated hdelegate _ => exact nomatch hdelegate

/-- A leaf that pops fails and leaves the world as it is, or it moves an item. -/
theorem runs_pop (h : Performs C note l (.pop k x))
    (hruns : (Task.node (.leaf l)).Runs s acts v t) :
    (stack s.world.context k = [] ∧ v = .ok .failure ∧ t.world = s.world) ∨
    ∃ item rest, stack s.world.context k = item :: rest ∧ v = .ok .success ∧ t.world =
      { s.world with context := setSlot (setStack s.world.context k rest) x (some item) } := by
  obtain ⟨rfl, ht⟩ := h.runs hruns
  cases hstack : stack s.world.context k with
  | nil =>
    simp only [Primitive.act, hstack] at ht
    exact .inl ⟨rfl, by rw [Primitive.act, hstack], ht⟩
  | cons item rest =>
    simp only [Primitive.act, hstack] at ht
    exact .inr ⟨item, rest, rfl, by rw [Primitive.act, hstack], ht⟩

/-- A leaf that pops and fails changes nothing. -/
theorem world_eq_of_failure (h : Performs C note l (.pop k x))
    (hruns : (Task.node (.leaf l)).Runs s acts (.ok .failure) t) : t.world = s.world := by
  rcases h.runs_pop hruns with ⟨-, -, hworld⟩ | ⟨_, _, -, hsuccess, -⟩
  · exact hworld
  · exact nomatch hsuccess

end Leaf.Performs

end

/-- A leaf always returns. -/
theorem Node.leaf_answers (l : L) (s : Scene L C E) : ∃ v t, (Node.leaf l).Answers s v t :=
  ⟨_, _, 0, Behavior.leaf_eq l s⟩

/-! ### One item after the other -/

namespace Node

/-- Takes an item, and ticks a body if there was one. -/
abbrev popThen (pop : L) (body : Node L) : Node L := .composite .sequence [.leaf pop, body]

/-- Takes items and ticks a body, until no item is left or the body fails. -/
abbrev popLoop (pop : L) (body : Node L) : Node L := .untilFail none (popThen pop body)

end Node

/-- One item that is taken from a stack, and the tick of the body with this item. -/
structure Serving (L T E : Type) where
  item : T
  /-- The acts of the leaf that takes the item. -/
  taken : List (Act L E)
  /-- The acts of the body. -/
  acts : List (Act L E)
  /-- What the body returns. -/
  verdict : Verdict

namespace Serving

/-- A serving leads from one scene to the next: the item was on top of the stack and is taken from
it, and when the body is ticked the slot holds the item. -/
def Leads (pop : L) (body : Node L) (k : K) (x : S) (serving : Serving L T E)
    (s u : Scene L C E) : Prop :=
  ∃ m, (Task.node (.leaf pop)).Runs s serving.taken (.ok .success) m ∧
    stack s.world.context k = serving.item :: stack m.world.context k ∧
    slot m.world.context x = some serving.item ∧
    (Task.node body).Runs m serving.acts serving.verdict u

/-- All acts of a round of the loop in which an item is served. -/
def round (pop : L) (body : Node L) (serving : Serving L T E) : List (Act L E) :=
  .entered (.popThen pop body) :: (serving.taken ++ serving.acts)

variable {pop : L} {body : Node L} {k : K} {x : S} {servings : List (Serving L T E)}
  {s u : Scene L C E}

/-- Each serving takes an item away, and the body never makes up for it. -/
theorem length_add_length_le
    (hbody : ∀ (m u : Scene L C E) v, body.Answers m v u →
      (stack u.world.context k).length ≤ (stack m.world.context k).length)
    (h : InTurn (Leads pop body k x) servings s u) :
    servings.length + (stack u.world.context k).length ≤ (stack s.world.context k).length := by
  induction h with
  | nil => simp
  | cons hserving _ ih =>
    obtain ⟨m, -, hstack, -, hruns⟩ := hserving
    have hkept := hbody _ _ _ hruns.answers
    rw [hstack, List.length_cons, List.length_cons]
    omega

/-- If the body leaves the stack alone, the items are served in the order in which they lie. -/
theorem stack_eq_append
    (hbody : ∀ (m u : Scene L C E) v, body.Answers m v u →
      stack u.world.context k = stack m.world.context k)
    (h : InTurn (Leads pop body k x) servings s u) :
    stack s.world.context k = servings.map item ++ stack u.world.context k := by
  induction h with
  | nil => rfl
  | cons hserving _ ih =>
    obtain ⟨m, -, hstack, -, hruns⟩ := hserving
    rw [hstack, ← hbody _ _ _ hruns.answers, ih, List.map_cons, List.cons_append]

end Serving

/-! ### The course of a pop loop -/

/-- How a pop loop ends after so many items with which the body succeeded: the serving of the last
round, if there is one, what the loop still does, its verdict and the scene that it leaves. -/
inductive PopLoop.Ends (pop : L) (body : Node L) (k : K) (x : S) (successes : Nat)
    (u : Scene L C E) : List (Serving L T E) → List (Act L E) → Verdict → Scene L C E → Prop
  -- No item is left.
  | empty {missed t} : stack u.world.context k = [] →
      (Task.node (.leaf pop)).Runs u missed (.ok .failure) t →
      Ends pop body k x successes u []
        (.entered (.popThen pop body) :: (missed ++ [.emitted (.untilFailFinished successes)]))
        (.ok .success) (t.report (.untilFailFinished successes))
  -- The body fails.
  | failed {serving t} : serving.Leads pop body k x u t → serving.verdict = .ok .failure →
      Ends pop body k x successes u [serving]
        (serving.round pop body ++ [.emitted (.untilFailFinished successes)])
        (.ok .success) (t.report (.untilFailFinished successes))
  -- The body returns a fault.
  | fault {serving fault t} : serving.Leads pop body k x u t → serving.verdict = .error fault →
      Ends pop body k x successes u [serving] (serving.round pop body) (.error fault) t

/-- The course of a pop loop: so many servings with which the body succeeds, one after the other,
and one more round in which the loop ends. -/
def PopLoop (pop : L) (body : Node L) (k : K) (x : S) (servings : List (Serving L T E))
    (successes : Nat) (s : Scene L C E) (acts : List (Act L E)) (v : Verdict)
    (t : Scene L C E) : Prop :=
  ∃ served last u ending, servings = served ++ last ∧
    InTurn (Serving.Leads pop body k x) served s u ∧
    served.map Serving.verdict = List.replicate successes (.ok .success) ∧
    PopLoop.Ends pop body k x successes u last ending v t ∧
    acts = .entered (.popLoop pop body) :: (served.flatMap (Serving.round pop body) ++ ending)

section

variable [ToString T] {note : Transfer → E} {pop : L} {body : Node L} {k : K} {x : S}
  {s t u : Scene L C E} {acts : List (Act L E)} {v : Verdict}

/-- A tick of the sequence serves an item, or there is none. -/
theorem Node.runs_popThen_iff (hpop : Leaf.Performs C note pop (.pop k x)) :
    (Task.node (popThen pop body)).Runs s acts v t ↔
      (∃ serving : Serving L T E, serving.Leads pop body k x s t ∧ serving.verdict = v ∧
        acts = serving.round pop body) ∨
      (stack s.world.context k = [] ∧ v = .ok .failure ∧
        ∃ missed, (Task.node (.leaf pop)).Runs s missed (.ok .failure) t ∧
          acts = .entered (popThen pop body) :: missed) := by
  rw [Task.runs_node_id_iff rfl]
  simp only [Task.runs_inOrder_cons_iff (n := Node.leaf pop), Task.runs_inOrder_singleton_iff]
  constructor
  · rintro ⟨_, ⟨taken, m, acts, htaken, hbody, rfl⟩ | ⟨hv, hmissed⟩, rfl⟩
    · rcases hpop.runs_pop htaken with ⟨-, hfail, -⟩ | ⟨item, rest, hstack, -, hm⟩
      · exact nomatch hfail
      · refine .inl ⟨⟨item, taken, acts, v⟩, ⟨m, htaken, ?_, ?_, hbody⟩, rfl, rfl⟩
        · simp [hstack, hm]
        · simp [hm]
    · rcases hpop.runs_pop hmissed with ⟨hempty, rfl, -⟩ | ⟨_, _, -, hsuccess, -⟩
      · exact .inr ⟨hempty, rfl, _, hmissed, rfl⟩
      · exact absurd hsuccess hv
  · rintro (⟨serving, ⟨m, htaken, -, -, hbody⟩, rfl, rfl⟩ | ⟨-, rfl, missed, hmissed, rfl⟩)
    · exact ⟨_, .inl ⟨_, m, _, htaken, hbody, rfl⟩, rfl⟩
    · exact ⟨_, .inr ⟨by simp, hmissed⟩, rfl⟩

/-- Rounds in which the sequence succeeds are servings with which the body succeeds. -/
theorem rounds_popThen_iff (hpop : Leaf.Performs C note pop (.pop k x)) {n : Nat} :
    Rounds none (.popThen pop body) (List.replicate n .success) s acts u ↔
      ∃ served : List (Serving L T E), InTurn (Serving.Leads pop body k x) served s u ∧
        served.map Serving.verdict = List.replicate n (.ok .success) ∧
        acts = served.flatMap (Serving.round pop body) := by
  induction n generalizing s acts with
  | zero =>
    simp only [List.replicate_zero, Rounds.nil_iff, List.map_eq_nil_iff]
    constructor
    · rintro ⟨rfl, rfl⟩
      exact ⟨[], .nil, rfl, rfl⟩
    · rintro ⟨_, hserved, rfl, rfl⟩
      exact ⟨rfl, InTurn.nil_iff.1 hserved⟩
  | succ n ih =>
    simp only [List.replicate_succ, Rounds.cons_iff, ih]
    constructor
    · rintro ⟨first, m, _, hfirst, ⟨served, hserved, hverdicts, rfl⟩, rfl⟩
      rcases (Node.runs_popThen_iff hpop).1 hfirst.runs with
        ⟨serving, hserving, hverdict, rfl⟩ | ⟨-, hfail, -⟩
      · exact ⟨serving :: served, .cons hserving hserved, by simp [hverdict, hverdicts],
          List.flatMap_cons.symm⟩
      · exact nomatch hfail
    · rintro ⟨_, hserved, hverdicts, rfl⟩
      obtain ⟨serving, served, rfl, hverdict, hverdicts⟩ := List.map_eq_cons_iff.1 hverdicts
      obtain ⟨m, hserving, hserved⟩ := InTurn.cons_iff.1 hserved
      have hfirst := (Node.runs_popThen_iff hpop).2 (.inl ⟨serving, hserving, hverdict, rfl⟩)
      exact ⟨_, m, _, ⟨rfl, hfirst⟩, ⟨served, hserved, hverdicts, rfl⟩, List.flatMap_cons⟩

/-- A repetition without a token is over when its child fails. -/
theorem Decorator.ends_untilFail_of_failure {child : Node L} {n : Nat}
    (h : (Task.node child).Runs u acts (.ok .failure) t) :
    (untilFail none).Ends child n u (acts ++ [.emitted (.untilFailFinished n)]) (.ok .success)
      (t.report (.untilFailFinished n)) := by
  have hround : Round.Leads (untilFail none).watched child ⟨.failure, acts⟩ u t := ⟨rfl, h⟩
  exact .done hround rfl

/-- The loop ends in a round in which no item is left, or in which the body does not succeed. -/
theorem Decorator.ends_popThen_iff (hpop : Leaf.Performs C note pop (.pop k x)) {n : Nat} :
    (untilFail none).Ends (.popThen pop body) n u acts v t ↔
      ∃ last : List (Serving L T E), PopLoop.Ends pop body k x n u last acts v t := by
  constructor
  · intro h
    cases h with
    | cancelled hc => exact nomatch hc
    | done hround hgo =>
      rcases (Node.runs_popThen_iff hpop).1 hround.runs with
        ⟨serving, hserving, hverdict, hacts⟩ | ⟨hempty, -, missed, hmissed, hacts⟩
      · rw [goesOn_untilFail_eq_false.1 hgo] at hverdict
        rw [hacts]
        exact ⟨[serving], .failed hserving hverdict⟩
      · rw [hacts]
        exact ⟨[], .empty hempty hmissed⟩
    | fault _ hn =>
      rcases (Node.runs_popThen_iff hpop).1 hn with
        ⟨serving, hserving, hverdict, rfl⟩ | ⟨-, hfail, -⟩
      · exact ⟨[serving], .fault hserving hverdict⟩
      · exact nomatch hfail
  · rintro ⟨last, h⟩
    cases h with
    | empty hempty hmissed =>
      have hruns : (Task.node (.popThen pop body)).Runs u _ _ _ :=
        (Node.runs_popThen_iff hpop).2 (.inr ⟨hempty, rfl, _, hmissed, rfl⟩)
      exact ends_untilFail_of_failure hruns
    | failed hserving hverdict =>
      exact ends_untilFail_of_failure
        ((Node.runs_popThen_iff hpop).2 (.inl ⟨_, hserving, hverdict, rfl⟩))
    | fault hserving hverdict =>
      exact .fault rfl ((Node.runs_popThen_iff hpop).2 (.inl ⟨_, hserving, hverdict, rfl⟩))

theorem Node.runs_popLoop_iff (hpop : Leaf.Performs C note pop (.pop k x)) :
    (Task.node (popLoop pop body)).Runs s acts v t ↔
      ∃ (servings : List (Serving L T E)) (successes : Nat),
        PopLoop pop body k x servings successes s acts v t := by
  rw [runs_untilFail_iff]
  simp only [rounds_popThen_iff hpop, Decorator.ends_popThen_iff hpop]
  constructor
  · rintro ⟨n, _, u, ending, ⟨served, hserved, hverdicts, rfl⟩, ⟨last, hend⟩, rfl⟩
    exact ⟨_, n, served, last, u, ending, rfl, hserved, hverdicts, hend, rfl⟩
  · rintro ⟨_, n, served, last, u, ending, rfl, hserved, hverdicts, hend, rfl⟩
    exact ⟨n, _, u, ending, ⟨served, hserved, hverdicts, rfl⟩, ⟨last, hend⟩, rfl⟩

/-! ### What a pop loop has served when it ends -/

namespace PopLoop

variable {last servings : List (Serving L T E)} {successes : Nat} {fault : Fault}

/-- The last round is a serving or leaves the world as it is. -/
theorem Ends.inTurn (hpop : Leaf.Performs C note pop (.pop k x))
    (h : Ends pop body k x successes u last acts v t) :
    ∃ m, InTurn (Serving.Leads pop body k x) last u m ∧ m.world = t.world := by
  cases h with
  | empty _ hmissed => exact ⟨u, .nil, (hpop.world_eq_of_failure hmissed).symm⟩
  | failed hserving _ => exact ⟨_, .cons hserving .nil, rfl⟩
  | fault hserving _ => exact ⟨_, .cons hserving .nil, rfl⟩

omit [ToString T] in
theorem Ends.error_iff (h : Ends pop body k x successes u last acts v t) :
    v = .error fault ↔ ∃ serving ∈ last, serving.verdict = .error fault := by
  cases h with
  | empty _ _ => simp
  | failed _ hverdict => simp [hverdict]
  | fault _ hverdict => simp [hverdict]

/-- The servings follow one another, and nothing else changes the world. -/
theorem inTurn (hpop : Leaf.Performs C note pop (.pop k x))
    (h : PopLoop pop body k x servings successes s acts v t) :
    ∃ m, InTurn (Serving.Leads pop body k x) servings s m ∧ m.world = t.world := by
  obtain ⟨served, last, u, ending, rfl, hserved, -, hend, -⟩ := h
  obtain ⟨m, hlast, hworld⟩ := hend.inTurn hpop
  exact ⟨m, InTurn.append_iff.2 ⟨u, hserved, hlast⟩, hworld⟩

omit [ToString T] in
theorem successes_le_length (h : PopLoop pop body k x servings successes s acts v t) :
    successes ≤ servings.length := by
  obtain ⟨served, last, u, ending, rfl, -, hverdicts, -, -⟩ := h
  have hlength : served.length = successes := by simpa using congrArg List.length hverdicts
  simp [hlength]

omit [ToString T] in
theorem verdict_eq (h : PopLoop pop body k x servings successes s acts v t) :
    v = .ok .success ∨ ∃ fault, v = .error fault := by
  obtain ⟨served, last, u, ending, -, -, -, hend, -⟩ := h
  cases hend with
  | empty _ _ => exact .inl rfl
  | failed _ _ => exact .inl rfl
  | fault _ _ => exact .inr ⟨_, rfl⟩

omit [ToString T] in
/-- Only the body returns faults. -/
theorem error_iff (h : PopLoop pop body k x servings successes s acts v t) :
    v = .error fault ↔ ∃ serving ∈ servings, serving.verdict = .error fault := by
  obtain ⟨served, last, u, ending, rfl, -, hverdicts, hend, -⟩ := h
  have hserved : ∀ serving ∈ served, serving.verdict ≠ .error fault := by
    intro serving hmem hfault
    have hsuccess := List.eq_of_mem_replicate (hverdicts ▸ List.mem_map_of_mem hmem)
    exact nomatch hsuccess.symm.trans hfault
  rw [hend.error_iff]
  constructor
  · rintro ⟨serving, hmem, hfault⟩
    exact ⟨serving, List.mem_append_right _ hmem, hfault⟩
  · rintro ⟨serving, hmem, hfault⟩
    rcases List.mem_append.1 hmem with hmem | hmem
    · exact absurd hfault (hserved serving hmem)
    · exact ⟨serving, hmem, hfault⟩

end PopLoop

namespace Node

/-- The sequence returns if its body does. -/
theorem exists_runs_popThen (hpop : Leaf.Performs C note pop (.pop k x))
    (hreturns : ∀ s : Scene L C E, ∃ v t, body.Answers s v t) (s : Scene L C E) :
    ∃ acts v t, (Task.node (popThen pop body)).Runs s acts v t := by
  obtain ⟨v, m, hanswer⟩ := leaf_answers pop s
  obtain ⟨first, hfirst⟩ := answers_iff_exists_runs.1 hanswer
  rcases hpop.runs_pop hfirst with ⟨hempty, rfl, -⟩ | ⟨item, rest, hstack, rfl, hm⟩
  · exact ⟨_, _, m, (runs_popThen_iff hpop).2 (.inr ⟨hempty, rfl, first, hfirst, rfl⟩)⟩
  · obtain ⟨v, t, hbody⟩ := hreturns m
    obtain ⟨acts, hacts⟩ := answers_iff_exists_runs.1 hbody
    have hserving : Serving.Leads pop body k x ⟨item, first, acts, v⟩ s t :=
      ⟨m, hfirst, by simp [hstack, hm], by simp [hm], hacts⟩
    exact ⟨_, v, t, (runs_popThen_iff hpop).2 (.inl ⟨_, hserving, rfl, rfl⟩)⟩

/-- A pop loop returns, because it cannot take more items away than there are. -/
theorem exists_runs_popLoop (hpop : Leaf.Performs C note pop (.pop k x))
    (hreturns : ∀ s : Scene L C E, ∃ v t, body.Answers s v t)
    (hshrinks : ∀ (s t : Scene L C E) v, body.Answers s v t →
      (stack t.world.context k).length ≤ (stack s.world.context k).length) (s : Scene L C E) :
    ∃ acts v t, (Task.node (popLoop pop body)).Runs s acts v t := by
  by_cases h : ∃ v t, (popLoop pop body).Answers s v t
  · obtain ⟨v, t, hanswer⟩ := h
    obtain ⟨acts, hacts⟩ := answers_iff_exists_runs.1 hanswer
    exact ⟨acts, v, t, hacts⟩
  · have hendless : ∀ v t, ¬ (popLoop pop body).Answers s v t := fun v t ht => h ⟨v, t, ht⟩
    rcases untilFail_endless_iff.1 hendless with hall | ⟨n, ticks, u, -, -, hno⟩
    · -- One success more than there are items.
      obtain ⟨ticks, u, hticks⟩ := hall ((stack s.world.context k).length + 1)
      obtain ⟨served, hserved, hverdicts, -⟩ := (rounds_popThen_iff hpop).1 hticks
      have hlength := congrArg List.length hverdicts
      rw [List.length_map, List.length_replicate] at hlength
      have hle := Serving.length_add_length_le hshrinks hserved
      omega
    · obtain ⟨acts, v, t, hruns⟩ := exists_runs_popThen hpop hreturns u
      exact absurd hruns.answers (hno v t)

end Node

/-- A pop loop serves the items of a stack from the top, and ends. Let a leaf take the items, each
from the stack `k` into the slot `x`, and let the body always return and never leave more items
than it found. Then the loop returns, after no more rounds than there are items at the start and one
more. It returns the fault of the body if the body returns one, and success otherwise. In each round
but one without an item, the body is ticked once and the slot holds the item. After the first item
with which the body does not succeed there is no other. If the body leaves the stack alone, then the
items are those of the stack from its top, and the stack ends without them. The rounds are those of
the course of the loop: a node, be it the loop, the leaf or the body, returns exactly what it has a
course for. -/
theorem pop_loop_serves_from_top (hpop : Leaf.Performs C note pop (.pop k x))
    (hreturns : ∀ s : Scene L C E, ∃ v t, body.Answers s v t)
    (hshrinks : ∀ (s t : Scene L C E) v, body.Answers s v t →
      (stack t.world.context k).length ≤ (stack s.world.context k).length) (s : Scene L C E) :
    (∀ (node : Node L) (s t : Scene L C E) v,
      node.Answers s v t ↔ ∃ acts, (Task.node node).Runs s acts v t) ∧
    ∃ (servings : List (Serving L T E)) (successes : Nat) (acts : List (Act L E)) (v : Verdict)
      (t : Scene L C E),
      (Node.popLoop pop body).Answers s v t ∧
      (Task.node (.popLoop pop body)).Runs s acts v t ∧
      PopLoop pop body k x servings successes s acts v t ∧
      successes + 1 ≤ (stack s.world.context k).length + 1 ∧
      (v = .ok .success ∨ ∃ fault, v = .error fault) ∧
      (∀ fault, v = .error fault ↔ ∃ serving ∈ servings, serving.verdict = .error fault) ∧
      ((∀ (s t : Scene L C E) v, body.Answers s v t →
          stack t.world.context k = stack s.world.context k) →
        stack s.world.context k = servings.map Serving.item ++ stack t.world.context k) := by
  obtain ⟨acts, v, t, hruns⟩ := Node.exists_runs_popLoop hpop hreturns hshrinks s
  obtain ⟨servings, successes, h⟩ := (Node.runs_popLoop_iff hpop).1 hruns
  obtain ⟨m, hservings, hworld⟩ := h.inTurn hpop
  refine ⟨fun _ _ _ _ => Node.answers_iff_exists_runs, servings, successes, acts, v, t,
    hruns.answers, hruns, h, ?_, h.verdict_eq, fun _ => h.error_iff, ?_⟩
  · have hle := Serving.length_add_length_le hshrinks hservings
    have hsuccesses := h.successes_le_length
    omega
  · intro hkeeps
    rw [← hworld]
    exact Serving.stack_eq_append hkeeps hservings

end

/-- A scripted leaf that tests a slot leaves the stacks alone. -/
theorem BenchLeaf.stack_is (name : String) (slot : Board.SlotName) (value : Option String)
    (w : World Workbench) (k : Board.StackName) :
    let reply : Reply Workbench Transfer := Leaf.tick (scripted name (.is slot value)) w
    stack reply.world.context k = stack w.context k := by
  obtain ⟨⟨board, allowance, trace, ticks⟩, flags, g⟩ := w
  cases allowance <;> rfl

/-- The body succeeds with the first item and fails with the second, so the third one stays. -/
theorem pop_loop_serves_from_top_two_of_three :
    let pop : BenchLeaf := .primitive (.pop .alpha .x)
    let body : Node BenchLeaf := .leaf (.scripted "is a" (.is .x (some "a")))
    let board : Board := { Board.blank with alpha := ["a", "b", "c"] }
    let start : Scene BenchLeaf Workbench Transfer :=
      .start ⟨⟨board, 8, #[], #[]⟩, .clear, .ofSeed 0⟩
    ∃ servings successes acts t,
      (Node.popLoop pop body).Answers start (.ok .success) t ∧
      (Task.node (.popLoop pop body)).Runs start acts (.ok .success) t ∧
      PopLoop pop body .alpha .x servings successes start acts (.ok .success) t ∧
      servings.map Serving.item = ["a", "b"] ∧
      t.world.context.board = { Board.blank with alpha := ["c"], x := some "b" } ∧
      t.events = [.note (.trying "a" "alpha" "x"), .note (.trying "b" "alpha" "x"),
        .untilFailFinished 1] := by
  intro pop body board start
  have hkeeps (s t : Scene BenchLeaf Workbench Transfer) (v : Verdict) (h : body.Answers s v t) :
      stack t.world.context Board.StackName.alpha = stack s.world.context .alpha := by
    obtain ⟨limit, h⟩ := h
    obtain ⟨-, rfl⟩ := Prod.mk.inj (Option.some.inj ((Behavior.leaf_eq _ s).symm.trans h))
    exact BenchLeaf.stack_is ..
  obtain ⟨-, servings, successes, acts, v, t, hanswer, hruns, hloop, -, -, -, hstack⟩ :=
    pop_loop_serves_from_top (BenchLeaf.performs_primitive (.pop .alpha .x)) (Node.leaf_answers _)
      (fun s t v h => Nat.le_of_eq (congrArg List.length (hkeeps s t v h))) start
  have hrun : ((Task.node (.popLoop pop body)).behavior 2 start).map
      (fun (v, t) => (v, t.world.context.board, t.events)) =
      some (.ok .success, { Board.blank with alpha := ["c"], x := some "b" },
        [.note (.trying "a" "alpha" "x"), .note (.trying "b" "alpha" "x"),
          .untilFailFinished 1]) := by
    decide +kernel
  obtain ⟨⟨v', t'⟩, hv, hshown⟩ := Option.map_eq_some_iff.1 hrun
  obtain ⟨rfl, rfl⟩ := hanswer.unique ⟨2, hv⟩
  obtain ⟨rfl, hstate⟩ := Prod.mk.inj hshown
  obtain ⟨hboard, hevents⟩ := Prod.mk.inj hstate
  refine ⟨servings, successes, acts, t, hanswer, hruns, hloop, ?_, hboard, hevents⟩
  have hitems : ["a", "b"] ++ ["c"] =
      servings.map Serving.item ++ t.world.context.board.alpha := hstack hkeeps
  rw [hboard] at hitems
  exact (List.append_cancel_right hitems).symm

end TickTree
