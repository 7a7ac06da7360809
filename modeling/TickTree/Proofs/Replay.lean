import TickTree.Proofs.Fault

/-!
# Only leaves move the world

Composites and decorators decide which node is ticked next and which status is passed on. The
world is left to others: a leaf changes it when it is ticked, and a random selector takes an order
from the random source when it is entered. So the world at the end of an evaluation is what these
moves make of the world at the start, one after the other, whatever the nodes around them are and
however the evaluation ends. The same holds on the way. Each leaf acts on the world that the moves
before it left, and so finds all that the leaves before it wrote.

## Main definitions

* `Move`, `Move.runAll`: what changes the world, and what becomes of it
* `Act.moves`: the moves among the acts of an evaluation
* `Act.Replays`: a stretch of an evaluation that its moves account for
* `Leaf.IgnoresChance`: leaves that make no use of the random source
* `OnlyLeavesMove`: what the moves say about a whole evaluation

## Main results

* `Task.Runs.replays`: the moves of a task account for what it does to the world
* `Task.Reaches.replays`: so do the moves before a task that is started on the way
* `Move.agrees_runAll`: leaves that ignore chance account for the context and the tokens alone
* `only_leaves_move`: the law for the evaluation of nodes and trees
-/

namespace TickTree

variable {L C E : Type}

/-! ### Moves -/

/-- Something that changes the world. -/
inductive Move (L : Type)
  /-- A leaf is ticked. -/
  | tick (leaf : L)
  /-- An order of so many children is drawn. -/
  | shuffle (count : Nat)

namespace Move

/-- The leaf that a move ticks. -/
def leaf? : Move L → Option L
  | tick l => some l
  | shuffle _ => none

variable [Leaf L C E]

/-- What becomes of the world by a move. -/
def run (w : World C) : Move L → World C
  | tick l => (Leaf.tick l w : Reply C E).world
  | shuffle count => { w with generator := (w.generator.shuffle count).2 }

/-- What becomes of the world by moves, one after the other. -/
def runAll (w : World C) (moves : List (Move L)) : World C := moves.foldl run w

@[simp] theorem runAll_nil (w : World C) : runAll w ([] : List (Move L)) = w := rfl

theorem runAll_append (w : World C) (moves more : List (Move L)) :
    runAll w (moves ++ more) = runAll (runAll w moves) more := List.foldl_append

end Move

/-- The move that an entry of the history records. -/
def Occurrence.move? : Occurrence L E → Option (Move L)
  | .leaf l _ => some (.tick l)
  | .shuffled count => some (.shuffle count)
  | _ => none

theorem Occurrence.move?_bind_leaf? (o : Occurrence L E) :
    o.move?.bind Move.leaf? = o.leafTick?.map Prod.fst := by
  cases o <;> rfl

namespace Act

/-- The move of an act. A leaf moves the world when it is ticked, and a random selector when it is
entered. -/
def move? : Act L E → Option (Move L)
  | acted l _ => some (.tick l)
  | entered (.composite .randomSelector children) => some (.shuffle children.length)
  | _ => none

/-- The moves among acts, in order. -/
def moves (acts : List (Act L E)) : List (Move L) := acts.filterMap move?

theorem moves_append (acts rest : List (Act L E)) :
    moves (acts ++ rest) = moves acts ++ moves rest := List.filterMap_append

/-- An act is quiet if it is no move and is not recorded as one. -/
def Quiet (a : Act L E) : Prop := a.move? = none ∧ a.entry?.bind Occurrence.move? = none

theorem quiet_emitted (e : Event E) : Quiet (.emitted e : Act L E) := ⟨rfl, rfl⟩

theorem quiet_raised (n : Node L) (fault : Fault) : Quiet (.raised n fault : Act L E) := by
  cases n <;> exact ⟨rfl, rfl⟩

/-- A node that hands its work to a task leaves the world to this task. -/
theorem quiet_entered {n : Node L} {task : Task L} {f : Status → Status}
    (h : n.delegate? = some (task, f)) : Quiet (.entered n : Act L E) := by
  refine ⟨?_, rfl⟩
  cases n with
  | composite kind children =>
    cases kind with
    | sequence => rfl
    | selector => rfl
    | randomSelector => exact nomatch h
  | _ => rfl

end Act

/-! ### Stretches of an evaluation -/

variable [Leaf L C E]

/-- The moves among the acts account for what these do to the world: they lead from the one world
to the other, they are the moves that the history records, and each leaf returns what it returns
in the world that the moves before it left. -/
structure Act.Replays (w : World C) (acts : List (Act L E)) (u : World C) : Prop where
  world : u = Move.runAll w (moves acts)
  recorded : (acts.filterMap entry?).filterMap Occurrence.move? = moves acts
  seen : ∀ before l v after, acts = before ++ .acted l v :: after →
    (Leaf.tick l (Move.runAll w (moves before)) : Reply C E).verdict = v

namespace Act.Replays

variable {w u x : World C} {acts rest : List (Act L E)}

theorem refl (w : World C) : Replays w ([] : List (Act L E)) w where
  world := rfl
  recorded := rfl
  seen before l v after h := by simp at h

theorem trans (h : Replays w acts u) (h' : Replays u rest x) : Replays w (acts ++ rest) x where
  world := by rw [moves_append, Move.runAll_append, ← h.world, h'.world]
  recorded := by
    rw [List.filterMap_append, List.filterMap_append, h.recorded, h'.recorded, moves_append]
  seen := by
    intro before l v after hacts
    rcases append_eq_append_cons hacts with ⟨after', hsplit⟩ | ⟨before', rfl, hsplit⟩
    · exact h.seen before l v after' hsplit
    · -- The leaf is ticked in the second stretch, after all moves of the first.
      have hv := h'.seen before' l v after hsplit
      rw [h.world, ← Move.runAll_append, ← moves_append] at hv
      exact hv

theorem quiet {a : Act L E} (h : a.Quiet) (w : World C) : Replays w [a] w where
  world := by simp [moves, h.1]
  recorded := by
    obtain ⟨hmove, hentry⟩ := h
    cases he : a.entry? with
    | none => simp [moves, he, hmove]
    | some o =>
      rw [he, Option.bind_some] at hentry
      simp [moves, he, hmove, hentry]
  seen := by
    intro before l v after hacts
    rcases cons_eq_append_cons hacts with ⟨-, rfl⟩ | ⟨before', -, hnil⟩
    · exact nomatch h.1
    · simp at hnil

theorem quietAll (h : ∀ a ∈ acts, a.Quiet) (w : World C) : Replays w acts w := by
  induction acts with
  | nil => exact refl w
  | cons a acts ih =>
    have ha := quiet (h a (List.mem_cons_self ..)) w
    exact ha.trans (ih fun b hb => h b (List.mem_cons_of_mem _ hb))

theorem emit (h : Replays w acts u) (e : Event E) : Replays w (acts ++ [.emitted e]) u :=
  h.trans (quiet (quiet_emitted e) u)

theorem acted (l : L) (w : World C) :
    Replays w ([.acted l (Leaf.tick l w : Reply C E).verdict] : List (Act L E))
      (Leaf.tick l w : Reply C E).world where
  world := rfl
  recorded := rfl
  seen := by
    intro before m v after hacts
    rcases cons_eq_append_cons hacts with ⟨rfl, hm⟩ | ⟨before', -, hnil⟩
    · obtain ⟨rfl, rfl⟩ := Act.acted.inj hm
      rfl
    · simp at hnil

/-- The order of a random selector is drawn where the selector is entered. -/
theorem shuffled (children : List (Node L)) (s : Scene L C E) :
    Replays s.world ([.entered (.composite .randomSelector children), .drew children.length] :
      List (Act L E)) (s.shuffled children.length).world where
  world := rfl
  recorded := rfl
  seen := by
    intro before l v after hacts
    have hmem := congrArg (Act.acted l v ∈ ·) hacts
    simp at hmem

/-- What a leaf reports, and a fault that it returns, leave the world alone. -/
theorem leaf (l : L) {s t : Scene L C E} {v : Verdict} (h : Behavior.leaf l s = some (v, t)) :
    Replays s.world (.entered (.leaf l) ::
      ((Leaf.tick l s.world : Reply C E).notes.map fun what => .emitted (.note what)) ++
        .acted l v :: (Node.leaf l).raising v) t.world := by
  rw [Behavior.leaf_eq] at h
  obtain ⟨rfl, rfl⟩ := Prod.mk.inj (Option.some.inj h)
  have hreport : Replays s.world (.entered (.leaf l) ::
      (Leaf.tick l s.world : Reply C E).notes.map fun what => .emitted (.note what)) s.world := by
    refine quietAll (fun a ha => ?_) s.world
    rcases List.mem_cons.1 ha with rfl | ha
    · exact ⟨rfl, rfl⟩
    · obtain ⟨what, -, rfl⟩ := List.mem_map.1 ha
      exact quiet_emitted _
  have hfault (v : Verdict) (w : World C) :
      Replays w ((Node.leaf l).raising v : List (Act L E)) w := by
    cases v with
    | ok status => exact refl w
    | error fault => exact quiet (quiet_raised _ _) w
  exact hreport.trans ((acted l s.world).trans (hfault _ _))

end Act.Replays

/-! ### Whole evaluations -/

namespace Task

variable {task task' : Task L} {s s' t : Scene L C E} {acts : List (Act L E)} {v : Verdict}

/-- The moves of a task account for what it does to the world. -/
theorem Runs.replays (h : task.Runs s acts v t) : Act.Replays s.world acts t.world := by
  -- One case for each rule; only the leaf and the random selector contribute moves of their own.
  induction h with
  | leaf h => exact Act.Replays.leaf _ h
  | @unbound d s =>
    exact .trans (.quiet ⟨rfl, rfl⟩ s.world) (.quiet (Act.quiet_raised _ _) s.world)
  | delegated hn _ ih => exact (Act.Replays.quiet (Act.quiet_entered hn) _).trans ih
  | shuffled _ ih => exact (Act.Replays.shuffled _ _).trans ih
  | inOrderNil => exact .refl _
  | inOrderNext _ _ ih ih' => exact ih.trans ih'
  | inOrderStop _ _ ih => exact ih
  | againNil => exact .refl _
  | againNext _ _ ih ih' => exact ih.trans ih'
  | againFault _ ih => exact ih
  | @loopCancelled d child ticks token s _ _ =>
    exact .trans (.quiet (Act.quiet_emitted _) s.world) (.quiet (Act.quiet_raised _ _) s.world)
  | loopNext _ _ _ _ ih ih' => exact ih.trans ih'
  | loopDone _ _ _ ih => exact ih.emit _
  | loopFault _ _ ih => exact ih
  | treeDone _ ih => exact ih.emit _
  | treeFault _ ih => exact ih

theorem Calls.replays (h : Calls task s acts task' s') : Act.Replays s.world acts s'.world := by
  cases h with
  | delegated hn => exact .quiet (Act.quiet_entered hn) _
  | shuffled => exact .shuffled _ _
  | inOrderHead => exact .refl _
  | inOrderTail hn => exact hn.replays
  | againHead => exact .refl _
  | againTail hn => exact hn.replays
  | loopHead _ => exact .refl _
  | loopTail _ _ hn => exact hn.replays
  | root => exact .refl _

/-- The moves before a task that is started on the way account for the world in which it starts. -/
theorem Reaches.replays (h : Reaches task s acts task' s') :
    Act.Replays s.world acts s'.world := by
  induction h with
  | refl => exact .refl _
  | step hcall _ ih => exact hcall.replays.trans ih

end Task

/-! ### Leaves without chance -/

/-- Two worlds have the same context and the same tokens. -/
structure World.Agrees (w w' : World C) : Prop where
  context : w.context = w'.context
  flags : w.flags = w'.flags

theorem World.Agrees.refl (w : World C) : w.Agrees w := ⟨rfl, rfl⟩

/-- A leaf makes no use of the random source for what it does to the context and the tokens. -/
def Leaf.IgnoresChance (C : Type) {E : Type} [Leaf L C E] (l : L) : Prop :=
  ∀ w w' : World C, w.Agrees w' →
    (Leaf.tick l w : Reply C E).world.Agrees (Leaf.tick l w' : Reply C E).world

/-- Shuffles do not reach the context and the tokens, unless a leaf makes use of chance. -/
theorem Move.agrees_runAll {moves : List (Move L)}
    (h : ∀ l ∈ moves.filterMap leaf?, Leaf.IgnoresChance C l) {w w' : World C} (hw : w.Agrees w') :
    (runAll w moves).Agrees (runAll w' ((moves.filterMap leaf?).map .tick)) := by
  induction moves generalizing w w' with
  | nil => exact hw
  | cons move moves ih =>
    cases move with
    | tick l =>
      have hl := h l (List.mem_cons_self ..)
      exact ih (fun m hm => h m (List.mem_cons_of_mem _ hm)) (hl w w' hw)
    | shuffle count => exact ih h ⟨hw.context, hw.flags⟩

/-! ### The law -/

/-- What the moves say about an evaluation that starts in the world `w` and leaves the scene `t`. -/
structure OnlyLeavesMove (task : Task L) (w : World C) (acts : List (Act L E)) (t : Scene L C E) :
    Prop where
  /-- The world at the end is what the moves make of the world at the start. -/
  world : t.world = Move.runAll w (Act.moves acts)
  /-- The moves are those that the history records. -/
  recorded : t.history.toList.filterMap Occurrence.move? = Act.moves acts
  /-- Apart from shuffles, the moves are the ticks of leaves. -/
  ticked : (Act.moves acts).filterMap Move.leaf? = t.leafTicks.map Prod.fst
  /-- Each leaf acts on the world that the moves before it left. -/
  seen : ∀ before l v after, acts = before ++ .acted l v :: after →
    (Leaf.tick l (Move.runAll w (Act.moves before)) : Reply C E).verdict = v
  /-- Each node is entered in the world that the moves before it left. -/
  entered : ∀ before n after, acts = before ++ .entered n :: after →
    ∃ s, task.Reaches (.start w) before (.node n) s ∧ s.world = Move.runAll w (Act.moves before)
  /-- If the leaves ignore chance, they alone account for the context and the tokens. -/
  unshuffled : (∀ l ∈ t.leafTicks.map Prod.fst, Leaf.IgnoresChance C l) →
    t.world.Agrees (Move.runAll w ((t.leafTicks.map Prod.fst).map .tick))

theorem Task.Runs.onlyLeavesMove {task : Task L} {w : World C} {acts : List (Act L E)} {v : Verdict}
    {t : Scene L C E} (h : task.Runs (.start w) acts v t) : OnlyLeavesMove task w acts t := by
  have hworld : t.world = Move.runAll w (Act.moves acts) := h.replays.world
  have hrecorded : t.history.toList.filterMap Occurrence.move? = Act.moves acts := by
    rw [← h.replays.recorded, h.leads.history]
    rfl
  have hticked : (Act.moves acts).filterMap Move.leaf? = t.leafTicks.map Prod.fst := by
    rw [← hrecorded, List.filterMap_filterMap, Scene.leafTicks_eq, List.map_filterMap]
    exact congrArg (List.filterMap · _) (funext Occurrence.move?_bind_leaf?)
  refine ⟨hworld, hrecorded, hticked, h.replays.seen, ?_, ?_⟩
  · intro before n after hacts
    obtain ⟨s, hs⟩ := h.reaches hacts
    exact ⟨s, hs, hs.replays.world⟩
  · intro hchance
    rw [← hticked] at hchance ⊢
    rw [hworld]
    exact Move.agrees_runAll hchance (.refl w)

/-- Composites and decorators only pass on what their parts return. When a node is ticked or a tree
is evaluated and returns, with a status or a fault, there is a course that leads to this answer,
and in every such course the moves account for the world at the end and on the way: the leaves that
were ticked, in this order, with a shuffle where a random selector was entered. -/
theorem only_leaves_move (task : Task L) (w : World C) {v : Verdict} {t : Scene L C E}
    (h : task.Answers (.start w) v t) :
    (∃ acts, task.Runs (.start w) acts v t) ∧
      ∀ acts, task.Runs (.start w) acts v t → OnlyLeavesMove task w acts t :=
  ⟨Task.exists_runs_iff.2 h, fun _ hacts => hacts.onlyLeavesMove⟩

/-- A random selector between a leaf that writes and a leaf that rolls. -/
def Workbench.writesAndRolls : Node BenchLeaf :=
  let isSet (name : String) : Node BenchLeaf := .leaf (.scripted name (.is .x (some "1")))
  .composite .sequence [.leaf (.scripted "put" (.put .x (some "1"))),
    .composite .randomSelector [isSet "first", .decorator .inverter (isSet "second")],
    .leaf (.scripted "roll" (.roll 100))]

/-- The random selector begins with its second child. Both children find what was written before,
and the roll reads the word that follows the one of the shuffle. -/
theorem only_leaves_move_writesAndRolls :
    let task := Task.node Workbench.writesAndRolls
    let start := { Workbench.fresh with generator := .ofSeed 2 }
    ∃ v t acts, task.Answers (.start start) v t ∧ task.Runs (.start start) acts v t ∧
      OnlyLeavesMove task start acts t ∧
      (Act.moves acts).map (fun move => move.leaf?.isSome) = [true, false, true, true, true] ∧
      t.world.context.trace = #["put", "second", "first", "roll=29"] ∧
      t.world.generator.consumed = 2 := by
  intro task start
  -- The kernel carries out the evaluation, with a draw for the shuffle and one for the roll.
  have hrun : (task.behavior 0 (.start start)).map (fun (_, t) =>
      ((t.history.toList.filterMap Occurrence.move?).map (fun move => move.leaf?.isSome),
        t.world.context.trace, t.world.generator.consumed)) =
      some ([true, false, true, true, true], #["put", "second", "first", "roll=29"], 2) := by
    decide +kernel
  obtain ⟨⟨v, t⟩, hv, hshown⟩ := Option.map_eq_some_iff.1 hrun
  simp only [Prod.mk.injEq] at hshown
  obtain ⟨hmoves, htrace, hwords⟩ := hshown
  have hanswers : task.Answers (.start start) v t := ⟨0, hv⟩
  obtain ⟨⟨acts, hacts⟩, hall⟩ := only_leaves_move task start hanswers
  have hlaw := hall acts hacts
  rw [hlaw.recorded] at hmoves
  exact ⟨v, t, acts, hanswers, hacts, hlaw, hmoves, htrace, hwords⟩

end TickTree
