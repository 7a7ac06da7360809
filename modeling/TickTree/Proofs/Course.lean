import TickTree.Proofs.Answer

/-!
# The course of an evaluation

What an evaluation does, one act after the other: it activates nodes, ticks leaves, draws orders,
emits events, and a node may produce a fault. The rules below say which acts belong to the
evaluation of a node, without limits and without the functions that carry it out. They are the
rules of those functions: a node answers exactly if there is a course that leads to the answer.

A course is recorded in full, also where it leaves no trace in the scene, as the activation of an
empty composite does. That nothing happens after a fault can therefore be read off a course.

## Main definitions

* `Act`: one thing that happens
* `Task`: what is left to do, from a whole tree down to the rest of a loop
* `Task.Runs`, `Task.Answers`: the course of a task and its answer, as a relation and in limits
* `Act.Leads`: what the acts make of a scene

## Main results

* `Task.exists_runs_iff`, `Node.answers_iff_exists_runs`: the rules describe the functions
* `Task.Runs.unique`: a task has at most one course
* `Task.Runs.leads`: the acts say what enters the history and what becomes of the world
* `Task.Runs.exists_of_world_eq`: a course does not depend on the history
-/

namespace TickTree

/-- One thing that happens in the course of an evaluation. -/
inductive Act (L E : Type)
  /-- A node is activated. -/
  | entered (node : Node L)
  /-- An order of so many children is drawn. -/
  | drew (count : Nat)
  /-- A leaf has been ticked and returned a verdict. -/
  | acted (leaf : L) (verdict : Verdict)
  /-- An event is emitted. -/
  | emitted (event : Event E)
  /-- An activated node produces a fault of its own. -/
  | raised (node : Node L) (fault : Fault)

/-- What is left to do in an evaluation. -/
inductive Task (L : Type)
  /-- Tick a node. -/
  | node (node : Node L)
  /-- Tick nodes in order while they return the status `goOn`. -/
  | inOrder (goOn : Status) (nodes : List (Node L))
  /-- Tick a node so many times, after it returned `last`. -/
  | again (child : Node L) (left : Nat) (last : Status)
  /-- Go on with a loop after so many ticks of its child. -/
  | loop (kind : Decorator) (child : Node L) (ticks : Nat)
  /-- Evaluate a whole tree. -/
  | tree (tree : Tree L)

variable {L C E : Type}

/-- The task that a node hands its work to, and what it makes of a status. A leaf and an unbound
decorator do their own work, and a random selector draws first. -/
def Node.delegate? : Node L → Option (Task L × (Status → Status))
  | .composite .sequence children => some (.inOrder .success children, id)
  | .composite .selector children => some (.inOrder .failure children, id)
  | .decorator .root child => some (.node child, id)
  | .decorator .inverter child => some (.node child, Status.invert)
  | .decorator .succeeder child => some (.node child, fun _ => .success)
  | .decorator .failer child => some (.node child, fun _ => .failure)
  | .decorator (.times count) child => some (.again child count.val .failure, id)
  | .decorator (.forever token) child => some (.loop (.forever token) child 0, id)
  | .decorator (.untilFail token) child => some (.loop (.untilFail token) child 0, id)
  | .boxed node => some (.node node, id)
  | _ => none

/-- The nodes whose parts a task may activate. -/
def Task.nodes : Task L → List (Node L)
  | .node n => [n]
  | .inOrder _ nodes => nodes
  | .again child _ _ => [child]
  | .loop kind child _ => [.decorator kind child]
  | .tree t => [t.root]

/-- A part of some of these nodes. -/
def PartOf (part : Node L) (nodes : List (Node L)) : Prop := ∃ n ∈ nodes, part.Within n

/-- The fault of a verdict, as an act of a node. -/
def Node.raising (node : Node L) : Verdict → List (Act L E)
  | .ok _ => []
  | .error fault => [.raised node fault]

/-- The scene after an order of `n` children was drawn. -/
def Scene.shuffled (s : Scene L C E) (n : Nat) : Scene L C E :=
  ({ s with world := { s.world with generator := (s.world.generator.shuffle n).2 } } :
    Scene L C E).log (.shuffled n)

namespace Task

variable [Leaf L C E]

/-- The acts of a task, its verdict and the scene that it leaves. -/
inductive Runs : Task L → Scene L C E → List (Act L E) → Verdict → Scene L C E → Prop
  -- A leaf emits what it reports, and returns.
  | leaf {l s v t} : Behavior.leaf l s = some (v, t) →
      Runs (.node (.leaf l)) s (.entered (.leaf l) ::
        ((Leaf.tick l s.world : Reply C E).notes.map fun what => .emitted (.note what)) ++
          .acted l v :: (Node.leaf l).raising v) v t
  -- A decorator without a child produces a fault that names it.
  | unbound {d s} : Runs (.node (.unbound d)) s
      [.entered (.unbound d), .raised (.unbound d) (.missingChild d.name)]
      (.error (.missingChild d.name)) (s.log (.unbound d))
  -- A node hands its work to a task and changes at most the status.
  | delegated {node task f s acts v t} : node.delegate? = some (task, f) →
      Runs task s acts v t → Runs (.node node) s (.entered node :: acts) (v.map f) t
  -- A random selector draws an order before it ticks any child.
  | shuffled {children s acts v t} :
      Runs (.inOrder .failure ((s.world.generator.shuffle children.length).1.filterMap
        (children[·]?))) (s.shuffled children.length) acts v t →
      Runs (.node (.composite .randomSelector children)) s
        (.entered (.composite .randomSelector children) :: .drew children.length :: acts) v t
  -- No node is left.
  | inOrderNil {goOn s} : Runs (.inOrder goOn []) s [] (.ok goOn) s
  -- A node returns the status with which the others follow.
  | inOrderNext {goOn node nodes s u t acts rest v} : Runs (.node node) s acts (.ok goOn) u →
      Runs (.inOrder goOn nodes) u rest v t →
      Runs (.inOrder goOn (node :: nodes)) s (acts ++ rest) v t
  -- A node returns something else, and that is it.
  | inOrderStop {goOn node nodes s t acts v} : v ≠ .ok goOn → Runs (.node node) s acts v t →
      Runs (.inOrder goOn (node :: nodes)) s acts v t
  -- The last status is the answer.
  | againNil {child last s} : Runs (.again child 0 last) s [] (.ok last) s
  -- One more tick.
  | againNext {child n last status s u t acts rest v} : Runs (.node child) s acts (.ok status) u →
      Runs (.again child n status) u rest v t →
      Runs (.again child (n + 1) last) s (acts ++ rest) v t
  -- A fault ends the repetition.
  | againFault {child n last s t acts fault} : Runs (.node child) s acts (.error fault) t →
      Runs (.again child (n + 1) last) s acts (.error fault) t
  -- A loop sees its token, warns and produces a fault.
  | loopCancelled {d child ticks token s} : d.watched = some token →
      s.world.flags.isCancelled token = true →
      Runs (.loop d child ticks) s
        [.emitted (d.warning ticks), .raised (.decorator d child) (.cancelled d.name)]
        (.error (.cancelled d.name)) (s.report (d.warning ticks))
  -- The child returns a status with which the loop goes on.
  | loopNext {d child ticks status s u t acts rest v} :
      d.watched.any s.world.flags.isCancelled = false → d.goesOn status = true →
      Runs (.node child) s acts (.ok status) u → Runs (.loop d child (ticks + 1)) u rest v t →
      Runs (.loop d child ticks) s (acts ++ rest) v t
  -- The child returns a status with which the loop succeeds.
  | loopDone {d child ticks status s u acts} :
      d.watched.any s.world.flags.isCancelled = false → d.goesOn status = false →
      Runs (.node child) s acts (.ok status) u →
      Runs (.loop d child ticks) s (acts ++ [.emitted (.untilFailFinished ticks)])
        (.ok .success) (u.report (.untilFailFinished ticks))
  -- A fault of the child ends the loop.
  | loopFault {d child ticks s t acts fault} :
      d.watched.any s.world.flags.isCancelled = false → Runs (.node child) s acts (.error fault) t →
      Runs (.loop d child ticks) s acts (.error fault) t
  -- A tree reports its status.
  | treeDone {tree s u acts status} : Runs (.node tree.root) s acts (.ok status) u →
      Runs (.tree tree) s (acts ++ [.emitted (.evaluated status)]) (.ok status)
        (u.report (.evaluated status))
  -- A tree does not report a fault.
  | treeFault {tree s t acts fault} : Runs (.node tree.root) s acts (.error fault) t →
      Runs (.tree tree) s acts (.error fault) t

/-- Carrying out a task, where every loop without a bound has the same limit. -/
def behavior (limit : Nat) : Task L → Behavior L C E
  | .node n => n.tick limit
  | .inOrder goOn nodes => Behavior.inOrder goOn (nodes.map (Node.tick limit))
  | .again child left last => Behavior.repeated (child.tick limit) left last
  | .loop kind child ticks => Behavior.loop kind (child.tick limit) limit ticks
  | .tree t => t.run limit

/-- A task answers with a verdict and a scene if some limit suffices for it. For a node or a tree,
this is its answer. -/
def Answers (task : Task L) (s : Scene L C E) (v : Verdict) (t : Scene L C E) : Prop :=
  ∃ limit, task.behavior limit s = some (v, t)

theorem answers_node {n : Node L} {s t : Scene L C E} {v : Verdict} :
    (Task.node n).Answers s v t ↔ n.Answers s v t := .rfl

end Task

/-! ### The rules describe the functions -/

namespace Behavior

theorem revise_id (b : Behavior L C E) : revise id b = b := by
  funext s
  rw [revise]
  rcases b s with _ | ⟨_ | _, u⟩ <;> rfl

theorem revise_eq_some_iff {f : Status → Status} {b : Behavior L C E} {s t : Scene L C E}
    {v : Verdict} : revise f b s = some (v, t) ↔ ∃ v', b s = some (v', t) ∧ v = v'.map f := by
  rw [revise]
  rcases b s with _ | ⟨_ | status, u⟩
  · simp
  · constructor
    · intro h
      obtain ⟨rfl, rfl⟩ := Prod.mk.inj (Option.some.inj h)
      exact ⟨_, rfl, rfl⟩
    · rintro ⟨v', h, rfl⟩
      obtain ⟨rfl, rfl⟩ := Prod.mk.inj (Option.some.inj h)
      rfl
  · constructor
    · intro h
      obtain ⟨rfl, rfl⟩ := Prod.mk.inj (Option.some.inj h)
      exact ⟨_, rfl, rfl⟩
    · rintro ⟨v', h, rfl⟩
      obtain ⟨rfl, rfl⟩ := Prod.mk.inj (Option.some.inj h)
      rfl

end Behavior

variable [Leaf L C E]

/-- A relation that respects the steps of a task's parts relates the ways to carry out the task. -/
theorem Behavior.Closed.task {R : Behavior L C E → Behavior L C E → Prop} {parts : Node L → Prop}
    (h : Closed R parts) {task : Task L} (hp : ∀ part, PartOf part task.nodes → parts part)
    {limit limit' : Nat} (hl : limit ≤ limit') :
    R (task.behavior limit) (task.behavior limit') := by
  have hnode {n : Node L} (hn : n ∈ task.nodes) : R (n.tick limit) (n.tick limit') :=
    h.tick (fun part hpart => hp part ⟨n, hn, hpart⟩) hl
  cases task with
  | node n => exact hnode (List.mem_singleton.2 rfl)
  | inOrder goOn nodes => exact h.inOrder goOn fun n hn => hnode hn
  | again child left last => exact h.repeated (hnode (List.mem_singleton.2 rfl)) left last
  | loop kind child ticks =>
    have hchild : R (child.tick limit) (child.tick limit') :=
      h.tick (fun part hpart => hp part ⟨_, List.mem_singleton.2 rfl, .bound hpart⟩) hl
    exact h.loop (hp _ ⟨_, List.mem_singleton.2 rfl, .self⟩) hchild hl ticks
  | tree t => exact h.run (fun part hpart => hp part ⟨_, List.mem_singleton.2 rfl, hpart⟩) hl

theorem Task.behavior_mono {task : Task L} {limit limit' : Nat} (hl : limit ≤ limit')
    {s : Scene L C E} {a : Verdict × Scene L C E} (h : task.behavior limit s = some a) :
    task.behavior limit' s = some a :=
  Behavior.refines_closed.task (fun _ _ => trivial) hl s a h

/-- Ticking a node is carrying out the task that it hands its work to. -/
theorem Node.tick_eq_of_delegate? {node : Node L} {task : Task L} {f : Status → Status}
    (h : node.delegate? = some (task, f)) (limit : Nat) :
    (node.tick limit : Behavior L C E) = Behavior.revise f (task.behavior limit) := by
  cases node with
  | leaf l => simp [Node.delegate?] at h
  | composite kind children =>
    cases kind with
    | sequence =>
      obtain ⟨rfl, rfl⟩ := Prod.mk.inj (Option.some.inj h)
      rw [Behavior.revise_id, Node.tick, Node.tickAll_eq_map]
      exact Behavior.sequence_eq_inOrder _
    | selector =>
      obtain ⟨rfl, rfl⟩ := Prod.mk.inj (Option.some.inj h)
      rw [Behavior.revise_id, Node.tick, Node.tickAll_eq_map]
      exact Behavior.selector_eq_inOrder _
    | randomSelector => simp [Node.delegate?] at h
  | unbound d => simp [Node.delegate?] at h
  | decorator d child =>
    cases d <;> obtain ⟨rfl, rfl⟩ := Prod.mk.inj (Option.some.inj h)
    case root => exact (Behavior.revise_id _).symm
    case inverter => rfl
    case succeeder => rfl
    case failer => rfl
    case times count => exact (Behavior.revise_id _).symm
    case forever token =>
      rw [Behavior.revise_id]
      exact Behavior.forever_eq_loop token _ limit 0
    case untilFail token =>
      rw [Behavior.revise_id]
      exact Behavior.untilFail_eq_loop token _ limit 0
  | boxed node =>
    obtain ⟨rfl, rfl⟩ := Prod.mk.inj (Option.some.inj h)
    exact (Behavior.revise_id _).symm

namespace Task

/-- Every answer of a task within a limit has a course. -/
def HasCourse (C : Type) {E : Type} [Leaf L C E] (limit : Nat) (task : Task L) : Prop :=
  ∀ (s : Scene L C E) v t, task.behavior limit s = some (v, t) → ∃ acts, task.Runs s acts v t

section

variable {limit : Nat}

theorem hasCourse_of_delegate? {n : Node L} {task : Task L} {f : Status → Status}
    (hn : n.delegate? = some (task, f)) (h : HasCourse C limit task) :
    HasCourse C limit (.node n) := by
  intro s v t ht
  change n.tick limit s = some (v, t) at ht
  rw [Node.tick_eq_of_delegate? hn] at ht
  obtain ⟨v', hv', rfl⟩ := Behavior.revise_eq_some_iff.1 ht
  obtain ⟨acts, hacts⟩ := h s v' t hv'
  exact ⟨_, .delegated hn hacts⟩

theorem hasCourse_inOrder {nodes : List (Node L)} (goOn : Status)
    (h : ∀ n ∈ nodes, HasCourse C limit (.node n)) : HasCourse C limit (.inOrder goOn nodes) := by
  induction nodes with
  | nil =>
    intro s v t ht
    obtain ⟨rfl, rfl⟩ := Prod.mk.inj (Option.some.inj ht)
    exact ⟨_, .inOrderNil⟩
  | cons n nodes ih =>
    intro s v t ht
    have hn := h n (List.mem_cons_self ..)
    rcases Behavior.andThen_eq_some_iff.1 ht with ⟨status, u, hs, hu⟩ | ⟨fault, hs, rfl⟩
    · obtain ⟨acts, hacts⟩ := hn s _ u hs
      by_cases hgo : status = goOn
      · rw [if_pos hgo] at hu
        subst hgo
        obtain ⟨rest, hrest⟩ := ih (fun m hm => h m (List.mem_cons_of_mem _ hm)) u v t hu
        exact ⟨_, .inOrderNext hacts hrest⟩
      · rw [if_neg hgo] at hu
        obtain ⟨rfl, rfl⟩ := Prod.mk.inj (Option.some.inj hu)
        exact ⟨_, .inOrderStop (by simpa using hgo) hacts⟩
    · obtain ⟨acts, hacts⟩ := hn s _ t hs
      exact ⟨_, .inOrderStop (by simp) hacts⟩

theorem hasCourse_again {child : Node L} (h : HasCourse C limit (.node child)) (left : Nat)
    (last : Status) : HasCourse C limit (.again child left last) := by
  induction left generalizing last with
  | zero =>
    intro s v t ht
    obtain ⟨rfl, rfl⟩ := Prod.mk.inj (Option.some.inj ht)
    exact ⟨_, .againNil⟩
  | succ left ih =>
    intro s v t ht
    rw [behavior, Behavior.repeated_succ] at ht
    rcases Behavior.andThen_eq_some_iff.1 ht with ⟨status, u, hs, hu⟩ | ⟨fault, hs, rfl⟩
    · obtain ⟨acts, hacts⟩ := h s _ u hs
      obtain ⟨rest, hrest⟩ := ih status u v t hu
      exact ⟨_, .againNext hacts hrest⟩
    · obtain ⟨acts, hacts⟩ := h s _ t hs
      exact ⟨_, .againFault hacts⟩

/-- The limit on the iterations counts down, while the one for the child stays. -/
theorem exists_runs_of_loop {child : Node L} (h : HasCourse C limit (.node child)) (d : Decorator)
    (left ticks : Nat) (s : Scene L C E) (v : Verdict) (t : Scene L C E)
    (ht : Behavior.loop d (child.tick limit) left ticks s = some (v, t)) :
    ∃ acts, Runs (.loop d child ticks) s acts v t := by
  -- The induction is on the looks that are left; the ticks so far only enter the events.
  induction left generalizing ticks s with
  | zero => exact nomatch ht
  | succ left ih =>
    rw [Behavior.loop] at ht
    cases hc : d.watched.any s.world.flags.isCancelled with
    | true =>
      rw [Behavior.guarded_of_cancelled _ _ hc] at ht
      obtain ⟨rfl, rfl⟩ := Prod.mk.inj (Option.some.inj ht)
      obtain ⟨token, hw, htoken⟩ := (Option.any_eq_true _ _).1 hc
      exact ⟨_, .loopCancelled hw htoken⟩
    | false =>
      rw [Behavior.guarded_of_not_cancelled _ _ hc] at ht
      rcases Behavior.andThen_eq_some_iff.1 ht with ⟨status, u, hs, hu⟩ | ⟨fault, hs, rfl⟩
      · obtain ⟨acts, hacts⟩ := h s _ u hs
        cases hgo : d.goesOn status with
        | true =>
          rw [hgo, if_pos rfl] at hu
          obtain ⟨rest, hrest⟩ := ih (ticks + 1) u hu
          exact ⟨_, .loopNext hc hgo hacts hrest⟩
        | false =>
          rw [hgo, if_neg Bool.false_ne_true] at hu
          obtain ⟨rfl, rfl⟩ := Prod.mk.inj (Option.some.inj hu)
          exact ⟨_, .loopDone hc hgo hacts⟩
      · obtain ⟨acts, hacts⟩ := h s _ t hs
        exact ⟨_, .loopFault hc hacts⟩

theorem hasCourse_node (limit : Nat) (n : Node L) : HasCourse C limit (.node n) := by
  induction n using Node.induction with
  | leaf l =>
    intro s v t ht
    exact ⟨_, .leaf ht⟩
  | unbound d =>
    intro s v t ht
    obtain ⟨rfl, rfl⟩ := Prod.mk.inj (Option.some.inj ht)
    exact ⟨_, .unbound⟩
  | composite kind children ih =>
    cases kind with
    | sequence => exact hasCourse_of_delegate? rfl (hasCourse_inOrder .success ih)
    | selector => exact hasCourse_of_delegate? rfl (hasCourse_inOrder .failure ih)
    | randomSelector =>
      intro s v t ht
      change Node.tick limit (.composite .randomSelector children) s = some (v, t) at ht
      rw [Node.tick, Node.tickAll_eq_map, Behavior.composite, Behavior.randomSelector_eq,
        List.length_map] at ht
      -- The drawn order visits children only, so the induction hypothesis covers all it visits.
      have hvisited : HasCourse C limit (.inOrder .failure
          ((s.world.generator.shuffle children.length).1.filterMap (children[·]?))) :=
        hasCourse_inOrder .failure fun n hn =>
          ih n (Behavior.mem_of_mem_filterMap_getElem? hn)
      obtain ⟨acts, hacts⟩ := hvisited (s.shuffled children.length) v t (by
        rw [behavior, ← Behavior.filterMap_getElem?_map]
        exact ht)
      exact ⟨_, .shuffled hacts⟩
  | decorator d child ih =>
    cases d with
    | root => exact hasCourse_of_delegate? rfl ih
    | inverter => exact hasCourse_of_delegate? rfl ih
    | succeeder => exact hasCourse_of_delegate? rfl ih
    | failer => exact hasCourse_of_delegate? rfl ih
    | times count => exact hasCourse_of_delegate? rfl (hasCourse_again ih _ _)
    | forever token => exact hasCourse_of_delegate? rfl (exists_runs_of_loop ih _ limit 0)
    | untilFail token => exact hasCourse_of_delegate? rfl (exists_runs_of_loop ih _ limit 0)
  | boxed n ih => exact hasCourse_of_delegate? rfl ih

theorem hasCourse_tree (limit : Nat) (tree : Tree L) : HasCourse C limit (.tree tree) := by
  intro s v t ht
  rw [behavior, Tree.run, Behavior.evaluation_eq] at ht
  rcases Behavior.andThen_eq_some_iff.1 ht with ⟨status, u, hs, hu⟩ | ⟨fault, hs, rfl⟩
  · obtain ⟨acts, hacts⟩ := hasCourse_node limit tree.root s _ u hs
    obtain ⟨rfl, rfl⟩ := Prod.mk.inj (Option.some.inj hu)
    exact ⟨_, .treeDone hacts⟩
  · obtain ⟨acts, hacts⟩ := hasCourse_node limit tree.root s _ t hs
    exact ⟨_, .treeFault hacts⟩

theorem hasCourse (limit : Nat) : ∀ task : Task L, HasCourse C limit task
  | .node n => hasCourse_node limit n
  | .inOrder goOn _ => hasCourse_inOrder goOn fun n _ => hasCourse_node limit n
  | .again child left last => hasCourse_again (hasCourse_node limit child) left last
  | .loop kind child ticks => exists_runs_of_loop (hasCourse_node limit child) kind limit ticks
  | .tree t => hasCourse_tree limit t

end

/-- Two tasks that answer do so within a common limit. -/
theorem Answers.within {task task' : Task L} {s u s' t : Scene L C E} {v v' : Verdict}
    (h : task.Answers s v u) (h' : task'.Answers s' v' t) :
    ∃ limit, task.behavior limit s = some (v, u) ∧ task'.behavior limit s' = some (v', t) := by
  obtain ⟨limit, hl⟩ := h
  obtain ⟨limit', hl'⟩ := h'
  exact ⟨max limit limit', behavior_mono (Nat.le_max_left limit limit') hl,
    behavior_mono (Nat.le_max_right limit limit') hl'⟩

/-- A task that has a course is carried out within some limit. -/
theorem Runs.answers {task : Task L} {s t : Scene L C E} {acts : List (Act L E)} {v : Verdict}
    (h : task.Runs s acts v t) : task.Answers s v t := by
  induction h with
  | leaf h => exact ⟨0, h⟩
  | unbound => exact ⟨0, rfl⟩
  | @delegated n task f s acts v t hn _ ih =>
    obtain ⟨limit, hl⟩ := ih
    refine ⟨limit, ?_⟩
    change n.tick limit s = _
    rw [Node.tick_eq_of_delegate? hn]
    exact Behavior.revise_eq_some_iff.2 ⟨v, hl, rfl⟩
  | @shuffled children s acts v t _ ih =>
    obtain ⟨limit, hl⟩ := ih
    refine ⟨limit, ?_⟩
    change Node.tick limit (.composite .randomSelector children) s = _
    rw [behavior, ← Behavior.filterMap_getElem?_map] at hl
    rw [Node.tick, Node.tickAll_eq_map, Behavior.composite, Behavior.randomSelector_eq,
      List.length_map]
    exact hl
  | inOrderNil => exact ⟨0, rfl⟩
  | inOrderNext _ _ ihn ihrest =>
    obtain ⟨limit, hn, hrest⟩ := ihn.within ihrest
    refine ⟨limit, (Behavior.andThen_of_ok _ hn).trans ?_⟩
    rw [if_pos rfl]
    exact hrest
  | @inOrderStop goOn n nodes s t acts v hv _ ih =>
    obtain ⟨limit, hl⟩ := ih
    refine ⟨limit, ?_⟩
    cases v with
    | error fault => exact Behavior.andThen_of_error _ hl
    | ok status =>
      refine (Behavior.andThen_of_ok _ hl).trans ?_
      rw [if_neg (by simpa using hv)]
      rfl
  | againNil => exact ⟨0, rfl⟩
  | againNext _ _ ihn ihrest =>
    obtain ⟨limit, hn, hrest⟩ := ihn.within ihrest
    refine ⟨limit, ?_⟩
    rw [behavior, Behavior.repeated_succ]
    exact (Behavior.andThen_of_ok _ hn).trans hrest
  | againFault _ ih =>
    obtain ⟨limit, hl⟩ := ih
    refine ⟨limit, ?_⟩
    rw [behavior, Behavior.repeated_succ]
    exact Behavior.andThen_of_error _ hl
  | loopCancelled hw htoken =>
    exact ⟨1, Behavior.guarded_of_cancelled _ _ ((Option.any_eq_true _ _).2 ⟨_, hw, htoken⟩)⟩
  | @loopNext d child ticks status s u t acts rest v hc hgo _ _ ihn ihrest =>
    obtain ⟨limit, hl, hl'⟩ := ihn.within ihrest
    have hn := behavior_mono (Nat.le_succ limit) hl
    -- The rest of the loop has one look at the token less than the whole loop.
    have hrest := Behavior.refines_closed.loop (n := child) (d := d) trivial
      (Behavior.refines_closed.tick (fun _ _ => trivial) (Nat.le_succ limit))
      (Nat.le_refl limit) (ticks + 1) u _ hl'
    refine ⟨limit + 1, (Behavior.guarded_of_not_cancelled _ _ hc).trans ?_⟩
    refine (Behavior.andThen_of_ok _ hn).trans ?_
    rw [hgo, if_pos rfl]
    exact hrest
  | loopDone hc hgo _ ih =>
    obtain ⟨limit, hl⟩ := ih
    have hn := behavior_mono (Nat.le_succ limit) hl
    refine ⟨limit + 1, (Behavior.guarded_of_not_cancelled _ _ hc).trans ?_⟩
    refine (Behavior.andThen_of_ok _ hn).trans ?_
    rw [hgo, if_neg Bool.false_ne_true]
    rfl
  | loopFault hc _ ih =>
    obtain ⟨limit, hl⟩ := ih
    have hn := behavior_mono (Nat.le_succ limit) hl
    refine ⟨limit + 1, (Behavior.guarded_of_not_cancelled _ _ hc).trans ?_⟩
    exact Behavior.andThen_of_error _ hn
  | treeDone _ ih =>
    obtain ⟨limit, hl⟩ := ih
    refine ⟨limit, ?_⟩
    rw [behavior, Tree.run, Behavior.evaluation_eq]
    exact Behavior.andThen_of_ok _ hl
  | treeFault _ ih =>
    obtain ⟨limit, hl⟩ := ih
    refine ⟨limit, ?_⟩
    rw [behavior, Tree.run, Behavior.evaluation_eq]
    exact Behavior.andThen_of_error _ hl

/-- The rules describe the functions: a task has a course exactly if some limit suffices for it. -/
theorem exists_runs_iff {task : Task L} {s t : Scene L C E} {v : Verdict} :
    (∃ acts, task.Runs s acts v t) ↔ task.Answers s v t :=
  ⟨fun ⟨_, h⟩ => h.answers, fun ⟨limit, h⟩ => hasCourse limit task s v t h⟩

/-- A task has at most one course. -/
theorem Runs.unique {task : Task L} {s t t' : Scene L C E} {acts acts' : List (Act L E)}
    {v v' : Verdict} (h : task.Runs s acts v t) (h' : task.Runs s acts' v' t') :
    acts = acts' ∧ v = v' ∧ t = t' := by
  induction h generalizing acts' v' t' with
  | leaf h =>
    cases h' with
    | leaf h' =>
      obtain ⟨rfl, rfl⟩ := Prod.mk.inj (Option.some.inj (h.symm.trans h'))
      exact ⟨rfl, rfl, rfl⟩
    | delegated hn _ => exact nomatch hn
  | unbound =>
    cases h' with
    | unbound => exact ⟨rfl, rfl, rfl⟩
    | delegated hn _ => exact nomatch hn
  | delegated hn _ ih =>
    cases h' with
    | leaf _ => exact nomatch hn
    | unbound => exact nomatch hn
    | shuffled _ => exact nomatch hn
    | delegated hn' h' =>
      obtain ⟨rfl, rfl⟩ := Prod.mk.inj (Option.some.inj (hn.symm.trans hn'))
      obtain ⟨rfl, rfl, rfl⟩ := ih h'
      exact ⟨rfl, rfl, rfl⟩
  | shuffled _ ih =>
    cases h' with
    | delegated hn _ => exact nomatch hn
    | shuffled h' =>
      obtain ⟨rfl, rfl, rfl⟩ := ih h'
      exact ⟨rfl, rfl, rfl⟩
  | inOrderNil =>
    cases h'
    exact ⟨rfl, rfl, rfl⟩
  | inOrderNext _ _ ih ih' =>
    cases h' with
    | inOrderNext hn hrest =>
      obtain ⟨rfl, -, rfl⟩ := ih hn
      obtain ⟨rfl, rfl, rfl⟩ := ih' hrest
      exact ⟨rfl, rfl, rfl⟩
    | inOrderStop hv hn => exact absurd (ih hn).2.1.symm hv
  | inOrderStop hv _ ih =>
    cases h' with
    | inOrderNext hn _ => exact absurd (ih hn).2.1 hv
    | inOrderStop _ hn => exact ih hn
  | againNil =>
    cases h'
    exact ⟨rfl, rfl, rfl⟩
  | againNext _ _ ih ih' =>
    cases h' with
    | againNext hn hrest =>
      obtain ⟨rfl, hstatus, rfl⟩ := ih hn
      obtain rfl := Except.ok.inj hstatus
      obtain ⟨rfl, rfl, rfl⟩ := ih' hrest
      exact ⟨rfl, rfl, rfl⟩
    | againFault hn => exact nomatch (ih hn).2.1
  | againFault _ ih =>
    cases h' with
    | againNext hn _ => exact nomatch (ih hn).2.1
    | againFault hn => exact ih hn
  | loopCancelled hw htoken =>
    have hc := (Option.any_eq_true _ _).2 ⟨_, hw, htoken⟩
    cases h' with
    | loopCancelled _ _ => exact ⟨rfl, rfl, rfl⟩
    | loopNext hc' _ _ _ => exact nomatch hc.symm.trans hc'
    | loopDone hc' _ _ => exact nomatch hc.symm.trans hc'
    | loopFault hc' _ => exact nomatch hc.symm.trans hc'
  | loopNext hc hgo _ _ ih ih' =>
    cases h' with
    | loopCancelled hw htoken =>
      exact nomatch hc.symm.trans ((Option.any_eq_true _ _).2 ⟨_, hw, htoken⟩)
    | loopNext _ _ hn hrest =>
      obtain ⟨rfl, -, rfl⟩ := ih hn
      obtain ⟨rfl, rfl, rfl⟩ := ih' hrest
      exact ⟨rfl, rfl, rfl⟩
    | loopDone _ hgo' hn =>
      obtain rfl := Except.ok.inj (ih hn).2.1
      exact nomatch hgo.symm.trans hgo'
    | loopFault _ hn => exact nomatch (ih hn).2.1
  | loopDone hc hgo _ ih =>
    cases h' with
    | loopCancelled hw htoken =>
      exact nomatch hc.symm.trans ((Option.any_eq_true _ _).2 ⟨_, hw, htoken⟩)
    | loopNext _ hgo' hn _ =>
      obtain rfl := Except.ok.inj (ih hn).2.1
      exact nomatch hgo.symm.trans hgo'
    | loopDone _ _ hn =>
      obtain ⟨rfl, -, rfl⟩ := ih hn
      exact ⟨rfl, rfl, rfl⟩
    | loopFault _ hn => exact nomatch (ih hn).2.1
  | loopFault hc _ ih =>
    cases h' with
    | loopCancelled hw htoken =>
      exact nomatch hc.symm.trans ((Option.any_eq_true _ _).2 ⟨_, hw, htoken⟩)
    | loopNext _ _ hn _ => exact nomatch (ih hn).2.1
    | loopDone _ _ hn => exact nomatch (ih hn).2.1
    | loopFault _ hn => exact ih hn
  | treeDone _ ih =>
    cases h' with
    | treeDone hn =>
      obtain ⟨rfl, hstatus, rfl⟩ := ih hn
      obtain rfl := Except.ok.inj hstatus
      exact ⟨rfl, rfl, rfl⟩
    | treeFault hn => exact nomatch (ih hn).2.1
  | treeFault _ ih =>
    cases h' with
    | treeDone hn => exact nomatch (ih hn).2.1
    | treeFault hn => exact ih hn

end Task

/-- A node answers exactly if there is a course of its tick. -/
theorem Node.answers_iff_exists_runs {n : Node L} {s t : Scene L C E} {v : Verdict} :
    n.Answers s v t ↔ ∃ acts, (Task.node n).Runs s acts v t :=
  Task.answers_node.symm.trans Task.exists_runs_iff.symm

/-! ### What the acts leave behind -/

namespace Act

/-- The entry of the history by which an act is recorded. -/
def entry? : Act L E → Option (Occurrence L E)
  | entered _ => none
  | drew n => some (.shuffled n)
  | acted l v => some (.leaf l v)
  | emitted e => some (.event e)
  | raised (.unbound d) _ => some (.unbound d)
  | raised _ _ => none

/-- What an act makes of the world. -/
def effect (w : World C) : Act L E → World C
  | acted l _ => (Leaf.tick l w : Reply C E).world
  | drew n => { w with generator := (w.generator.shuffle n).2 }
  | _ => w

end Act

/-- The acts lead from one scene to the other: their entries are what the history gains, and their
effects, one after the other, are what becomes of the world. -/
structure Act.Leads (s : Scene L C E) (acts : List (Act L E)) (t : Scene L C E) : Prop where
  history : t.history.toList = s.history.toList ++ acts.filterMap entry?
  world : t.world = acts.foldl effect s.world

namespace Act.Leads

variable {s t u : Scene L C E} {acts rest : List (Act L E)}

theorem refl (s : Scene L C E) : Leads s [] s := ⟨(List.append_nil _).symm, rfl⟩

theorem trans (h : Leads s acts u) (h' : Leads u rest t) : Leads s (acts ++ rest) t where
  history := by rw [h'.history, h.history, List.filterMap_append, List.append_assoc]
  world := by rw [h'.world, h.world, List.foldl_append]

theorem enter (n : Node L) (h : Leads s acts t) : Leads s (.entered n :: acts) t :=
  ⟨h.history, h.world⟩

theorem emit (h : Leads s acts u) (e : Event E) :
    Leads s (acts ++ [.emitted e]) (u.report e) := by
  refine h.trans ⟨?_, rfl⟩
  rw [Scene.toList_history_report]
  rfl

/-- A leaf reports before it returns, and only its return touches the world. -/
theorem leaf (l : L) (s : Scene L C E) {v : Verdict} (h : Behavior.leaf l s = some (v, t)) :
    Leads s (((Leaf.tick l s.world : Reply C E).notes.map fun what => .emitted (.note what)) ++
      .acted l v :: (Node.leaf l).raising v) t := by
  rw [Behavior.leaf_eq] at h
  obtain ⟨hv, rfl⟩ := Prod.mk.inj (Option.some.inj h)
  have hlast : (.acted l v :: (Node.leaf l).raising v : List (Act L E)).filterMap entry? =
      [.leaf l v] := by
    cases v <;> rfl
  -- What a leaf reports does not change the world.
  have hquiet (notes : List E) (w : World C) :
      (notes.map fun what => (.emitted (.note what) : Act L E)).foldl effect w = w := by
    induction notes with
    | nil => rfl
    | cons note notes ih => exact ih
  have hworld : ((Node.leaf l).raising v : List (Act L E)).foldl effect
      (Leaf.tick l s.world : Reply C E).world = (Leaf.tick l s.world : Reply C E).world := by
    cases v <;> rfl
  constructor
  · rw [List.filterMap_append, hlast, List.filterMap_map]
    simp [Function.comp_def, entry?, hv]
  · rw [List.foldl_append, hquiet, List.foldl_cons]
    exact hworld.symm

end Act.Leads

/-- The acts of a course say what enters the history and what becomes of the world. -/
theorem Task.Runs.leads {task : Task L} {s t : Scene L C E} {acts : List (Act L E)} {v : Verdict}
    (h : task.Runs s acts v t) : Act.Leads s acts t := by
  induction h with
  | leaf h => exact (Act.Leads.leaf _ _ h).enter _
  | unbound => exact ⟨Scene.toList_history_log _ _, rfl⟩
  | delegated _ _ ih => exact ih.enter _
  | @shuffled children s acts v t _ ih =>
    refine Act.Leads.enter _ ((?_ : Act.Leads s [.drew _] (s.shuffled children.length)).trans ih)
    exact ⟨Scene.toList_history_log _ _, rfl⟩
  | inOrderNil => exact .refl _
  | inOrderNext _ _ ih ih' => exact ih.trans ih'
  | inOrderStop _ _ ih => exact ih
  | againNil => exact .refl _
  | againNext _ _ ih ih' => exact ih.trans ih'
  | againFault _ ih => exact ih
  | @loopCancelled d child ticks token s _ _ =>
    exact ⟨Scene.toList_history_report _ _, rfl⟩
  | loopNext _ _ _ _ ih ih' => exact ih.trans ih'
  | loopDone _ _ _ ih => exact ih.emit _
  | loopFault _ _ ih => exact ih
  | treeDone _ ih => exact ih.emit _
  | treeFault _ ih => exact ih

namespace Task

variable {task task' : Task L} {s s' t t' : Scene L C E} {acts : List (Act L E)} {v v' : Verdict}

/-- The same acts make the same of a world, whatever the history is. -/
theorem Runs.world_eq (h : task.Runs s acts v t) (h' : task'.Runs s' acts v' t')
    (hs : s.world = s'.world) : t.world = t'.world := by
  rw [h.leads.world, h'.leads.world, hs]

/-- No task looks at the history: a course is possible from every scene with the same world. -/
theorem Runs.exists_of_world_eq (h : task.Runs s acts v t) (hs : s.world = s'.world) :
    ∃ t', task.Runs s' acts v t' := by
  induction h generalizing s' with
  | @leaf l s v t h =>
    rw [Behavior.leaf_eq] at h
    obtain ⟨rfl, -⟩ := Prod.mk.inj (Option.some.inj h)
    rw [hs]
    exact ⟨_, .leaf (Behavior.leaf_eq l s')⟩
  | unbound => exact ⟨_, .unbound⟩
  | delegated hn _ ih =>
    obtain ⟨t', h'⟩ := ih hs
    exact ⟨t', .delegated hn h'⟩
  | @shuffled children s acts v t _ ih =>
    have hshuffled : (s.shuffled children.length).world = (s'.shuffled children.length).world := by
      rw [Scene.shuffled, Scene.shuffled, hs]
      rfl
    obtain ⟨t', h'⟩ := ih hshuffled
    rw [hs] at h'
    exact ⟨t', .shuffled h'⟩
  | inOrderNil => exact ⟨_, .inOrderNil⟩
  | inOrderNext hn _ ih ih' =>
    obtain ⟨u', hn'⟩ := ih hs
    obtain ⟨t', hrest'⟩ := ih' (hn.world_eq hn' hs)
    exact ⟨t', .inOrderNext hn' hrest'⟩
  | inOrderStop hv _ ih =>
    obtain ⟨t', h'⟩ := ih hs
    exact ⟨t', .inOrderStop hv h'⟩
  | againNil => exact ⟨_, .againNil⟩
  | againNext hn _ ih ih' =>
    obtain ⟨u', hn'⟩ := ih hs
    obtain ⟨t', hrest'⟩ := ih' (hn.world_eq hn' hs)
    exact ⟨t', .againNext hn' hrest'⟩
  | againFault _ ih =>
    obtain ⟨t', h'⟩ := ih hs
    exact ⟨t', .againFault h'⟩
  | loopCancelled hw htoken =>
    rw [hs] at htoken
    exact ⟨_, .loopCancelled hw htoken⟩
  | loopNext hc hgo hn _ ih ih' =>
    rw [hs] at hc
    obtain ⟨u', hn'⟩ := ih hs
    obtain ⟨t', hrest'⟩ := ih' (hn.world_eq hn' hs)
    exact ⟨t', .loopNext hc hgo hn' hrest'⟩
  | loopDone hc hgo _ ih =>
    rw [hs] at hc
    obtain ⟨u', hn'⟩ := ih hs
    exact ⟨_, .loopDone hc hgo hn'⟩
  | loopFault hc _ ih =>
    rw [hs] at hc
    obtain ⟨t', h'⟩ := ih hs
    exact ⟨t', .loopFault hc h'⟩
  | treeDone _ ih =>
    obtain ⟨u', hn'⟩ := ih hs
    exact ⟨_, .treeDone hn'⟩
  | treeFault _ ih =>
    obtain ⟨t', h'⟩ := ih hs
    exact ⟨t', .treeFault h'⟩

end Task

end TickTree
