import TickTree.Proofs.Course
import TickTree.Workbench.Leaf

/-!
# Faults end an evaluation

A fault is produced by one activation: a leaf returns it, a decorator finds that no child was bound
to it, or a loop sees its token. Nothing happens after that. Whatever the nodes around it are
(decorators that override a status, loops that discard one, a random selector with untried
children), the fault is what the whole evaluation returns, in the scene that the activation left,
and a loop that was cancelled warns once, just before.

Two laws say so. Looking forward from an activation, its fault is the answer of every task on the
way to it, whether or not these would ever have returned. Looking back from an answer, the acts of
the evaluation are calm up to the production of the fault, which comes last.

## Main definitions

* `Task.Calls`, `Task.Reaches`: the tasks that a task starts on its way, with the acts before them
* `Produces`: the acts with which a node produces a fault
* `FaultIsLast`: what a fault means for a whole evaluation

## Main results

* `Task.Reaches.runs_error`: the fault of a task that was started is that of the tasks around it
* `Task.Runs.reaches`: every activation of a course is of a node that the task starts on its way
* `Task.Runs.conclusive`: the acts of a task are calm, or end where a fault is produced
* `fault_ends_evaluation`: both laws for the evaluation of nodes and trees
-/

namespace TickTree

variable {L C E : Type}

/-- A loop reports with such an event that it saw its token. -/
def Event.isWarning : Event E → Bool
  | .repeaterCancelled _ => true
  | .untilFailCancelled _ => true
  | _ => false

theorem Decorator.isWarning_warning (d : Decorator) (ticks : Nat) :
    (d.warning ticks : Event E).isWarning = true := by
  cases d <;> rfl

/-! ### Tasks that are started on the way -/

namespace Task

variable [Leaf L C E]

/-- After these acts, a task starts another one in this scene. -/
inductive Calls : Task L → Scene L C E → List (Act L E) → Task L → Scene L C E → Prop
  | delegated {n task f s} : n.delegate? = some (task, f) →
      Calls (.node n) s [.entered n] task s
  | shuffled {children s} : Calls (.node (.composite .randomSelector children)) s
      [.entered (.composite .randomSelector children), .drew children.length]
      (.inOrder .failure ((s.world.generator.shuffle children.length).1.filterMap (children[·]?)))
      (s.shuffled children.length)
  | inOrderHead {goOn n nodes s} : Calls (.inOrder goOn (n :: nodes)) s [] (.node n) s
  | inOrderTail {goOn n nodes s acts u} : Runs (.node n) s acts (.ok goOn) u →
      Calls (.inOrder goOn (n :: nodes)) s acts (.inOrder goOn nodes) u
  | againHead {child left last s} : Calls (.again child (left + 1) last) s [] (.node child) s
  | againTail {child left last status s acts u} : Runs (.node child) s acts (.ok status) u →
      Calls (.again child (left + 1) last) s acts (.again child left status) u
  | loopHead {d child ticks s} : d.watched.any s.world.flags.isCancelled = false →
      Calls (.loop d child ticks) s [] (.node child) s
  | loopTail {d child ticks status s acts u} : d.watched.any s.world.flags.isCancelled = false →
      d.goesOn status = true → Runs (.node child) s acts (.ok status) u →
      Calls (.loop d child ticks) s acts (.loop d child (ticks + 1)) u
  | root {t s} : Calls (.tree t) s [] (.node t.root) s

/-- After these acts, a task is started in the course of another one. -/
inductive Reaches : Task L → Scene L C E → List (Act L E) → Task L → Scene L C E → Prop
  | refl {task s} : Reaches task s [] task s
  | step {task task' task'' s s' s'' acts acts'} : Calls task s acts task' s' →
      Reaches task' s' acts' task'' s'' → Reaches task s (acts ++ acts') task'' s''

variable {task task' : Task L} {s s' t : Scene L C E} {acts rest : List (Act L E)} {fault : Fault}

/-- The fault of a task that is started ends the task that started it. -/
theorem Calls.runs_error (h : Calls task s acts task' s')
    (hfault : task'.Runs s' rest (.error fault) t) :
    task.Runs s (acts ++ rest) (.error fault) t := by
  cases h with
  | delegated hn => exact .delegated hn hfault
  | shuffled => exact .shuffled hfault
  | inOrderHead => exact .inOrderStop (by simp) hfault
  | inOrderTail hn => exact .inOrderNext hn hfault
  | againHead => exact .againFault hfault
  | againTail hn => exact .againNext hn hfault
  | loopHead hc => exact .loopFault hc hfault
  | loopTail hc hgo hn => exact .loopNext hc hgo hn hfault
  | root => exact .treeFault hfault

/-- The fault of a task that was started ends all tasks on the way to it. -/
theorem Reaches.runs_error (h : Reaches task s acts task' s')
    (hfault : task'.Runs s' rest (.error fault) t) :
    task.Runs s (acts ++ rest) (.error fault) t := by
  induction h with
  | refl => exact hfault
  | step hcall _ ih =>
    rw [List.append_assoc]
    exact hcall.runs_error (ih hfault)

end Task

/-! ### The end of a course -/

/-- No fault is produced by these acts, and no loop warns. -/
def Calm (acts : List (Act L E)) : Prop :=
  (∀ n fault, .raised n fault ∉ acts) ∧ ∀ e, .emitted e ∈ acts → e.isWarning = false

namespace Calm

variable {acts rest : List (Act L E)}

theorem nil : Calm ([] : List (Act L E)) := ⟨by simp, by simp⟩

theorem append (h : Calm acts) (h' : Calm rest) : Calm (acts ++ rest) := by
  constructor
  · intro n fault hmem
    rcases List.mem_append.1 hmem with hmem | hmem
    · exact h.1 n fault hmem
    · exact h'.1 n fault hmem
  · intro e hmem
    rcases List.mem_append.1 hmem with hmem | hmem
    · exact h.2 e hmem
    · exact h'.2 e hmem

theorem entered (n : Node L) : Calm ([.entered n] : List (Act L E)) := ⟨by simp, by simp⟩

theorem drew (count : Nat) : Calm ([.drew count] : List (Act L E)) := ⟨by simp, by simp⟩

theorem acted (l : L) (v : Verdict) : Calm ([.acted l v] : List (Act L E)) := ⟨by simp, by simp⟩

theorem emitted {e : Event E} (h : e.isWarning = false) : Calm ([.emitted e] : List (Act L E)) :=
  ⟨by simp, by simpa using h⟩

theorem notes (notes : List E) :
    Calm (notes.map fun what => (.emitted (.note what) : Act L E)) := by
  constructor
  · simp
  · intro e hmem
    obtain ⟨what, -, h⟩ := List.mem_map.1 hmem
    rw [← Act.emitted.inj h]
    rfl

end Calm

theorem PartOf.of_mem {part n : Node L} {nodes : List (Node L)} (h : PartOf part [n])
    (hn : n ∈ nodes) : PartOf part nodes := by
  obtain ⟨m, hm, hpart⟩ := h
  rw [List.mem_singleton.1 hm] at hpart
  exact ⟨n, hn, hpart⟩

variable [Leaf L C E]

/-- The acts with which a part of these nodes produces a fault, and leaves the scene `t`. -/
inductive Produces (nodes : List (Node L)) (fault : Fault) (t : Scene L C E) :
    List (Act L E) → Prop
  -- A leaf returns it, and its effects are the last.
  | leaf {l} {w : World C} : PartOf (.leaf l) nodes →
      (Leaf.tick l w : Reply C E).verdict = .error fault →
      (Leaf.tick l w : Reply C E).world = t.world →
      Produces nodes fault t [.acted l (.error fault), .raised (.leaf l) fault]
  -- A decorator has no child, and names itself.
  | unbound {d} : PartOf (.unbound d) nodes → fault = .missingChild d.name →
      Produces nodes fault t [.raised (.unbound d) fault]
  -- A loop sees its token and warns.
  | loop {d child token ticks} : PartOf (.decorator d child) nodes → d.watched = some token →
      t.world.flags.isCancelled token = true → fault = .cancelled d.name →
      Produces nodes fault t [.emitted (d.warning ticks), .raised (.decorator d child) fault]

theorem Produces.mono {nodes nodes' : List (Node L)} {fault : Fault} {t : Scene L C E}
    {acts : List (Act L E)} (h : Produces nodes fault t acts)
    (hsub : ∀ part, PartOf part nodes → PartOf part nodes') : Produces nodes' fault t acts := by
  cases h with
  | leaf hp hv hw => exact .leaf (hsub _ hp) hv hw
  | unbound hp hf => exact .unbound (hsub _ hp) hf
  | loop hp hw ht hf => exact .loop (hsub _ hp) hw ht hf

/-- The acts of a task with a status are calm. Those of a task with a fault are calm up to its
production by a part of the nodes. -/
def Conclusive (nodes : List (Node L)) (acts : List (Act L E)) (v : Verdict) (t : Scene L C E) :
    Prop :=
  match v with
  | .ok _ => Calm acts
  | .error fault => ∃ before last, acts = before ++ last ∧ Calm before ∧ Produces nodes fault t last

namespace Conclusive

variable {nodes nodes' : List (Node L)} {acts before : List (Act L E)} {v : Verdict}
  {t : Scene L C E}

theorem prepend (h : Conclusive nodes acts v t) (hb : Calm before) :
    Conclusive nodes (before ++ acts) v t := by
  cases v with
  | ok status => exact hb.append h
  | error fault =>
    obtain ⟨between, last, rfl, hbetween, hlast⟩ := h
    exact ⟨before ++ between, last, (List.append_assoc ..).symm, hb.append hbetween, hlast⟩

theorem mono (h : Conclusive nodes acts v t)
    (hsub : ∀ part, PartOf part nodes → PartOf part nodes') : Conclusive nodes' acts v t := by
  cases v with
  | ok status => exact h
  | error fault =>
    obtain ⟨before, last, hacts, hb, hlast⟩ := h
    exact ⟨before, last, hacts, hb, hlast.mono hsub⟩

theorem map (h : Conclusive nodes acts v t) (f : Status → Status) :
    Conclusive nodes acts (v.map f) t := by
  cases v with
  | ok status => exact h
  | error fault => exact h

/-- A leaf produces a fault exactly if it returns one. -/
theorem leaf {l : L} {s : Scene L C E} (h : Behavior.leaf l s = some (v, t)) :
    Conclusive [.leaf l] (.acted l v :: (Node.leaf l).raising v) v t := by
  rw [Behavior.leaf_eq] at h
  obtain ⟨hv, rfl⟩ := Prod.mk.inj (Option.some.inj h)
  cases v with
  | ok status => exact Calm.acted l _
  | error fault =>
    exact ⟨[], _, rfl, .nil, .leaf ⟨_, List.mem_singleton.2 rfl, .self⟩ hv rfl⟩

end Conclusive

/-- The parts of the nodes of a task are parts of the node that hands its work to the task. -/
theorem PartOf.of_delegate? {n part : Node L} {task : Task L} {f : Status → Status}
    (hn : n.delegate? = some (task, f)) (h : PartOf part task.nodes) : PartOf part [n] := by
  obtain ⟨m, hm, hpart⟩ := h
  refine ⟨n, List.mem_singleton.2 rfl, ?_⟩
  cases n with
  | leaf l => exact nomatch hn
  | composite kind children =>
    cases kind with
    | sequence =>
      obtain ⟨rfl, -⟩ := Prod.mk.inj (Option.some.inj hn)
      exact .child hm hpart
    | selector =>
      obtain ⟨rfl, -⟩ := Prod.mk.inj (Option.some.inj hn)
      exact .child hm hpart
    | randomSelector => exact nomatch hn
  | unbound d => exact nomatch hn
  | decorator d child =>
    cases d <;> obtain ⟨rfl, -⟩ := Prod.mk.inj (Option.some.inj hn) <;>
      rw [List.mem_singleton.1 hm] at hpart
    case forever => exact hpart
    case untilFail => exact hpart
    all_goals exact .bound hpart
  | boxed node =>
    obtain ⟨rfl, -⟩ := Prod.mk.inj (Option.some.inj hn)
    rw [List.mem_singleton.1 hm] at hpart
    exact .boxed hpart

/-- The acts of a task are calm, or end where a part of its nodes produces the fault. -/
theorem Task.Runs.conclusive {task : Task L} {s t : Scene L C E} {acts : List (Act L E)}
    {v : Verdict} (h : task.Runs s acts v t) : Conclusive task.nodes acts v t := by
  induction h with
  | @leaf l s v t h =>
    rw [List.cons_append]
    exact ((Conclusive.leaf h).prepend (.notes _)).prepend (.entered _)
  | @unbound d s =>
    exact ⟨[.entered _], _, rfl, .entered _, .unbound ⟨_, List.mem_singleton.2 rfl, .self⟩ rfl⟩
  | delegated hn _ ih =>
    exact ((ih.mono fun _ => PartOf.of_delegate? hn).map _).prepend (.entered _)
  | @shuffled children s acts v t _ ih =>
    have hsub (part : Node L) (h : PartOf part (Task.inOrder .failure
        ((s.world.generator.shuffle children.length).1.filterMap (children[·]?))).nodes) :
        PartOf part [.composite .randomSelector children] := by
      obtain ⟨m, hm, hpart⟩ := h
      exact ⟨_, List.mem_singleton.2 rfl, .child (Behavior.mem_of_mem_filterMap_getElem? hm) hpart⟩
    exact ((ih.mono hsub).prepend (.drew _)).prepend (.entered _)
  | inOrderNil => exact Calm.nil
  | @inOrderNext goOn n nodes s u t acts rest v _ _ ih ih' =>
    -- The first node returned a status, so its acts are calm.
    refine Conclusive.prepend (ih'.mono fun part h => ?_) ih
    obtain ⟨m, hm, hpart⟩ := h
    exact ⟨m, List.mem_cons_of_mem _ hm, hpart⟩
  | inOrderStop _ _ ih => exact ih.mono fun _ h => h.of_mem (List.mem_cons_self ..)
  | againNil => exact Calm.nil
  | againNext _ _ ih ih' => exact ih'.prepend ih
  | againFault _ ih => exact ih
  | loopCancelled hw htoken =>
    exact ⟨[], _, rfl, .nil, .loop ⟨_, List.mem_singleton.2 rfl, .self⟩ hw htoken rfl⟩
  | loopNext _ _ _ _ ih ih' => exact ih'.prepend ih
  | loopDone _ _ _ ih => exact Calm.append ih (.emitted rfl)
  | loopFault _ _ ih =>
    refine ih.mono fun part h => ?_
    obtain ⟨m, hm, hpart⟩ := h
    rw [List.mem_singleton.1 hm] at hpart
    exact ⟨_, List.mem_singleton.2 rfl, .bound hpart⟩
  | treeDone _ ih => exact Calm.append ih (.emitted rfl)
  | treeFault _ ih => exact ih

/-! ### Every activation is started on the way -/

section Lists

variable {α : Type} {a x : α} {xs ys before after : List α}

/-- An element of a list is its head or splits the tail. -/
theorem cons_eq_append_cons (h : x :: xs = before ++ a :: after) :
    (before = [] ∧ x = a) ∨ ∃ before', before = x :: before' ∧ xs = before' ++ a :: after := by
  rcases List.cons_eq_append_iff.1 h with ⟨hbefore, hcons⟩ | ⟨before', hbefore, hxs⟩
  · exact .inl ⟨hbefore, (List.cons.inj hcons).1.symm⟩
  · exact .inr ⟨before', hbefore, hxs⟩

/-- An element of two joined lists splits the first or the second. -/
theorem append_eq_append_cons (h : xs ++ ys = before ++ a :: after) :
    (∃ after', xs = before ++ a :: after') ∨
      ∃ before', before = xs ++ before' ∧ ys = before' ++ a :: after := by
  rcases List.append_eq_append_iff.1 h with ⟨between, hbefore, hys⟩ | ⟨between, hxs, hafter⟩
  · exact .inr ⟨between, hbefore, hys⟩
  · rcases between with _ | ⟨b, between⟩
    · rw [List.append_nil] at hxs
      exact .inr ⟨[], by rw [hxs, List.append_nil], hafter.symm⟩
    · obtain ⟨rfl, -⟩ := List.cons.inj hafter
      exact .inl ⟨between, hxs⟩

/-- If no element but the last has a property, an element that has it is the last. -/
theorem eq_nil_of_append_cons {P : α → Prop} {b : α} (h : xs ++ [b] = before ++ a :: after)
    (hxs : ∀ x ∈ xs, ¬ P x) (ha : P a) : before = xs ∧ a = b ∧ after = [] := by
  rcases append_eq_append_cons h with ⟨after', rfl⟩ | ⟨before', rfl, hb⟩
  · exact absurd ha (hxs a (by simp))
  · rcases before' with _ | ⟨c, before'⟩
    · obtain ⟨rfl, rfl⟩ := List.cons.inj hb
      exact ⟨List.append_nil _, rfl, rfl⟩
    · simp at hb

end Lists

/-- Every activation in the course of a task is one that the task reaches. -/
theorem Task.Runs.reaches {task : Task L} {s t : Scene L C E} {acts before after : List (Act L E)}
    {v : Verdict} {n : Node L} (h : task.Runs s acts v t)
    (hacts : acts = before ++ .entered n :: after) : ∃ u, task.Reaches s before (.node n) u := by
  -- In each rule the activation is the node's own, or one of the tasks that the rule starts.
  induction h generalizing before after with
  | @leaf l s v t h =>
    rcases cons_eq_append_cons hacts with ⟨rfl, hn⟩ | ⟨before, rfl, hrest⟩
    · obtain rfl := Act.entered.inj hn
      exact ⟨s, .refl⟩
    · -- What follows the activation of a leaf activates nothing.
      have hmem := congrArg (Act.entered n ∈ ·) hrest
      cases v <;> simp [Node.raising] at hmem
  | @unbound d s =>
    rcases cons_eq_append_cons hacts with ⟨rfl, hn⟩ | ⟨before, rfl, hrest⟩
    · obtain rfl := Act.entered.inj hn
      exact ⟨s, .refl⟩
    · have hmem := congrArg (Act.entered n ∈ ·) hrest
      simp at hmem
  | @delegated m task f s acts v t hm _ ih =>
    rcases cons_eq_append_cons hacts with ⟨rfl, hn⟩ | ⟨before, rfl, hrest⟩
    · obtain rfl := Act.entered.inj hn
      exact ⟨s, .refl⟩
    · obtain ⟨u, hu⟩ := ih hrest
      exact ⟨u, .step (.delegated hm) hu⟩
  | @shuffled children s acts v t _ ih =>
    rcases cons_eq_append_cons hacts with ⟨rfl, hn⟩ | ⟨before, rfl, hrest⟩
    · obtain rfl := Act.entered.inj hn
      exact ⟨s, .refl⟩
    · rcases cons_eq_append_cons hrest with ⟨-, hn⟩ | ⟨before, rfl, hacts'⟩
      · exact nomatch hn
      · obtain ⟨u, hu⟩ := ih hacts'
        exact ⟨u, .step .shuffled hu⟩
  | inOrderNil => simp at hacts
  | inOrderNext hn _ ih ih' =>
    rcases append_eq_append_cons hacts with ⟨after', h⟩ | ⟨before, rfl, h⟩
    · obtain ⟨u, hu⟩ := ih h
      exact ⟨u, .step .inOrderHead hu⟩
    · obtain ⟨u, hu⟩ := ih' h
      exact ⟨u, .step (.inOrderTail hn) hu⟩
  | inOrderStop _ _ ih =>
    obtain ⟨u, hu⟩ := ih hacts
    exact ⟨u, .step .inOrderHead hu⟩
  | againNil => simp at hacts
  | againNext hn _ ih ih' =>
    rcases append_eq_append_cons hacts with ⟨after', h⟩ | ⟨before, rfl, h⟩
    · obtain ⟨u, hu⟩ := ih h
      exact ⟨u, .step .againHead hu⟩
    · obtain ⟨u, hu⟩ := ih' h
      exact ⟨u, .step (.againTail hn) hu⟩
  | againFault _ ih =>
    obtain ⟨u, hu⟩ := ih hacts
    exact ⟨u, .step .againHead hu⟩
  | loopCancelled =>
    have hmem := congrArg (Act.entered n ∈ ·) hacts
    simp at hmem
  | loopNext hc hgo hn _ ih ih' =>
    rcases append_eq_append_cons hacts with ⟨after', h⟩ | ⟨before, rfl, h⟩
    · obtain ⟨u, hu⟩ := ih h
      exact ⟨u, .step (.loopHead hc) hu⟩
    · obtain ⟨u, hu⟩ := ih' h
      exact ⟨u, .step (.loopTail hc hgo hn) hu⟩
  | loopDone hc _ _ ih =>
    rcases append_eq_append_cons hacts with ⟨after', h⟩ | ⟨before, -, h⟩
    · obtain ⟨u, hu⟩ := ih h
      exact ⟨u, .step (.loopHead hc) hu⟩
    · have hmem := congrArg (Act.entered n ∈ ·) h
      simp at hmem
  | loopFault hc _ ih =>
    obtain ⟨u, hu⟩ := ih hacts
    exact ⟨u, .step (.loopHead hc) hu⟩
  | treeDone _ ih =>
    rcases append_eq_append_cons hacts with ⟨after', h⟩ | ⟨before, -, h⟩
    · obtain ⟨u, hu⟩ := ih h
      exact ⟨u, .step .root hu⟩
    · have hmem := congrArg (Act.entered n ∈ ·) h
      simp at hmem
  | treeFault _ ih =>
    obtain ⟨u, hu⟩ := ih hacts
    exact ⟨u, .step .root hu⟩

namespace Task

variable {task task' : Task L} {s s' t : Scene L C E} {acts : List (Act L E)}

/-- The parts of the nodes of a task that is started are parts of the nodes of the task that
started it. -/
theorem Calls.partOf (h : Calls task s acts task' s') {part : Node L}
    (hpart : PartOf part task'.nodes) : PartOf part task.nodes := by
  obtain ⟨m, hm, hwithin⟩ := id hpart
  cases h with
  | delegated hn => exact hpart.of_delegate? hn
  | shuffled =>
    have hchild := Behavior.mem_of_mem_filterMap_getElem? hm
    exact ⟨_, List.mem_singleton.2 rfl, .child hchild hwithin⟩
  | inOrderHead => exact hpart.of_mem (List.mem_cons_self ..)
  | inOrderTail _ => exact ⟨m, List.mem_cons_of_mem _ hm, hwithin⟩
  | againHead => exact hpart
  | againTail _ => exact hpart
  | loopHead _ =>
    rw [List.mem_singleton.1 hm] at hwithin
    exact ⟨_, List.mem_singleton.2 rfl, .bound hwithin⟩
  | loopTail _ _ _ => exact hpart
  | root => exact hpart

theorem Reaches.partOf (h : Reaches task s acts task' s') {part : Node L}
    (hpart : PartOf part task'.nodes) : PartOf part task.nodes := by
  induction h with
  | refl => exact hpart
  | step hcall _ ih => exact hcall.partOf (ih hpart)

/-- Only parts of the nodes of a task are activated in its course. -/
theorem Runs.partOf_of_entered {v : Verdict} {n : Node L} (h : task.Runs s acts v t)
    (hn : .entered n ∈ acts) : PartOf n task.nodes := by
  obtain ⟨before, after, hacts⟩ := List.append_of_mem hn
  obtain ⟨u, hu⟩ := h.reaches hacts
  exact hu.partOf ⟨n, List.mem_singleton.2 rfl, .self⟩

end Task

/-! ### What a course says about the events -/

/-- The event that an act emits. -/
def Act.event? : Act L E → Option (Event E)
  | .emitted e => some e
  | _ => none

theorem Act.mem_filterMap_event? {e : Event E} {acts : List (Act L E)} :
    e ∈ acts.filterMap Act.event? ↔ .emitted e ∈ acts := by
  rw [List.mem_filterMap]
  constructor
  · rintro ⟨act, hact, he⟩
    cases act with
    | emitted e' =>
      obtain rfl := Option.some.inj he
      exact hact
    | entered _ => exact nomatch he
    | drew _ => exact nomatch he
    | acted _ _ => exact nomatch he
    | raised _ _ => exact nomatch he
  · intro he
    exact ⟨_, he, rfl⟩

theorem Act.Leads.events {w : World C} {t : Scene L C E} {acts : List (Act L E)}
    (h : Act.Leads (.start w) acts t) : t.events = acts.filterMap Act.event? := by
  have hentry (act : Act L E) : act.entry?.bind Occurrence.event? = act.event? := by
    cases act with
    | raised n fault => cases n <;> rfl
    | entered _ => rfl
    | drew _ => rfl
    | acted _ _ => rfl
    | emitted _ => rfl
  have hstart : (Scene.start w : Scene L C E).history.toList = [] := rfl
  rw [Scene.events_eq, h.history, hstart, List.nil_append, List.filterMap_filterMap]
  exact congrArg (acts.filterMap ·) (funext hentry)

theorem Calm.isWarning_eq_false {acts : List (Act L E)} (h : Calm acts) {e : Event E}
    (he : e ∈ acts.filterMap Act.event?) : e.isWarning = false :=
  h.2 e (Act.mem_filterMap_event?.1 he)

namespace Produces

variable {nodes : List (Node L)} {fault : Fault} {t : Scene L C E} {acts : List (Act L E)}

/-- Whatever produces a fault, the act that raises it is the last. -/
theorem raised_last (h : Produces nodes fault t acts) :
    ∃ before n, acts = before ++ [.raised n fault] ∧ ∀ m f, .raised m f ∉ before := by
  cases h with
  | @leaf l _ _ _ _ => exact ⟨[.acted l _], _, rfl, by simp⟩
  | unbound _ _ => exact ⟨[], _, rfl, by simp⟩
  | @loop d _ _ ticks _ _ _ _ => exact ⟨[.emitted (d.warning ticks)], _, rfl, by simp⟩

/-- Whatever raises a fault there is a part of the nodes. -/
theorem partOf_of_raised (h : Produces nodes fault t acts) {n : Node L} {fault' : Fault}
    (hn : .raised n fault' ∈ acts) : PartOf n nodes := by
  cases h with
  | @leaf l _ hp _ _ =>
    obtain ⟨rfl, -⟩ : n = .leaf l ∧ fault' = fault := by simpa using hn
    exact hp
  | @unbound d hp _ =>
    obtain ⟨rfl, -⟩ : n = .unbound d ∧ fault' = fault := by simpa using hn
    exact hp
  | @loop d child _ _ hp _ _ _ =>
    obtain ⟨rfl, -⟩ : n = .decorator d child ∧ fault' = fault := by simpa using hn
    exact hp

/-- A warning is emitted by a loop only. -/
theorem warned_iff (h : Produces nodes fault t acts) :
    (∃ e, .emitted e ∈ acts ∧ e.isWarning = true) ↔
      ∃ d child, .raised (.decorator d child) (.cancelled d.name) ∈ acts := by
  cases h with
  | leaf _ _ _ => simp
  | unbound _ _ => simp
  | @loop d child _ ticks _ _ _ hf =>
    constructor
    · intro _
      exact ⟨d, child, by simp [hf]⟩
    · intro _
      exact ⟨_, List.mem_cons_self .., d.isWarning_warning ticks⟩

/-- Only a loop emits an event where a fault is produced, and that is its warning. -/
theorem events (h : Produces nodes fault t acts) :
    acts.filterMap Act.event? = [] ∨
      ∃ d : Decorator, ∃ ticks, acts.filterMap Act.event? = [d.warning ticks] := by
  cases h with
  | leaf _ _ _ => exact .inl rfl
  | unbound _ _ => exact .inl rfl
  | @loop d _ _ ticks _ _ _ _ => exact .inr ⟨d, ticks, rfl⟩

end Produces

namespace Conclusive

variable {nodes : List (Node L)} {acts : List (Act L E)} {v : Verdict} {t : Scene L C E}

theorem raised_last (h : Conclusive nodes acts v t) {before after : List (Act L E)} {n : Node L}
    {fault : Fault} (hacts : acts = before ++ .raised n fault :: after) :
    after = [] ∧ v = .error fault := by
  cases v with
  | ok status =>
    have hcalm : Calm acts := h
    exact absurd (by simp [hacts]) (hcalm.1 n fault)
  | error fault' =>
    obtain ⟨calm, last, rfl, hcalm, hlast⟩ := h
    obtain ⟨pre, m, rfl, hpre⟩ := hlast.raised_last
    -- Of all acts, only the last one raises a fault.
    have hquiet : ∀ act ∈ calm ++ pre, ¬ ∃ m f, act = Act.raised m f := by
      rintro act hmem ⟨m, f, rfl⟩
      rcases List.mem_append.1 hmem with hmem | hmem
      · exact hcalm.1 m f hmem
      · exact hpre m f hmem
    rw [← List.append_assoc] at hacts
    obtain ⟨-, hn, hafter⟩ := eq_nil_of_append_cons hacts hquiet ⟨n, fault, rfl⟩
    obtain ⟨-, rfl⟩ := Act.raised.inj hn
    exact ⟨hafter, rfl⟩

theorem partOf_of_raised (h : Conclusive nodes acts v t) {n : Node L} {fault : Fault}
    (hn : .raised n fault ∈ acts) : PartOf n nodes := by
  cases v with
  | ok status =>
    have hcalm : Calm acts := h
    exact absurd hn (hcalm.1 n fault)
  | error fault' =>
    obtain ⟨before, last, rfl, hcalm, hlast⟩ := h
    rcases List.mem_append.1 hn with hn | hn
    · exact absurd hn (hcalm.1 n fault)
    · exact hlast.partOf_of_raised hn

theorem missing {name : String} (h : Conclusive nodes acts (.error (.missingChild name)) t) :
    (∃ l, .acted l (.error (.missingChild name)) ∈ acts) ∨
      ∃ d, PartOf (.unbound d) nodes ∧ d.name = name := by
  obtain ⟨before, last, rfl, -, hlast⟩ := h
  cases hlast with
  | @leaf l _ _ _ _ => exact .inl ⟨l, by simp⟩
  | @unbound d hp hf => exact .inr ⟨d, hp, (Fault.missingChild.inj hf).symm⟩
  | loop _ _ _ hf => exact nomatch hf

theorem warned_iff (h : Conclusive nodes acts v t) :
    (∃ e, .emitted e ∈ acts ∧ e.isWarning = true) ↔
      ∃ d child, .raised (.decorator d child) (.cancelled d.name) ∈ acts := by
  have hcalm {before : List (Act L E)} (hb : Calm before) :
      (∃ e, .emitted e ∈ before ∧ e.isWarning = true) ↔ False := by
    constructor
    · rintro ⟨e, he, hwarn⟩
      simp [hb.2 e he] at hwarn
    · exact False.elim
  cases v with
  | ok status =>
    have hb : Calm acts := h
    simp [hcalm hb, hb.1]
  | error fault =>
    obtain ⟨before, last, rfl, hb, hlast⟩ := h
    simp only [List.mem_append, or_and_right, exists_or, hcalm hb, hb.1, false_or, hlast.warned_iff]

theorem warning_last (h : Conclusive nodes acts v t) {before after : List (Event E)} {e : Event E}
    (hevents : acts.filterMap Act.event? = before ++ e :: after) (he : e.isWarning = true) :
    after = [] ∧ ∀ e' ∈ before, e'.isWarning = false := by
  cases v with
  | ok status =>
    have hcalm : Calm acts := h
    exact absurd he (by simp [hcalm.isWarning_eq_false (by simp [hevents] : e ∈ _)])
  | error fault =>
    obtain ⟨calm, last, rfl, hcalm, hlast⟩ := h
    have hquiet : ∀ e ∈ calm.filterMap Act.event?, ¬ e.isWarning = true := by
      intro e he
      simp [hcalm.isWarning_eq_false he]
    rw [List.filterMap_append] at hevents
    -- The warning is not among the calm events, so it is the one of the loop.
    rcases hlast.events with hnil | ⟨d, ticks, hone⟩
    · rw [hnil, List.append_nil] at hevents
      exact absurd he (hquiet e (by simp [hevents]))
    · rw [hone] at hevents
      obtain ⟨rfl, -, hafter⟩ := eq_nil_of_append_cons hevents hquiet he
      exact ⟨hafter, fun e' he' => by simpa using hquiet e' he'⟩

end Conclusive

/-- A decorator raises no fault while its child is ticked. -/
theorem Task.Runs.raised_decorator_notMem {d : Decorator} {child : Node L} {s t : Scene L C E}
    {acts : List (Act L E)} {v : Verdict} (h : (Task.node child).Runs s acts v t) (fault : Fault) :
    .raised (.decorator d child) fault ∉ acts := by
  intro hraised
  obtain ⟨n, hn, hpart⟩ := h.conclusive.partOf_of_raised hraised
  rw [List.mem_singleton.1 hn] at hpart
  exact Node.decorator_not_within d child hpart

/-- No node and no loop reports that a tree was evaluated. -/
theorem Task.Runs.evaluated_notMem {task : Task L} {s t : Scene L C E} {acts : List (Act L E)}
    {v : Verdict} (h : task.Runs s acts v t) (htask : ∀ tree, task ≠ .tree tree)
    (status : Status) : .emitted (.evaluated status) ∉ acts := by
  induction h with
  | @leaf l s v t _ => cases v <;> simp [Node.raising]
  | unbound => simp
  | @delegated n task f s acts v t hn _ ih =>
    -- No node hands its work to a whole tree.
    have htree : ∀ tree, task ≠ .tree tree := by
      rintro tree rfl
      rcases n with _ | ⟨_ | _ | _, _⟩ | _ | ⟨_ | _ | _ | _ | _ | _ | _, _⟩ | _ <;>
        simp [Node.delegate?] at hn
    simpa using ih htree
  | shuffled _ ih => simpa using ih (by simp)
  | inOrderNil => simp
  | inOrderNext _ _ ih ih' => simp [ih (by simp), ih' (by simp)]
  | inOrderStop _ _ ih => exact ih (by simp)
  | againNil => simp
  | againNext _ _ ih ih' => simp [ih (by simp), ih' (by simp)]
  | againFault _ ih => exact ih (by simp)
  | @loopCancelled d _ _ _ _ _ _ => cases d <;> simp [Decorator.warning]
  | loopNext _ _ _ _ ih ih' => simp [ih (by simp), ih' (by simp)]
  | loopDone _ _ _ ih => simp [ih (by simp)]
  | loopFault _ _ ih => exact ih (by simp)
  | treeDone _ _ => exact absurd rfl (htask _)
  | treeFault _ _ => exact absurd rfl (htask _)

/-- A tree reports that it was evaluated only with the status that it returns. -/
theorem Task.Runs.eq_ok_of_evaluated {task : Task L} {s t : Scene L C E} {acts : List (Act L E)}
    {v : Verdict} (h : task.Runs s acts v t) {status : Status}
    (he : .emitted (.evaluated status) ∈ acts) : v = .ok status := by
  cases task with
  | tree tree =>
    cases h with
    | treeDone hroot =>
      rcases List.mem_append.1 he with he | he
      · exact absurd he (hroot.evaluated_notMem (by simp) status)
      · obtain ⟨rfl⟩ := List.mem_singleton.1 he
        rfl
    | treeFault hroot => exact absurd he (hroot.evaluated_notMem (by simp) status)
  | node n => exact absurd he (h.evaluated_notMem (by simp) status)
  | inOrder goOn nodes => exact absurd he (h.evaluated_notMem (by simp) status)
  | again child left last => exact absurd he (h.evaluated_notMem (by simp) status)
  | loop kind child ticks => exact absurd he (h.evaluated_notMem (by simp) status)

/-! ### A fault is the last thing that happens -/

/-- What a fault means in an evaluation that starts in the world `w`. -/
structure FaultIsLast (task : Task L) (w : World C) (acts : List (Act L E)) (v : Verdict)
    (t : Scene L C E) : Prop where
  /-- Nothing happens after a fault is produced, and it is what is returned. -/
  last : ∀ before n fault after, acts = before ++ .raised n fault :: after →
    after = [] ∧ v = .error fault
  /-- A fault that is returned is produced by one activation. -/
  source : ∀ fault, v = .error fault →
    ∃ before last, acts = before ++ last ∧ Calm before ∧ Produces task.nodes fault t last
  /-- A missing child that no leaf returned names a decorator without a child. -/
  missing : ∀ name, v = .error (.missingChild name) →
    (∃ l, .acted l v ∈ acts) ∨ ∃ d, PartOf (.unbound d) task.nodes ∧ d.name = name
  /-- A warning is reported exactly if a loop was cancelled. -/
  warned : (∃ e ∈ t.events, e.isWarning = true) ↔
    ∃ d child, .raised (.decorator d child) (.cancelled d.name) ∈ acts
  /-- A warning is the last event, and the only warning. -/
  warning_last : ∀ before e after, t.events = before ++ e :: after → e.isWarning = true →
    after = [] ∧ ∀ e' ∈ before, e'.isWarning = false
  /-- A tree reports its status only when it returns one. -/
  evaluated : ∀ status, .evaluated status ∈ t.events → v = .ok status
  /-- The effects of all acts are in the world, and their entries are in the history. -/
  kept : t.world = acts.foldl Act.effect w ∧ t.history.toList = acts.filterMap Act.entry?
  /-- The activations are those that the task reaches. -/
  activated : ∀ before n after, acts = before ++ .entered n :: after →
    ∃ u, task.Reaches (.start w) before (.node n) u

theorem Task.Runs.faultIsLast {task : Task L} {w : World C} {acts : List (Act L E)} {v : Verdict}
    {t : Scene L C E} (h : task.Runs (.start w) acts v t) : FaultIsLast task w acts v t where
  last _ _ _ _ hacts := h.conclusive.raised_last hacts
  source := by
    rintro fault rfl
    exact h.conclusive
  missing := by
    rintro name rfl
    exact h.conclusive.missing
  warned := by
    rw [← h.conclusive.warned_iff, h.leads.events]
    simp only [Act.mem_filterMap_event?]
  warning_last _ _ _ hevents he := by
    rw [h.leads.events] at hevents
    exact h.conclusive.warning_last hevents he
  evaluated status he := by
    rw [h.leads.events, Act.mem_filterMap_event?] at he
    exact h.eq_ok_of_evaluated he
  kept := ⟨h.leads.world, h.leads.history⟩
  activated _ _ _ hacts := h.reaches hacts

/-- A fault is the last thing that happens when a node is ticked or a tree is evaluated, and it is
what is returned. Every answer has a course, and in every course of an answer a fault comes last.
Conversely, when a task has reached a node and this node answers with a fault, then that is the
answer of the whole task, in the same scene and with no act after those of the node. -/
theorem fault_ends_evaluation (task : Task L) (w : World C) :
    (∀ v (t : Scene L C E), task.Answers (.start w) v t →
      (∃ acts, task.Runs (.start w) acts v t) ∧
        ∀ acts, task.Runs (.start w) acts v t → FaultIsLast task w acts v t) ∧
    ∀ (part : Node L) (s t : Scene L C E) (acts : List (Act L E)) (fault : Fault),
      task.Reaches (.start w) acts (.node part) s → part.Answers s (.error fault) t →
        task.Answers (.start w) (.error fault) t ∧
          ∃ rest, Task.Runs (.node part) s rest (.error fault) t ∧
            task.Runs (.start w) (acts ++ rest) (.error fault) t := by
  constructor
  · intro v t h
    exact ⟨Task.exists_runs_iff.2 h, fun acts hacts => hacts.faultIsLast⟩
  · intro part s t acts fault hreach hpart
    obtain ⟨rest, hrest⟩ := Node.answers_iff_exists_runs.1 hpart
    have htask := hreach.runs_error hrest
    exact ⟨htask.answers, rest, hrest, htask⟩

namespace Workbench

/-- A new workbench, with no token cancelled. -/
def fresh : World Workbench := ⟨⟨.blank, 8, #[], #[]⟩, .clear, .ofSeed 0⟩

/-- A selector whose first child fails and cancels the token of the second, an endless loop. -/
def selfCancelling : Node BenchLeaf :=
  let failing : Node BenchLeaf := .leaf (.scripted "a" (.probe 0 [.ok .failure] (some (0, 1)) none))
  .composite .selector [failing, .decorator (.forever 0) failing, failing]

end Workbench

/-- The fault of the loop is what the tree returns. The third child of the selector is not ticked,
and neither the succeeder nor the tree covers the fault. -/
theorem fault_ends_evaluation_selfCancelling :
    let tree : Tree BenchLeaf := .of (.decorator .succeeder Workbench.selfCancelling)
    let start := Scene.start Workbench.fresh
    let fault := Fault.cancelled "Repeater"
    ∃ t acts rest, (Task.tree tree).Reaches start acts (.node Workbench.selfCancelling) start ∧
      Workbench.selfCancelling.Answers start (.error fault) t ∧
      (Task.tree tree).Runs start (acts ++ rest) (.error fault) t ∧
      FaultIsLast (.tree tree) Workbench.fresh (acts ++ rest) (.error fault) t ∧
      t.events = [.repeaterCancelled 0] ∧ t.leafTicks.length = 1 := by
  intro tree start fault
  have hreach : (Task.tree tree).Reaches start _ (.node Workbench.selfCancelling) start :=
    .step .root (.step (.delegated rfl) (.step (.delegated rfl) .refl))
  have hpart : ∃ t, Workbench.selfCancelling.Answers start (.error fault) t ∧
      t.events = [.repeaterCancelled 0] ∧ t.leafTicks.length = 1 := ⟨_, ⟨1, rfl⟩, rfl, rfl⟩
  obtain ⟨t, hpart, hevents, hticks⟩ := hpart
  obtain ⟨hback, hforth⟩ := fault_ends_evaluation (.tree tree) Workbench.fresh
  obtain ⟨htree, rest, -, hrest⟩ := hforth _ _ t _ fault hreach hpart
  exact ⟨t, _, rest, hreach, hpart, hrest, (hback _ t htree).2 _ hrest, hevents, hticks⟩

end TickTree
