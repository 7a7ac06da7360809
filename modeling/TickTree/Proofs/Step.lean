import TickTree.Node

/-!
# The steps of an evaluation

Every node is put together from few steps: it ticks a leaf, finds that it has no child, draws an
order, looks at a token, reports how it ended, or goes on with the status of what ran before. A
relation between behaviors that respects these steps therefore holds between the evaluations of
any node. What a law says about sequences, loops or decorators follows from what it says about
the steps, and a new kind of node needs an equation here and nothing in the laws.

The limits of the two evaluations may differ: a behavior without an answer is related to every
other, so that the second evaluation may have the larger limit.

## Main definitions

* `Behavior.andThen`, `Behavior.guarded`, `Behavior.shuffled`, `Behavior.note`, `Behavior.answer`:
  the steps
* `Behavior.inOrder`, `Behavior.loop`: what both ordered composites and both loops have in common
* `Node.Within`: the nodes of which a node consists
* `Behavior.Closed`: relations that respect the steps

## Main results

* `Closed.tick`, `Closed.run`: such a relation holds between evaluations of a node and of a tree
-/

namespace TickTree

/-- A loop or a tree reports with such an event that it returns a status. -/
def Event.isSummary {E : Type} : Event E → Bool
  | .untilFailFinished _ => true
  | .evaluated _ => true
  | _ => false

namespace Decorator

/-- The token at which a decorator looks before each tick of its child. -/
def watched : Decorator → Option Token
  | forever token => some token
  | untilFail token => token
  | _ => none

/-- A loop ticks its child once more after this status. -/
def goesOn : Decorator → Status → Bool
  | untilFail _, status => status.isSuccess
  | _, _ => true

/-- What a loop reports when it sees its token after so many ticks. -/
def warning {E : Type} (d : Decorator) (ticks : Nat) : Event E :=
  match d with
  | untilFail _ => .untilFailCancelled ticks
  | _ => .repeaterCancelled ticks

end Decorator

namespace Behavior

variable {L C E : Type}

/-- Gives no answer. -/
def stuck : Behavior L C E := fun _ => none

/-- Returns a status and does nothing else. -/
def answer (status : Status) : Behavior L C E := fun s => some (.ok status, s)

/-- Reports an event and returns a status. -/
def note (event : Event E) (status : Status) : Behavior L C E := fun s =>
  some (.ok status, s.report event)

/-- Goes on with the status that a behavior returns. A fault is the answer of both. -/
def andThen (b : Behavior L C E) (next : Status → Behavior L C E) : Behavior L C E := fun s =>
  match b s with
  | some (.ok status, s) => next status s
  | answer => answer

/-- Looks at the token of a decorator before going on. -/
def guarded (d : Decorator) (ticks : Nat) (b : Behavior L C E) : Behavior L C E := fun s =>
  if d.watched.any s.world.flags.isCancelled then
    some (.error (.cancelled d.name), s.report (d.warning ticks))
  else b s

/-- Draws an order of `0, …, n - 1` and goes on with it. -/
def shuffled (n : Nat) (next : List Nat → Behavior L C E) : Behavior L C E := fun s =>
  let (order, generator) := s.world.generator.shuffle n
  let scene : Scene L C E := { s with world := { s.world with generator := generator } }
  next order (scene.log (.shuffled n))

/-- Goes through behaviors while they return the status `goOn`, and returns it at the end. -/
def inOrder (goOn : Status) : List (Behavior L C E) → Behavior L C E
  | [] => answer goOn
  | b :: bs => andThen b fun status => if status = goOn then inOrder goOn bs else answer status

/-- Goes on with a behavior as long as a loop does, and looks at the token every time. -/
def loop (d : Decorator) (b : Behavior L C E) : (limit : Nat) → (ticks : Nat) → Behavior L C E
  | 0, _ => stuck
  | limit + 1, ticks => guarded d ticks <| andThen b fun status =>
    if d.goesOn status then loop d b limit (ticks + 1) else note (.untilFailFinished ticks) .success

/-! ## Composites, decorators and loops in steps -/

theorem andThen_eq_some_iff {b : Behavior L C E} {next : Status → Behavior L C E}
    {s t : Scene L C E} {v : Verdict} :
    andThen b next s = some (v, t) ↔
      (∃ status u, b s = some (.ok status, u) ∧ next status u = some (v, t)) ∨
        ∃ fault, b s = some (.error fault, t) ∧ v = .error fault := by
  unfold andThen
  rcases b s with _ | ⟨_ | status, u⟩
  · simp
  · constructor
    · intro h
      obtain ⟨rfl, rfl⟩ := Prod.mk.inj (Option.some.inj h)
      exact Or.inr ⟨_, rfl, rfl⟩
    · rintro (⟨_, _, h, _⟩ | ⟨_, h, rfl⟩)
      · simp at h
      · exact h
  · constructor
    · exact fun h => Or.inl ⟨status, u, rfl, h⟩
    · rintro (⟨_, _, h, hnext⟩ | ⟨_, h, _⟩)
      · obtain ⟨rfl, rfl⟩ : status = _ ∧ u = _ := by simpa using h
        exact hnext
      · simp at h

theorem andThen_of_ok {b : Behavior L C E} (next : Status → Behavior L C E) {s u : Scene L C E}
    {status : Status} (h : b s = some (.ok status, u)) : andThen b next s = next status u := by
  simp [andThen, h]

theorem andThen_of_error {b : Behavior L C E} (next : Status → Behavior L C E) {s u : Scene L C E}
    {fault : Fault} (h : b s = some (.error fault, u)) :
    andThen b next s = some (.error fault, u) := by
  simp [andThen, h]

theorem guarded_of_cancelled {d : Decorator} {s : Scene L C E} (ticks : Nat) (b : Behavior L C E)
    (h : d.watched.any s.world.flags.isCancelled = true) :
    guarded d ticks b s = some (.error (.cancelled d.name), s.report (d.warning ticks)) :=
  if_pos h

theorem guarded_of_not_cancelled {d : Decorator} {s : Scene L C E} (ticks : Nat)
    (b : Behavior L C E) (h : d.watched.any s.world.flags.isCancelled = false) :
    guarded d ticks b s = b s := by
  rw [guarded, h, if_neg (by simp)]

theorem sequence_eq_inOrder (bs : List (Behavior L C E)) : sequence bs = inOrder .success bs := by
  induction bs with
  | nil => rfl
  | cons b bs ih =>
    funext s
    rw [sequence, inOrder, andThen, ← ih]
    rcases b s with _ | ⟨_ | _ | _, u⟩ <;> rfl

theorem selector_eq_inOrder (bs : List (Behavior L C E)) : selector bs = inOrder .failure bs := by
  induction bs with
  | nil => rfl
  | cons b bs ih =>
    funext s
    rw [selector, inOrder, andThen, ← ih]
    rcases b s with _ | ⟨_ | _ | _, u⟩ <;> rfl

theorem sequence_of_success {b : Behavior L C E} (bs : List (Behavior L C E)) {s u : Scene L C E}
    (h : b s = some (.ok .success, u)) : sequence (b :: bs) s = sequence bs u := by
  rw [sequence, h]

theorem sequence_of_failure {b : Behavior L C E} (bs : List (Behavior L C E)) {s u : Scene L C E}
    (h : b s = some (.ok .failure, u)) : sequence (b :: bs) s = some (.ok .failure, u) := by
  rw [sequence, h]

theorem selector_of_success {b : Behavior L C E} (bs : List (Behavior L C E)) {s u : Scene L C E}
    (h : b s = some (.ok .success, u)) : selector (b :: bs) s = some (.ok .success, u) := by
  rw [selector, h]

theorem selector_of_failure {b : Behavior L C E} (bs : List (Behavior L C E)) {s u : Scene L C E}
    (h : b s = some (.ok .failure, u)) : selector (b :: bs) s = selector bs u := by
  rw [selector, h]

theorem revise_of_ok (f : Status → Status) {b : Behavior L C E} {s u : Scene L C E}
    {status : Status} (h : b s = some (.ok status, u)) :
    revise f b s = some (.ok (f status), u) := by
  rw [revise, h]

theorem mem_of_mem_filterMap_getElem? {α : Type} {x : α} {xs : List α} {order : List Nat}
    (h : x ∈ order.filterMap (xs[·]?)) : x ∈ xs := by
  obtain ⟨place, -, hplace⟩ := List.mem_filterMap.1 h
  exact List.mem_of_getElem? hplace

/-- The visited behaviors are those of the visited indices, whatever the order. -/
theorem filterMap_getElem?_map {ι : Type} (is : List ι) (f : ι → Behavior L C E)
    (order : List Nat) :
    order.filterMap ((is.map f)[·]?) = (order.filterMap (is[·]?)).map f := by
  simp only [List.map_filterMap, List.getElem?_map]

theorem randomSelector_eq (bs : List (Behavior L C E)) :
    randomSelector bs =
      shuffled bs.length fun order => inOrder .failure (order.filterMap (bs[·]?)) := by
  funext s
  rw [randomSelector, shuffled]
  simp only [selector_eq_inOrder]

theorem revise_eq (f : Status → Status) (b : Behavior L C E) :
    revise f b = andThen b fun status => answer (f status) := by
  funext s
  rw [revise, andThen]
  rcases b s with _ | ⟨_ | _, u⟩ <;> rfl

theorem repeated_succ (b : Behavior L C E) (n : Nat) (last : Status) :
    repeated b (n + 1) last = andThen b (repeated b n) := by
  funext s
  rcases hb : b s with _ | ⟨_ | _, u⟩ <;> simp only [repeated, andThen, hb]

theorem forever_eq_loop (token : Token) (b : Behavior L C E) (limit ticks : Nat) :
    forever token b limit ticks = loop (.forever token) b limit ticks := by
  induction limit generalizing ticks with
  | zero => rfl
  | succ limit ih =>
    funext s
    rw [forever, loop, guarded, andThen]
    simp only [ih]
    rcases b s with _ | ⟨_ | _ | _, u⟩ <;> rfl

theorem untilFail_eq_loop (token : Option Token) (b : Behavior L C E) (limit successes : Nat) :
    untilFail token b limit successes = loop (.untilFail token) b limit successes := by
  induction limit generalizing successes with
  | zero => rfl
  | succ limit ih =>
    funext s
    rw [untilFail, loop, guarded, andThen]
    simp only [ih]
    rcases b s with _ | ⟨_ | _ | _, u⟩ <;> rfl

theorem untilFail_of_success {b : Behavior L C E} {s u : Scene L C E} (limit successes : Nat)
    (h : b s = some (.ok .success, u)) :
    untilFail none b (limit + 1) successes s = untilFail none b limit (successes + 1) u := by
  rw [untilFail, h]
  rfl

theorem untilFail_of_failure {b : Behavior L C E} {s u : Scene L C E} (limit successes : Nat)
    (h : b s = some (.ok .failure, u)) :
    untilFail none b (limit + 1) successes s =
      some (.ok .success, u.report (.untilFailFinished successes)) := by
  rw [untilFail, h]
  rfl

theorem evaluation_eq (b : Behavior L C E) :
    evaluation b = andThen b fun status => note (.evaluated status) status := by
  funext s
  rw [evaluation, andThen]
  rcases b s with _ | ⟨_ | _, u⟩ <;> rfl

end Behavior

/-- The nodes of which a node consists: itself and all nodes below it. -/
inductive Node.Within {L : Type} (part : Node L) : Node L → Prop
  | self : Within part part
  | child {kind : Composite} {children : List (Node L)} {node : Node L} :
      node ∈ children → Within part node → Within part (.composite kind children)
  | bound {kind : Decorator} {node : Node L} : Within part node → Within part (.decorator kind node)
  | boxed {node : Node L} : Within part node → Within part (.boxed node)

namespace Node

variable {L : Type} {part : Node L}

@[simp] theorem within_leaf {l : L} : part.Within (.leaf l) ↔ part = .leaf l := by
  constructor
  · rintro ⟨⟩
    rfl
  · rintro rfl
    exact .self

@[simp] theorem within_unbound {d : Decorator} : part.Within (.unbound d) ↔ part = .unbound d := by
  constructor
  · rintro ⟨⟩
    rfl
  · rintro rfl
    exact .self

@[simp] theorem within_composite {kind : Composite} {children : List (Node L)} :
    part.Within (.composite kind children) ↔
      part = .composite kind children ∨ ∃ child ∈ children, part.Within child := by
  constructor
  · rintro (_ | ⟨hmem, hchild⟩)
    · exact .inl rfl
    · exact .inr ⟨_, hmem, hchild⟩
  · rintro (rfl | ⟨child, hmem, hchild⟩)
    · exact .self
    · exact .child hmem hchild

@[simp] theorem within_decorator {d : Decorator} {child : Node L} :
    part.Within (.decorator d child) ↔ part = .decorator d child ∨ part.Within child := by
  constructor
  · rintro (_ | _ | hchild)
    · exact .inl rfl
    · exact .inr hchild
  · rintro (rfl | hchild)
    · exact .self
    · exact .bound hchild

@[simp] theorem within_boxed {node : Node L} :
    part.Within (.boxed node) ↔ part = .boxed node ∨ part.Within node := by
  constructor
  · rintro (_ | _ | _ | hnode)
    · exact .inl rfl
    · exact .inr hnode
  · rintro (rfl | hnode)
    · exact .self
    · exact .boxed hnode

theorem Within.sizeOf_le {node : Node L} (h : part.Within node) : sizeOf part ≤ sizeOf node := by
  induction h with
  | self => exact Nat.le_refl _
  | @child kind children node hmem _ ih =>
    have hlt := List.sizeOf_lt_of_mem hmem
    rw [composite.sizeOf_spec]
    omega
  | bound _ ih =>
    rw [decorator.sizeOf_spec]
    omega
  | boxed _ ih =>
    rw [boxed.sizeOf_spec]
    omega

/-- A decorator is no part of its child. -/
theorem decorator_not_within (d : Decorator) (child : Node L) :
    ¬ (decorator d child).Within child := by
  intro h
  have hle := h.sizeOf_le
  rw [decorator.sizeOf_spec] at hle
  omega

end Node

namespace Behavior

variable {L C E : Type} [Leaf L C E]

/-- A relation between behaviors that respects the steps of an evaluation, as far as these belong
to nodes among `parts`. -/
structure Closed (R : Behavior L C E → Behavior L C E → Prop) (parts : Node L → Prop) : Prop where
  stuck : ∀ b, R stuck b
  answer : ∀ status, R (answer status) (answer status)
  andThen : ∀ {b b' next next'}, R b b' → (∀ status, R (next status) (next' status)) →
    R (andThen b next) (andThen b' next')
  note : ∀ {event} status, event.isSummary = true → R (note event status) (note event status)
  leaf : ∀ l, parts (.leaf l) → R (leaf l) (leaf l)
  unbound : ∀ d, parts (.unbound d) → R (unbound d) (unbound d)
  guarded : ∀ {d child b b'} ticks, parts (.decorator d child) → R b b' →
    R (guarded d ticks b) (guarded d ticks b')
  shuffled : ∀ {n next next'}, (∀ order, R (next order) (next' order)) →
    R (shuffled n next) (shuffled n next')

namespace Closed

variable {R : Behavior L C E → Behavior L C E → Prop} {parts : Node L → Prop}

section Combinators

variable {ι : Type} {f f' : ι → Behavior L C E} {b b' : Behavior L C E}

theorem inOrder (h : Closed R parts) (goOn : Status) {is : List ι}
    (hf : ∀ i ∈ is, R (f i) (f' i)) :
    R (Behavior.inOrder goOn (is.map f)) (Behavior.inOrder goOn (is.map f')) := by
  induction is with
  | nil => exact h.answer goOn
  | cons i is ih =>
    refine h.andThen (hf i (List.mem_cons_self ..)) fun status => ?_
    split
    · exact ih fun j hj => hf j (List.mem_cons_of_mem _ hj)
    · exact h.answer status

theorem randomSelector (h : Closed R parts) {is : List ι} (hf : ∀ i ∈ is, R (f i) (f' i)) :
    R (Behavior.randomSelector (is.map f)) (Behavior.randomSelector (is.map f')) := by
  rw [randomSelector_eq, randomSelector_eq, List.length_map, List.length_map]
  refine h.shuffled fun order => ?_
  -- Both orders are the same, so the children are related place by place.
  rw [filterMap_getElem?_map, filterMap_getElem?_map]
  exact h.inOrder .failure fun i hi => hf i (mem_of_mem_filterMap_getElem? hi)

theorem composite (h : Closed R parts) (kind : Composite) {is : List ι}
    (hf : ∀ i ∈ is, R (f i) (f' i)) :
    R (Behavior.composite kind (is.map f)) (Behavior.composite kind (is.map f')) := by
  cases kind with
  | sequence =>
    rw [Behavior.composite, sequence_eq_inOrder, sequence_eq_inOrder]
    exact h.inOrder .success hf
  | selector =>
    rw [Behavior.composite, selector_eq_inOrder, selector_eq_inOrder]
    exact h.inOrder .failure hf
  | randomSelector => exact h.randomSelector hf

theorem revise (h : Closed R parts) (g : Status → Status) (hb : R b b') :
    R (Behavior.revise g b) (Behavior.revise g b') := by
  rw [revise_eq, revise_eq]
  exact h.andThen hb fun status => h.answer (g status)

theorem repeated (h : Closed R parts) (hb : R b b') (n : Nat) (last : Status) :
    R (Behavior.repeated b n last) (Behavior.repeated b' n last) := by
  induction n generalizing last with
  | zero => exact h.answer last
  | succ n ih =>
    rw [repeated_succ, repeated_succ]
    exact h.andThen hb ih

theorem loop (h : Closed R parts) {d : Decorator} {n : Node L}
    (hp : parts (.decorator d n)) (hb : R b b') {limit limit' : Nat} (hl : limit ≤ limit')
    (ticks : Nat) : R (Behavior.loop d b limit ticks) (Behavior.loop d b' limit' ticks) := by
  -- Each look at the token takes one off both limits, and the first is used up first.
  induction limit generalizing limit' ticks with
  | zero => exact h.stuck _
  | succ limit ih =>
    obtain ⟨rest, rfl⟩ := Nat.exists_eq_add_of_le' hl
    rw [← Nat.add_assoc]
    refine h.guarded ticks hp (h.andThen hb fun status => ?_)
    split
    · exact ih (Nat.le_add_left ..) (ticks + 1)
    · exact h.note .success rfl

theorem decorate (h : Closed R parts) {d : Decorator} {n : Node L}
    (hp : parts (.decorator d n)) (hb : R b b') {limit limit' : Nat} (hl : limit ≤ limit') :
    R (Behavior.decorate limit d b) (Behavior.decorate limit' d b') := by
  cases d with
  | root => exact hb
  | inverter => exact h.revise _ hb
  | succeeder => exact h.revise _ hb
  | failer => exact h.revise _ hb
  | times count => exact h.repeated hb _ _
  | forever token =>
    rw [Behavior.decorate, Behavior.decorate, forever_eq_loop, forever_eq_loop]
    exact h.loop hp hb hl 0
  | untilFail token =>
    rw [Behavior.decorate, Behavior.decorate, untilFail_eq_loop, untilFail_eq_loop]
    exact h.loop hp hb hl 0

end Combinators

/-- A relation that respects the steps of a node's parts relates the evaluations of the node. -/
theorem tick (h : Closed R parts) {node : Node L}
    (hp : ∀ part : Node L, part.Within node → parts part) {limit limit' : Nat}
    (hl : limit ≤ limit') : R (node.tick limit) (node.tick limit') := by
  induction node using Node.induction with
  | leaf l => exact h.leaf l (hp _ .self)
  | composite kind children ih =>
    rw [Node.tick, Node.tick, Node.tickAll_eq_map, Node.tickAll_eq_map]
    exact h.composite kind fun child hc => ih child hc fun part hpart => hp part (.child hc hpart)
  | unbound d => exact h.unbound d (hp _ .self)
  | decorator d child ih =>
    exact h.decorate (hp _ .self) (ih fun part hpart => hp part (.bound hpart)) hl
  | boxed node ih => exact ih fun part hpart => hp part (.boxed hpart)

/-- A relation that respects the steps of a tree's parts relates the evaluations of the tree. -/
theorem run (h : Closed R parts) {tree : Tree L}
    (hp : ∀ part : Node L, part.Within tree.root → parts part) {limit limit' : Nat}
    (hl : limit ≤ limit') : R (tree.run limit) (tree.run limit') := by
  rw [Tree.run, Tree.run, evaluation_eq, evaluation_eq]
  exact h.andThen (h.tick hp hl) fun status => h.note status rfl

end Closed

end Behavior

end TickTree
