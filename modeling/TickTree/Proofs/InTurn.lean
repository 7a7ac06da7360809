import TickTree.Proofs.Fault

/-!
# One tick after the other

A loop ticks its child again and again, and a composite ticks its children in order. Either way
each tick starts in the scene that the one before it left. So the course of a loop is a list of
rounds and an end, and that of a composite a list of turns.

## Main definitions

* `InTurn`: steps that lead from one state to another, one after the other
* `Round`, `Round.Leads`: one tick of the child of a loop, after a look at the token
* `Decorator.Ends`: how a loop ends
* `Turn`, `Turn.Leads`: one tick of a node among others
* `Turn.Settle`: the turns of nodes up to the first that settles their verdict

## Main results

* `InTurn.extends_of_length_le`: steps that are determined can be continued in one way only
* `Task.runs_loop_iff`, `Node.runs_loop_iff`: a loop goes through rounds and ends
* `Task.runs_inOrder_iff`: nodes are ticked in turn until one of them returns something else
-/

namespace TickTree

/-- Steps that lead from one state to another, one after the other. -/
inductive InTurn {ι α : Type} (step : ι → α → α → Prop) : List ι → α → α → Prop
  | nil {s} : InTurn step [] s s
  | cons {i is s u t} : step i s u → InTurn step is u t → InTurn step (i :: is) s t

namespace InTurn

variable {ι κ α : Type} {step : ι → α → α → Prop} {i : ι} {is js : List ι} {s t u : α}

@[simp] theorem nil_iff : InTurn step [] s t ↔ s = t := by
  constructor
  · intro h
    cases h
    rfl
  · intro h
    rw [h]
    exact .nil

@[simp] theorem cons_iff :
    InTurn step (i :: is) s t ↔ ∃ u, step i s u ∧ InTurn step is u t := by
  constructor
  · intro h
    cases h with
    | cons hi his => exact ⟨_, hi, his⟩
  · intro ⟨u, hi, his⟩
    exact .cons hi his

theorem append_iff :
    InTurn step (is ++ js) s t ↔ ∃ u, InTurn step is s u ∧ InTurn step js u t := by
  induction is generalizing s with
  | nil => simp
  | cons i is ih =>
    simp only [List.cons_append, cons_iff, ih]
    constructor
    · intro ⟨m, hi, u, his, hjs⟩
      exact ⟨u, ⟨m, hi, his⟩, hjs⟩
    · intro ⟨u, ⟨m, hi, his⟩, hjs⟩
      exact ⟨m, hi, u, his, hjs⟩

theorem concat_iff : InTurn step (is ++ [i]) s t ↔ ∃ u, InTurn step is s u ∧ step i u t := by
  simp [append_iff]

/-- Steps whose labels are the images of those of other steps. -/
theorem map_iff {step' : κ → α → α → Prop} {f : ι → κ}
    (h : ∀ k s u, step' k s u ↔ ∃ i, k = f i ∧ step i s u) {ks : List κ} :
    InTurn step' ks s t ↔ ∃ is, ks = is.map f ∧ InTurn step is s t := by
  induction ks generalizing s with
  | nil => simp
  | cons k ks ih =>
    simp only [cons_iff, h, ih]
    constructor
    · intro ⟨u, ⟨i, hk, hi⟩, is, hks, his⟩
      refine ⟨i :: is, ?_, .cons hi his⟩
      rw [hk, hks, List.map_cons]
    · intro ⟨is, hks, his⟩
      cases his with
      | nil => exact nomatch hks
      | cons hi his =>
        obtain ⟨hk, hks⟩ := List.cons.inj hks
        exact ⟨_, ⟨_, hk, hi⟩, _, hks, his⟩

/-- Where a state determines the next step, of two lists of steps from one state the longer
continues the shorter. -/
theorem extends_of_length_le (hstep : ∀ {i j s u t}, step i s u → step j s t → i = j ∧ u = t)
    (h : InTurn step is s u) (h' : InTurn step js s t) (hlength : is.length ≤ js.length) :
    ∃ rest, js = is ++ rest ∧ InTurn step rest u t := by
  induction h generalizing js with
  | nil => exact ⟨js, rfl, h'⟩
  | cons hi _ ih =>
    cases h' with
    | nil => exact absurd hlength (by simp)
    | cons hj hjs =>
      obtain ⟨rfl, rfl⟩ := hstep hi hj
      obtain ⟨rest, rfl, hrest⟩ := ih hjs (Nat.le_of_succ_le_succ hlength)
      exact ⟨rest, rfl, hrest⟩

end InTurn

variable {L C E : Type} [Leaf L C E]

/-- A node is activated and hands its work on, and then it may change the status. -/
theorem Task.runs_node_iff {n : Node L} {task : Task L} {f : Status → Status}
    (hn : n.delegate? = some (task, f)) {s t : Scene L C E} {acts : List (Act L E)} {v : Verdict} :
    (Task.node n).Runs s acts v t ↔
      ∃ rest v', task.Runs s rest v' t ∧ acts = .entered n :: rest ∧ v = v'.map f := by
  constructor
  · intro h
    cases h with
    | leaf _ => exact nomatch hn
    | unbound => exact nomatch hn
    | shuffled _ => exact nomatch hn
    | delegated hn' h =>
      obtain ⟨rfl, rfl⟩ := Prod.mk.inj (Option.some.inj (hn.symm.trans hn'))
      exact ⟨_, _, h, rfl, rfl⟩
  · rintro ⟨rest, v', h, rfl, rfl⟩
    exact .delegated hn h

/-- A node that keeps the status returns what the task returns. -/
theorem Task.runs_node_id_iff {n : Node L} {task : Task L} (hn : n.delegate? = some (task, id))
    {s t : Scene L C E} {acts : List (Act L E)} {v : Verdict} :
    (Task.node n).Runs s acts v t ↔ ∃ rest, task.Runs s rest v t ∧ acts = .entered n :: rest := by
  rw [runs_node_iff hn]
  simp only [Except.map_id]
  constructor
  · rintro ⟨rest, v, h, rfl, rfl⟩
    exact ⟨rest, h, rfl⟩
  · rintro ⟨rest, h, rfl⟩
    exact ⟨rest, v, h, rfl, rfl⟩

/-! ### Loops -/

/-- One round of a loop: the status that its child returns, and the acts of this tick. -/
structure Round (L E : Type) where
  status : Status
  acts : List (Act L E)

/-- A round leads from one scene to the next: the token is clear, and then the child is ticked. -/
structure Round.Leads (token : Option Token) (child : Node L) (round : Round L E)
    (s u : Scene L C E) : Prop where
  clear : token.any s.world.flags.isCancelled = false
  runs : (Task.node child).Runs s round.acts (.ok round.status) u

theorem Round.Leads.unique {token : Option Token} {child : Node L} {round round' : Round L E}
    {s u u' : Scene L C E} (h : round.Leads token child s u) (h' : round'.Leads token child s u') :
    round = round' ∧ u = u' := by
  obtain ⟨status, acts⟩ := round
  obtain ⟨rfl, hstatus, rfl⟩ := h.runs.unique h'.runs
  obtain rfl : status = round'.status := Except.ok.inj hstatus
  exact ⟨rfl, rfl⟩

/-- How a loop ends that has gone on for so many rounds: what it still does, its verdict and the
scene that it leaves. -/
inductive Decorator.Ends (d : Decorator) (child : Node L) (rounds : Nat) (s : Scene L C E) :
    List (Act L E) → Verdict → Scene L C E → Prop
  -- It sees its token.
  | cancelled : d.watched.any s.world.flags.isCancelled = true →
      Ends d child rounds s
        [.emitted (d.warning rounds), .raised (.decorator d child) (.cancelled d.name)]
        (.error (.cancelled d.name)) (s.report (d.warning rounds))
  -- There is one more round, with a status at which it stops.
  | done {round : Round L E} {u} : round.Leads d.watched child s u →
      d.goesOn round.status = false →
      Ends d child rounds s (round.acts ++ [.emitted (.untilFailFinished rounds)])
        (.ok .success) (u.report (.untilFailFinished rounds))
  -- Its child returns a fault.
  | fault {acts fault t} : d.watched.any s.world.flags.isCancelled = false →
      (Task.node child).Runs s acts (.error fault) t →
      Ends d child rounds s acts (.error fault) t

/-- A loop goes through rounds as long as it goes on, and then it ends. -/
theorem Task.runs_loop_iff {d : Decorator} {child : Node L} {ticks : Nat} {s t : Scene L C E}
    {acts : List (Act L E)} {v : Verdict} :
    (Task.loop d child ticks).Runs s acts v t ↔
      ∃ rounds u last, InTurn (Round.Leads d.watched child) rounds s u ∧
        (∀ round ∈ rounds, d.goesOn round.status = true) ∧
        d.Ends child (ticks + rounds.length) u last v t ∧
        acts = rounds.flatMap Round.acts ++ last := by
  constructor
  · intro h
    generalize htask : Task.loop d child ticks = task at h
    -- The induction is on the rest of the course, which is a loop with one round more.
    induction h generalizing ticks <;> cases htask
    case loopCancelled.refl token s htoken hw =>
      have hc : d.watched.any s.world.flags.isCancelled = true :=
        (Option.any_eq_true _ _).2 ⟨token, hw, htoken⟩
      exact ⟨[], s, _, .nil, by simp, .cancelled hc, rfl⟩
    case loopNext.refl status s u t acts rest v hc hgo hn _ _ ih =>
      obtain ⟨rounds, m, last, hrounds, hall, hend, rfl⟩ := ih rfl
      refine ⟨⟨status, acts⟩ :: rounds, m, last, .cons ⟨hc, hn⟩ hrounds, ?_, ?_, ?_⟩
      · exact List.forall_mem_cons.2 ⟨hgo, hall⟩
      · rw [List.length_cons, Nat.add_comm rounds.length, ← Nat.add_assoc]
        exact hend
      · rw [List.flatMap_cons, List.append_assoc]
    case loopDone.refl status s u acts hc hgo hn _ =>
      have hround : Round.Leads d.watched child ⟨status, acts⟩ s u := ⟨hc, hn⟩
      exact ⟨[], s, _, .nil, by simp, .done hround hgo, rfl⟩
    case loopFault.refl s t acts fault hc hn _ =>
      exact ⟨[], s, _, .nil, by simp, .fault hc hn, rfl⟩
  · rintro ⟨rounds, u, last, hrounds, hall, hend, rfl⟩
    induction hrounds generalizing ticks with
    | nil =>
      cases hend with
      | cancelled hc =>
        obtain ⟨token, hw, htoken⟩ := (Option.any_eq_true _ _).1 hc
        exact .loopCancelled hw htoken
      | done hround hgo => exact .loopDone hround.clear hgo hround.runs
      | fault hc hn => exact .loopFault hc hn
    | @cons round rounds s m u hround _ ih =>
      obtain ⟨hgo, hall⟩ := List.forall_mem_cons.1 hall
      rw [List.length_cons, Nat.add_comm rounds.length, ← Nat.add_assoc] at hend
      rw [List.flatMap_cons, List.append_assoc]
      exact .loopNext hround.clear hgo hround.runs (ih hall hend)

/-- A node that is a loop is activated, goes through rounds as long as it goes on, and ends. -/
theorem Node.runs_loop_iff {d : Decorator} {child : Node L}
    (hd : (decorator d child).delegate? = some (.loop d child 0, id)) {s t : Scene L C E}
    {acts : List (Act L E)} {v : Verdict} :
    (Task.node (decorator d child)).Runs s acts v t ↔
      ∃ rounds u last, InTurn (Round.Leads d.watched child) rounds s u ∧
        (∀ round ∈ rounds, d.goesOn round.status = true) ∧
        d.Ends child rounds.length u last v t ∧
        acts = .entered (decorator d child) :: (rounds.flatMap Round.acts ++ last) := by
  rw [Task.runs_node_id_iff hd]
  simp only [Task.runs_loop_iff, Nat.zero_add]
  constructor
  · rintro ⟨_, ⟨rounds, u, last, hrounds, hall, hend, rfl⟩, rfl⟩
    exact ⟨rounds, u, last, hrounds, hall, hend, rfl⟩
  · rintro ⟨rounds, u, last, hrounds, hall, hend, rfl⟩
    exact ⟨_, ⟨rounds, u, last, hrounds, hall, hend, rfl⟩, rfl⟩

/-! ### Nodes in order -/

/-- One tick of a node among others: the node, the acts of its tick and what it returns. -/
structure Turn (L E : Type) where
  node : Node L
  acts : List (Act L E)
  verdict : Verdict

/-- A turn leads from one scene to the next. -/
def Turn.Leads (turn : Turn L E) (s u : Scene L C E) : Prop :=
  (Task.node turn.node).Runs s turn.acts turn.verdict u

theorem Task.runs_inOrder_nil_iff {goOn : Status} {s t : Scene L C E} {acts : List (Act L E)}
    {v : Verdict} :
    (Task.inOrder goOn ([] : List (Node L))).Runs s acts v t ↔
      acts = [] ∧ v = .ok goOn ∧ s = t := by
  constructor
  · intro h
    cases h
    exact ⟨rfl, rfl, rfl⟩
  · rintro ⟨rfl, rfl, rfl⟩
    exact .inOrderNil

theorem Task.runs_inOrder_cons_iff {goOn : Status} {n : Node L} {nodes : List (Node L)}
    {s t : Scene L C E} {acts : List (Act L E)} {v : Verdict} :
    (Task.inOrder goOn (n :: nodes)).Runs s acts v t ↔
      (∃ first u rest, (Task.node n).Runs s first (.ok goOn) u ∧
        (Task.inOrder goOn nodes).Runs u rest v t ∧ acts = first ++ rest) ∨
      v ≠ .ok goOn ∧ (Task.node n).Runs s acts v t := by
  constructor
  · intro h
    cases h with
    | inOrderNext hn hrest => exact .inl ⟨_, _, _, hn, hrest, rfl⟩
    | inOrderStop hv hn => exact .inr ⟨hv, hn⟩
  · rintro (⟨first, u, rest, hn, hrest, rfl⟩ | ⟨hv, hn⟩)
    · exact .inOrderNext hn hrest
    · exact .inOrderStop hv hn

/-- An only node decides. -/
theorem Task.runs_inOrder_singleton_iff {goOn : Status} {n : Node L} {s t : Scene L C E}
    {acts : List (Act L E)} {v : Verdict} :
    (Task.inOrder goOn [n]).Runs s acts v t ↔ (Task.node n).Runs s acts v t := by
  rw [runs_inOrder_cons_iff]
  simp only [runs_inOrder_nil_iff]
  constructor
  · rintro (⟨first, u, rest, hn, ⟨rfl, rfl, rfl⟩, rfl⟩ | ⟨-, hn⟩)
    · rwa [List.append_nil]
    · exact hn
  · intro hn
    by_cases hv : v = .ok goOn
    · subst hv
      exact .inl ⟨acts, t, [], hn, ⟨rfl, rfl, rfl⟩, (List.append_nil _).symm⟩
    · exact .inr ⟨hv, hn⟩

/-- These are the turns of nodes that are ticked in order until one returns something else than
`goOn`: the turns of the first nodes up to this one, or of all nodes if there is none. -/
def Turn.Settle (goOn : Status) (nodes : List (Node L)) (turns : List (Turn L E)) (v : Verdict) :
    Prop :=
  turns.map Turn.node <+: nodes ∧
    (v = .ok goOn ∧ turns.map Turn.verdict = List.replicate nodes.length (.ok goOn) ∨
      v ≠ .ok goOn ∧ ∃ k, turns.map Turn.verdict = List.replicate k (.ok goOn) ++ [v])

namespace Turn

variable {goOn : Status} {n : Node L} {nodes : List (Node L)} {turn : Turn L E}
  {turns : List (Turn L E)} {v : Verdict}

omit [Leaf L C E]

theorem settle_nil_iff : Settle goOn ([] : List (Node L)) turns v ↔ turns = [] ∧ v = .ok goOn := by
  constructor
  · intro ⟨hnodes, hverdicts⟩
    obtain rfl : turns = [] := by simpa using hnodes
    exact ⟨rfl, by simpa using hverdicts⟩
  · rintro ⟨rfl, rfl⟩
    exact ⟨List.nil_prefix, .inl ⟨rfl, rfl⟩⟩

theorem not_settle_cons_nil : ¬ Settle goOn (n :: nodes) ([] : List (Turn L E)) v := by
  simp [Settle]

/-- The first of the nodes has the first turn, and decides whether there is another one. -/
theorem settle_cons_cons_iff : Settle goOn (n :: nodes) (turn :: turns) v ↔
    turn.node = n ∧ (turn.verdict = .ok goOn ∧ Settle goOn nodes turns v ∨
      turn.verdict = v ∧ v ≠ .ok goOn ∧ turns = []) := by
  constructor
  · rintro ⟨hnodes, hverdicts⟩
    obtain ⟨hnode, hmore⟩ := List.cons_prefix_cons.1 hnodes
    refine ⟨hnode, ?_⟩
    rcases hverdicts with ⟨hv, hall⟩ | ⟨hv, k, hall⟩
    · obtain ⟨hgo, hall⟩ := List.cons.inj hall
      exact .inl ⟨hgo, hmore, .inl ⟨hv, hall⟩⟩
    · cases k with
      | zero =>
        obtain ⟨hstop, hnone⟩ := List.cons.inj hall
        exact .inr ⟨hstop, hv, List.map_eq_nil_iff.1 hnone⟩
      | succ k =>
        obtain ⟨hgo, hall⟩ := List.cons.inj hall
        exact .inl ⟨hgo, hmore, .inr ⟨hv, k, hall⟩⟩
  · rintro ⟨hnode, ⟨hgo, hmore, hverdicts⟩ | ⟨hstop, hv, rfl⟩⟩
    · refine ⟨List.cons_prefix_cons.2 ⟨hnode, hmore⟩, ?_⟩
      rw [List.map_cons, hgo]
      rcases hverdicts with ⟨hv, hall⟩ | ⟨hv, k, hall⟩
      · exact .inl ⟨hv, by rw [hall, List.length_cons, List.replicate_succ]⟩
      · exact .inr ⟨hv, k + 1, by rw [hall, List.replicate_succ, List.cons_append]⟩
    · refine ⟨List.cons_prefix_cons.2 ⟨hnode, List.nil_prefix⟩, .inr ⟨hv, 0, ?_⟩⟩
      rw [List.map_singleton, hstop]
      rfl

end Turn

/-- Nodes that are ticked in order have their turns, one after the other. -/
theorem Task.runs_inOrder_iff {goOn : Status} {nodes : List (Node L)} {s t : Scene L C E}
    {acts : List (Act L E)} {v : Verdict} :
    (Task.inOrder goOn nodes).Runs s acts v t ↔
      ∃ turns, InTurn Turn.Leads turns s t ∧ Turn.Settle goOn nodes turns v ∧
        acts = turns.flatMap Turn.acts := by
  induction nodes generalizing s acts with
  | nil =>
    simp only [runs_inOrder_nil_iff, Turn.settle_nil_iff]
    constructor
    · rintro ⟨rfl, rfl, rfl⟩
      exact ⟨[], .nil, ⟨rfl, rfl⟩, rfl⟩
    · rintro ⟨_, hturns, ⟨rfl, rfl⟩, rfl⟩
      exact ⟨rfl, rfl, InTurn.nil_iff.1 hturns⟩
  | cons n nodes ih =>
    rw [runs_inOrder_cons_iff]
    constructor
    · rintro (⟨first, u, rest, hn, hrest, rfl⟩ | ⟨hv, hn⟩)
      · obtain ⟨turns, hturns, hsettle, rfl⟩ := ih.1 hrest
        let turn : Turn L E := ⟨n, first, .ok goOn⟩
        have hturn : turn.Leads s u := hn
        exact ⟨turn :: turns, .cons hturn hturns,
          Turn.settle_cons_cons_iff.2 ⟨rfl, .inl ⟨rfl, hsettle⟩⟩, rfl⟩
      · let turn : Turn L E := ⟨n, acts, v⟩
        have hturn : turn.Leads s t := hn
        exact ⟨[turn], .cons hturn .nil,
          Turn.settle_cons_cons_iff.2 ⟨rfl, .inr ⟨rfl, hv, rfl⟩⟩, by simp [turn]⟩
    · rintro ⟨turns, hturns, hsettle, rfl⟩
      cases hturns with
      | nil => exact absurd hsettle Turn.not_settle_cons_nil
      | @cons turn rest s u t hturn hrest =>
        rw [List.flatMap_cons]
        rcases Turn.settle_cons_cons_iff.1 hsettle with ⟨rfl, ⟨hgo, hmore⟩ | ⟨rfl, hv, rfl⟩⟩
        · exact .inl ⟨_, u, _, hgo ▸ hturn, ih.2 ⟨rest, hrest, hmore, rfl⟩, rfl⟩
        · obtain rfl := InTurn.nil_iff.1 hrest
          rw [List.flatMap_nil, List.append_nil]
          exact .inr ⟨hv, hturn⟩

end TickTree
