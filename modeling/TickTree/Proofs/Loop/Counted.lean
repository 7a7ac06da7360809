import TickTree.Proofs.Algebra
import TickTree.Proofs.Loop.Forever

/-!
# Counted repetitions

A counted repetition ticks its child so many times, each time in the scene that the tick before it
left, and returns what the last tick returns. A fault is the only thing that ends it earlier. Other
nodes go through the same ticks of the child: the sequence of the child under a succeeder, once for
each tick but the last, and then the child itself; and a repetition of a repetition, which
multiplies the counts. They differ in the nodes that are activated around the ticks, which leave no
trace in the scene.

## Main definitions

* `Node.times`, `Node.unrolled`: a counted repetition and its sequence
* `Repeats`: ticks of a node that is ticked so many times
* `Node.RepeatsChild`: nodes that do nothing but tick another node so many times

## Main results

* `repeats_add_iff`: ticks of a node in two parts
* `Node.repeatsChild_times`, `Node.repeatsChild_unrolled`, `Node.repeatsChild_nested`: the nodes
  that go through the same ticks
* `Node.counted_repetition_unrolls`: they have the same answers after these ticks
-/

namespace TickTree

variable {L C E : Type}

namespace Node

/-- A repetition of a node for so many ticks. -/
abbrev times (count : Count) (child : Node L) : Node L := .decorator (.times count) child

/-- The sequence of a node, once for each tick. Only the last may fail. -/
def unrolled (count : Count) (child : Node L) : Node L :=
  .composite .sequence (List.replicate (count.val - 1) child.succeeder ++ [child])

end Node

/-- The count of a repetition that is repeated. -/
def Count.mul (m n : Count) : Count := ⟨m.val * n.val, Nat.mul_pos m.2 n.2⟩

variable [Leaf L C E]

/-! ### Ticks of one node -/

/-- A node is ticked again and again, `n` times unless it returns a fault. All ticks but the last
return a status, and the last one returns the verdict. -/
structure Repeats (child : Node L) (n : Nat) (turns : List (Turn L E)) (v : Verdict)
    (s t : Scene L C E) : Prop where
  /-- Each tick starts in the scene that the one before it left. -/
  inTurn : InTurn Turn.Leads turns s t
  node_eq : ∀ turn ∈ turns, turn.node = child
  verdicts : ∃ statuses : List Status, turns.map Turn.verdict = statuses.map .ok ++ [v]
  length_le : turns.length ≤ n
  /-- Without a fault no tick is missing. -/
  complete : ∀ status, v = .ok status → turns.length = n

section

variable {child : Node L} {n k : Nat} {turns : List (Turn L E)} {v : Verdict} {s t : Scene L C E}

theorem Repeats.ne_nil (h : Repeats child n turns v s t) : turns ≠ [] := by
  rintro rfl
  obtain ⟨statuses, hverdicts⟩ := h.verdicts
  simp at hverdicts

theorem not_repeats_zero : ¬ Repeats child 0 turns v s t := by
  intro h
  exact h.ne_nil (List.length_eq_zero_iff.1 (Nat.le_zero.1 h.length_le))

/-- The first tick is the last one, or it returns a status and the others follow. -/
theorem repeats_succ_iff : Repeats child (n + 1) turns v s t ↔
    (∃ acts, turns = [⟨child, acts, v⟩] ∧ (Task.node child).Runs s acts v t ∧
      (n = 0 ∨ ∃ fault, v = .error fault)) ∨
    ∃ acts status u rest, turns = ⟨child, acts, .ok status⟩ :: rest ∧
      (Task.node child).Runs s acts (.ok status) u ∧ Repeats child n rest v u t := by
  constructor
  · rintro ⟨hturns, hnode, ⟨statuses, hverdicts⟩, hle, hcomplete⟩
    cases hturns with
    | nil => simp at hverdicts
    | @cons turn rest s u t hturn hrest =>
      obtain ⟨node, acts, verdict⟩ := turn
      obtain ⟨rfl, hnode⟩ := List.forall_mem_cons.1 hnode
      cases statuses with
      | nil =>
        obtain ⟨rfl, hnone⟩ := List.cons.inj hverdicts
        obtain rfl := List.map_eq_nil_iff.1 hnone
        obtain rfl := InTurn.nil_iff.1 hrest
        refine .inl ⟨acts, rfl, hturn, ?_⟩
        cases verdict with
        | error fault => exact .inr ⟨fault, rfl⟩
        | ok status => simpa using (hcomplete status rfl).symm
      | cons status statuses =>
        obtain ⟨rfl, hafter⟩ := List.cons.inj hverdicts
        have hrepeats : Repeats node n rest v u t :=
          ⟨hrest, hnode, ⟨statuses, hafter⟩, by simpa using hle,
            fun status hv => by simpa using hcomplete status hv⟩
        exact .inr ⟨acts, status, u, rest, rfl, hturn, hrepeats⟩
  · rintro (⟨acts, rfl, hturn, hlast⟩ | ⟨acts, status, u, rest, rfl, hturn, hrest⟩)
    · have hlead : Turn.Leads ⟨child, acts, v⟩ s t := hturn
      refine ⟨.cons hlead .nil, by simp, ⟨[], rfl⟩, by simp, ?_⟩
      rintro status rfl
      rcases hlast with rfl | ⟨fault, hfault⟩
      · rfl
      · exact nomatch hfault
    · have hlead : Turn.Leads ⟨child, acts, .ok status⟩ s u := hturn
      obtain ⟨statuses, hverdicts⟩ := hrest.verdicts
      exact ⟨.cons hlead hrest.inTurn, List.forall_mem_cons.2 ⟨rfl, hrest.node_eq⟩,
        ⟨status :: statuses, by simp [hverdicts]⟩, by simpa using hrest.length_le,
        fun status hv => by simpa using hrest.complete status hv⟩

theorem repeats_one_iff : Repeats child 1 turns v s t ↔
    ∃ acts, turns = [⟨child, acts, v⟩] ∧ (Task.node child).Runs s acts v t := by
  simp [repeats_succ_iff, not_repeats_zero]

/-- The first `n` ticks end with a fault or are all there are, or the others follow. -/
theorem repeats_add_iff (hn : 0 < n) : Repeats child (n + k) turns v s t ↔
    (Repeats child n turns v s t ∧ (k = 0 ∨ ∃ fault, v = .error fault)) ∨
    ∃ first rest status u, turns = first ++ rest ∧ Repeats child n first (.ok status) s u ∧
      Repeats child k rest v u t := by
  obtain ⟨n, rfl⟩ : ∃ m, n = m + 1 := ⟨n - 1, (Nat.sub_add_cancel hn).symm⟩
  clear hn
  induction n generalizing turns s with
  | zero =>
    rw [Nat.zero_add, Nat.add_comm 1 k, repeats_succ_iff]
    simp only [repeats_one_iff]
    constructor
    · rintro (⟨acts, rfl, hturn, hlast⟩ | ⟨acts, status, u, rest, rfl, hturn, hrest⟩)
      · exact .inl ⟨⟨acts, rfl, hturn⟩, hlast⟩
      · exact .inr ⟨[_], rest, status, u, rfl, ⟨acts, rfl, hturn⟩, hrest⟩
    · rintro (⟨⟨acts, rfl, hturn⟩, hlast⟩ | ⟨_, rest, status, u, rfl, ⟨acts, rfl, hturn⟩, hrest⟩)
      · exact .inl ⟨acts, rfl, hturn, hlast⟩
      · exact .inr ⟨acts, status, u, rest, rfl, hturn, hrest⟩
  | succ n ih =>
    rw [Nat.add_right_comm (n + 1) 1 k]
    simp only [repeats_succ_iff (n := n + 1 + k), repeats_succ_iff (n := n + 1), ih]
    constructor
    · rintro (⟨acts, rfl, hturn, hlast⟩ | ⟨acts, status, u, _, rfl, hturn,
        ⟨hfirst, hlast⟩ | ⟨first, rest, status', u', rfl, hfirst, hrest⟩⟩)
      · have hfault := hlast.resolve_left (by omega)
        exact .inl ⟨.inl ⟨acts, rfl, hturn, .inr hfault⟩, .inr hfault⟩
      · exact .inl ⟨.inr ⟨acts, status, u, _, rfl, hturn, hfirst⟩, hlast⟩
      · exact .inr ⟨_ :: first, rest, status', u', rfl,
          .inr ⟨acts, status, u, first, rfl, hturn, hfirst⟩, hrest⟩
    · rintro (⟨⟨acts, rfl, hturn, hlast⟩ | ⟨acts, status, u, _, rfl, hturn, hfirst⟩, hend⟩ |
        ⟨_, rest, status', u', rfl, ⟨acts, rfl, hturn, hlast⟩ |
          ⟨acts, status, u, first, rfl, hturn, hfirst⟩, hrest⟩)
      · exact .inl ⟨acts, rfl, hturn, .inr (hlast.resolve_left (by omega))⟩
      · exact .inr ⟨acts, status, u, _, rfl, hturn, .inl ⟨hfirst, hend⟩⟩
      · -- No status ends the first ticks early.
        obtain ⟨fault, hfault⟩ := hlast.resolve_left (by omega)
        exact nomatch hfault
      · exact .inr ⟨acts, status, u, _, rfl, hturn,
          .inr ⟨first, rest, status', u', rfl, hfirst, hrest⟩⟩

/-- A status is returned exactly if there are all ticks and each of them returns one. -/
theorem repeats_ok_iff {status : Status} : Repeats child n turns (.ok status) s t ↔
    InTurn Turn.Leads turns s t ∧ turns.map Turn.node = List.replicate n child ∧
      ∃ statuses : List Status, turns.map Turn.verdict = (statuses ++ [status]).map .ok := by
  simp only [List.map_append, List.map_singleton]
  constructor
  · intro h
    have hcount := h.complete status rfl
    refine ⟨h.inTurn, ?_, h.verdicts⟩
    rw [← hcount]
    exact List.map_eq_replicate_iff.2 h.node_eq
  · rintro ⟨hturns, hnodes, hverdicts⟩
    have hcount : turns.length = n := by simpa using congrArg List.length hnodes
    rw [← hcount] at hnodes ⊢
    exact ⟨hturns, List.map_eq_replicate_iff.1 hnodes, hverdicts, Nat.le_refl _, fun _ _ => rfl⟩

end

/-! ### What happens around the ticks -/

namespace Turn

/-- The acts of ticks, with acts that come before each of them by its place. -/
def framed (before : Nat → List (Act L E)) (turns : List (Turn L E)) : List (Act L E) :=
  (turns.mapIdx fun i turn => before i ++ turn.acts).flatten

omit [Leaf L C E]

variable {before : Nat → List (Act L E)} {turn : Turn L E} {turns more : List (Turn L E)}

theorem framed_nil : framed before [] = [] := rfl

theorem framed_cons :
    framed before (turn :: turns) = before 0 ++ turn.acts ++ framed (before <| · + 1) turns := by
  simp [framed, List.mapIdx_cons]

theorem framed_append : framed before (turns ++ more) =
    framed before turns ++ framed (before <| · + turns.length) more := by
  simp [framed, List.mapIdx_append]

/-- With nothing before them there are only the acts of the ticks. -/
theorem framed_eq_flatMap (h : ∀ i < turns.length, before i = []) :
    framed before turns = turns.flatMap acts := by
  induction turns generalizing before with
  | nil => rfl
  | cons turn turns ih =>
    have hfirst := h 0 (Nat.zero_lt_succ _)
    rw [framed_cons, hfirst, ih fun i hi => h (i + 1) (Nat.succ_lt_succ hi)]
    rfl

/-- An act before every `n`-th tick comes once before the first `n` ticks. -/
theorem framed_block {n : Nat} (act : Act L E) (hsome : turns ≠ []) (hle : turns.length ≤ n) :
    framed (fun i => if n ∣ i then [act] else []) turns = act :: turns.flatMap acts := by
  cases turns with
  | nil => exact absurd rfl hsome
  | cons turn turns =>
    have hlater : ∀ i < turns.length, (if n ∣ i + 1 then [act] else []) = [] := by
      intro i hi
      rw [List.length_cons] at hle
      exact if_neg (Nat.not_dvd_of_pos_of_lt (Nat.succ_pos i) (by omega))
    rw [framed_cons, if_pos (Nat.dvd_zero n), framed_eq_flatMap hlater]
    rfl

end Turn

namespace Task

variable {child : Node L} {n k : Nat} {last : Status} {s t : Scene L C E} {acts : List (Act L E)}
  {v : Verdict}

theorem runs_again_zero_iff : (again child 0 last).Runs s acts v t ↔
    acts = [] ∧ v = .ok last ∧ s = t := by
  constructor
  · intro h
    cases h
    exact ⟨rfl, rfl, rfl⟩
  · rintro ⟨rfl, rfl, rfl⟩
    exact .againNil

theorem runs_again_succ_iff : (again child (n + 1) last).Runs s acts v t ↔
    (∃ first status u rest, (node child).Runs s first (.ok status) u ∧
      (again child n status).Runs u rest v t ∧ acts = first ++ rest) ∨
    ∃ fault, v = .error fault ∧ (node child).Runs s acts (.error fault) t := by
  constructor
  · intro h
    cases h with
    | againNext hn hrest => exact .inl ⟨_, _, _, _, hn, hrest, rfl⟩
    | againFault hn => exact .inr ⟨_, rfl, hn⟩
  · rintro (⟨first, status, u, rest, hn, hrest, rfl⟩ | ⟨fault, rfl, hn⟩)
    · exact .againNext hn hrest
    · exact .againFault hn

/-- A repetition that is not yet through ticks its child for the rest of the times. -/
theorem runs_again_iff : (again child n last).Runs s acts v t ↔
    (n = 0 ∧ acts = [] ∧ v = .ok last ∧ s = t) ∨
      ∃ turns, Repeats child n turns v s t ∧ acts = turns.flatMap Turn.acts := by
  induction n generalizing last s acts with
  | zero => simp [runs_again_zero_iff, not_repeats_zero]
  | succ n ih =>
    rw [runs_again_succ_iff]
    simp only [ih, repeats_succ_iff]
    constructor
    · rintro (⟨first, status, u, rest, hn, ⟨rfl, rfl, rfl, rfl⟩ | ⟨turns, hturns, rfl⟩, rfl⟩ |
        ⟨fault, rfl, hn⟩)
      · exact .inr ⟨_, .inl ⟨first, rfl, hn, .inl rfl⟩, by simp⟩
      · exact .inr ⟨_, .inr ⟨first, status, u, turns, rfl, hn, hturns⟩, by simp⟩
      · exact .inr ⟨_, .inl ⟨acts, rfl, hn, .inr ⟨fault, rfl⟩⟩, by simp⟩
    · rintro (⟨hzero, -⟩ | ⟨turns, ⟨first, rfl, hn, hlast⟩ |
        ⟨first, status, u, rest, rfl, hn, hrest⟩, rfl⟩)
      · exact nomatch hzero
      · rw [List.flatMap_singleton]
        cases v with
        | error fault => exact .inr ⟨fault, rfl, hn⟩
        | ok status =>
          obtain rfl : n = 0 := by simpa using hlast
          exact .inl ⟨first, status, t, [], hn, .inl ⟨rfl, rfl, rfl, rfl⟩, by simp⟩
      · exact .inl ⟨first, status, u, _, hn, .inr ⟨rest, hrest, rfl⟩, List.flatMap_cons⟩

end Task

namespace Node

/-- What a node does is to tick another one so many times, unless that returns a fault. Apart from
its own activation, there are only the acts that come before each tick. -/
def RepeatsChild (C : Type) {E : Type} [Leaf L C E] (n : Node L) (child : Node L) (count : Nat)
    (before : Nat → List (Act L E)) : Prop :=
  ∀ (s : Scene L C E) acts v t, (Task.node n).Runs s acts v t ↔
    ∃ turns, Repeats child count turns v s t ∧ acts = .entered n :: Turn.framed before turns

variable {m n : Count} {child : Node L}

/-- Whatever comes before the ticks, they decide the answer. -/
theorem RepeatsChild.sameAnswers {node node' : Node L} {count : Nat}
    {before before' : Nat → List (Act L E)} (h : RepeatsChild C node child count before)
    (h' : RepeatsChild C node' child count before') : SameAnswers C node node' := by
  intro s v t
  rw [answers_iff_exists_runs, answers_iff_exists_runs]
  constructor
  · rintro ⟨acts, hacts⟩
    obtain ⟨turns, hturns, -⟩ := (h s acts v t).1 hacts
    exact ⟨_, (h' s _ v t).2 ⟨turns, hturns, rfl⟩⟩
  · rintro ⟨acts, hacts⟩
    obtain ⟨turns, hturns, -⟩ := (h' s acts v t).1 hacts
    exact ⟨_, (h s _ v t).2 ⟨turns, hturns, rfl⟩⟩

/-- Whatever comes before the ticks, it is a matter of the task that the node hands its work to. -/
theorem RepeatsChild.of_delegate? {node : Node L} {task : Task L} {count : Nat}
    {before : Nat → List (Act L E)} (hn : node.delegate? = some (task, id))
    (h : ∀ (s : Scene L C E) acts v t, task.Runs s acts v t ↔
      ∃ turns, Repeats child count turns v s t ∧ acts = Turn.framed before turns) :
    RepeatsChild C node child count before := by
  intro s acts v t
  rw [Task.runs_node_id_iff hn]
  simp only [h]
  constructor
  · rintro ⟨_, ⟨turns, hturns, rfl⟩, rfl⟩
    exact ⟨turns, hturns, rfl⟩
  · rintro ⟨turns, hturns, rfl⟩
    exact ⟨_, ⟨turns, hturns, rfl⟩, rfl⟩

/-- Nothing happens between the ticks of a counted repetition. -/
theorem repeatsChild_times :
    RepeatsChild C (times n child) child n.val fun _ => ([] : List (Act L E)) := by
  apply RepeatsChild.of_delegate? rfl
  intro s acts v t
  have hpos : n.val ≠ 0 := Nat.ne_of_gt n.2
  simp only [Task.runs_again_iff, hpos, false_and, false_or,
    Turn.framed_eq_flatMap fun _ _ => rfl]

end Node

/-- In the sequence, all ticks but the last are ticks of a succeeder, which stops for nothing but a
fault. -/
theorem Task.runs_unrolled_iff {child : Node L} {k : Nat} {s t : Scene L C E}
    {acts : List (Act L E)} {v : Verdict} :
    (inOrder .success (List.replicate k child.succeeder ++ [child])).Runs s acts v t ↔
      ∃ turns, Repeats child (k + 1) turns v s t ∧
        acts = Turn.framed (fun i => if i < k then [.entered child.succeeder] else []) turns := by
  induction k generalizing s acts with
  | zero =>
    simp only [List.replicate_zero, List.nil_append, runs_inOrder_singleton_iff, Nat.zero_add,
      repeats_one_iff]
    constructor
    · intro hn
      exact ⟨_, ⟨acts, rfl, hn⟩, by simp [Turn.framed_cons, Turn.framed_nil]⟩
    · rintro ⟨_, ⟨acts, rfl, hn⟩, rfl⟩
      simpa [Turn.framed_cons, Turn.framed_nil] using hn
  | succ k ih =>
    rw [List.replicate_succ, List.cons_append, runs_inOrder_cons_iff]
    simp only [ih, runs_node_iff (n := child.succeeder) rfl, repeats_succ_iff (n := k + 1)]
    constructor
    · rintro (⟨_, u, _, ⟨first, v', hn, rfl, hv'⟩, ⟨turns, hturns, rfl⟩, rfl⟩ |
        ⟨hv, first, v', hn, rfl, rfl⟩)
      · cases v' with
        | error fault => exact nomatch hv'
        | ok status =>
          refine ⟨_, .inr ⟨first, status, u, turns, rfl, hn, hturns⟩, ?_⟩
          simp [Turn.framed_cons]
      · cases v' with
        | error fault =>
          refine ⟨_, .inl ⟨first, rfl, hn, .inr ⟨fault, rfl⟩⟩, ?_⟩
          simp [Turn.framed_cons, Turn.framed_nil]
        | ok status => exact absurd rfl hv
    · rintro ⟨_, ⟨first, rfl, hn, hlast⟩ | ⟨first, status, u, rest, rfl, hn, hrest⟩, rfl⟩
      · obtain ⟨fault, rfl⟩ := hlast.resolve_left (Nat.succ_ne_zero k)
        refine .inr ⟨by simp, first, _, hn, ?_, rfl⟩
        simp [Turn.framed_cons, Turn.framed_nil]
      · refine .inl ⟨_, u, _, ⟨first, _, hn, rfl, rfl⟩, ⟨rest, hrest, rfl⟩, ?_⟩
        simp [Turn.framed_cons]

/-- Each tick of the inner repetition is a block of ticks of its child. -/
theorem Task.runs_again_times_iff {child : Node L} {n : Count} {m : Nat} {last : Status}
    {s t : Scene L C E} {acts : List (Act L E)} {v : Verdict} :
    (again (child.times n) m last).Runs s acts v t ↔
      (m = 0 ∧ acts = [] ∧ v = .ok last ∧ s = t) ∨
        ∃ turns, Repeats child (n.val * m) turns v s t ∧ acts =
          Turn.framed (fun i => if n.val ∣ i then [.entered (child.times n)] else []) turns := by
  have hblock {turns : List (Turn L E)} {v : Verdict} {s t : Scene L C E}
      (h : Repeats child n.val turns v s t) :
      .entered (child.times n) :: Turn.framed (fun _ => []) turns =
        Turn.framed (fun i => if n.val ∣ i then [.entered (child.times n)] else []) turns := by
    rw [Turn.framed_block _ h.ne_nil h.length_le, Turn.framed_eq_flatMap fun _ _ => rfl]
  have hshift (i : Nat) : n.val ∣ i + n.val ↔ n.val ∣ i :=
    (Nat.dvd_add_iff_left (Nat.dvd_refl _)).symm
  induction m generalizing last s acts with
  | zero => simp [runs_again_zero_iff, not_repeats_zero]
  | succ m ih =>
    rw [runs_again_succ_iff, Nat.mul_succ, Nat.add_comm (n.val * m)]
    simp only [ih, Node.repeatsChild_times _ _ _ _, repeats_add_iff n.2]
    constructor
    · rintro (⟨_, status, u, _, ⟨first, hfirst, rfl⟩,
        ⟨rfl, rfl, rfl, rfl⟩ | ⟨rest, hrest, rfl⟩, rfl⟩ | ⟨fault, rfl, first, hfirst, rfl⟩)
      · refine .inr ⟨first, .inl ⟨hfirst, .inl (Nat.mul_zero _)⟩, ?_⟩
        rw [List.append_nil, hblock hfirst]
      · refine .inr ⟨_, .inr ⟨first, rest, status, u, rfl, hfirst, hrest⟩, ?_⟩
        have hcount := hfirst.complete status rfl
        simp only [Turn.framed_append, hcount, hshift, hblock hfirst]
      · exact .inr ⟨first, .inl ⟨hfirst, .inr ⟨fault, rfl⟩⟩, hblock hfirst⟩
    · rintro (⟨hzero, -⟩ | ⟨_, ⟨hfirst, hlast⟩ | ⟨first, rest, status, u, rfl, hfirst, hrest⟩, rfl⟩)
      · exact nomatch hzero
      · cases v with
        | error fault => exact .inr ⟨fault, rfl, _, hfirst, (hblock hfirst).symm⟩
        | ok status =>
          have hnone : n.val * m = 0 := by simpa using hlast
          obtain rfl := (Nat.mul_eq_zero.1 hnone).resolve_left (Nat.ne_of_gt n.2)
          refine .inl ⟨_, status, t, [], ⟨_, hfirst, rfl⟩, .inl ⟨rfl, rfl, rfl, rfl⟩, ?_⟩
          rw [List.append_nil, hblock hfirst]
      · refine .inl ⟨_, status, u, _, ⟨first, hfirst, rfl⟩, .inr ⟨rest, hrest, rfl⟩, ?_⟩
        have hcount := hfirst.complete status rfl
        simp only [Turn.framed_append, hcount, hshift, hblock hfirst]

namespace Node

variable {m n : Count} {child : Node L}

/-- Before each tick but the last, the sequence activates a succeeder. -/
theorem repeatsChild_unrolled : RepeatsChild C (unrolled n child) child n.val fun i =>
    if i + 1 < n.val then [(.entered child.succeeder : Act L E)] else [] := by
  apply RepeatsChild.of_delegate? rfl
  intro s acts v t
  have hplaces : n.val - 1 + 1 = n.val := Nat.sub_add_cancel n.2
  simp only [Task.runs_unrolled_iff, hplaces, Nat.lt_sub_iff_add_lt]

/-- Before every `n`-th tick, the outer repetition activates the inner one. -/
theorem repeatsChild_nested :
    RepeatsChild C (times m (times n child)) child (m.mul n).val fun i =>
      if n.val ∣ i then [(.entered (times n child) : Act L E)] else [] := by
  apply RepeatsChild.of_delegate? rfl
  intro s acts v t
  have hpos : m.val ≠ 0 := Nat.ne_of_gt m.2
  simp only [Task.runs_again_times_iff, hpos, false_and, false_or, Count.mul, Nat.mul_comm m.val]

/-- Counted repetition unrolls and multiplies. A repetition of `n` ticks and the sequence of `n`
places, of which all but the last are under a succeeder, have the same answers, and so do `m`
repetitions of `n` ticks and one of `m * n`. They go through the same ticks of the child, one for
each time unless the child returns a fault, and return what the last of them returns. Apart from
these ticks there are only the activations of the nodes around them. A status is returned exactly if
all ticks return one, and it is that of the last. The ticks are those that show in courses, and a
node, with its child or on its own, returns exactly what it has a course for. -/
theorem counted_repetition_unrolls (m n : Count) (child : Node L) :
    (∀ (node : Node L) (s t : Scene L C E) v,
      node.Answers s v t ↔ ∃ acts, (Task.node node).Runs s acts v t) ∧
    SameAnswers C (times n child) (unrolled n child) ∧
    SameAnswers C (times m (times n child)) (times (m.mul n) child) ∧
    RepeatsChild C (times n child) child n.val (fun _ => ([] : List (Act L E))) ∧
    RepeatsChild C (unrolled n child) child n.val (fun i =>
      if i + 1 < n.val then [(.entered child.succeeder : Act L E)] else []) ∧
    RepeatsChild C (times m (times n child)) child (m.val * n.val) (fun i =>
      if n.val ∣ i then [(.entered (times n child) : Act L E)] else []) ∧
    RepeatsChild C (times (m.mul n) child) child (m.val * n.val)
      (fun _ => ([] : List (Act L E))) ∧
    ∀ (s : Scene L C E) turns status t, Repeats child n.val turns (.ok status) s t ↔
      InTurn Turn.Leads turns s t ∧ turns.map Turn.node = List.replicate n.val child ∧
        ∃ statuses : List Status, turns.map Turn.verdict = (statuses ++ [status]).map .ok :=
  ⟨fun _ _ _ _ => answers_iff_exists_runs, repeatsChild_times.sameAnswers repeatsChild_unrolled,
    repeatsChild_nested.sameAnswers repeatsChild_times, repeatsChild_times, repeatsChild_unrolled,
    repeatsChild_nested, repeatsChild_times, fun _ _ _ _ => repeats_ok_iff⟩

end Node

end TickTree
