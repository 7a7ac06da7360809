import TickTree.Proofs.InTurn

/-!
# Repeating until failure

A repetition until failure looks at its token and ticks its child, again and again. From a scene on,
the ticks of the child follow one another, each in the scene that the one before it left, and they
decide what the repetition does: after some number of successes the child fails, the token is seen,
or the child returns a fault or does not return. If none of this ever happens, the repetition does
not return either. The token counts only when it is looked at, before a tick of the child. What it
was during a tick makes no difference.

The number of successes has no bound here. A number that is kept in 64 bits is the same as long as
it is below `2 ^ 64`, and only such numbers are meant.

## Main definitions

* `Node.untilFail`: a repetition of a node until it fails
* `Rounds`: ticks of a child with given statuses, each after a look at the token
* `UntilFail.Finishes`, `UntilFail.Cancelled`, `UntilFail.Faults`: how a repetition ends
* `UntilFail.Hangs`, `UntilFail.Succeeds`: how it does not

## Main results

* `Node.runs_untilFail_iff`: a course is a number of successful rounds and an end
* `Node.untilFail_is_decided_by_ticks`: each end, with the rounds that lead to it
-/

namespace TickTree

variable {L C E : Type}

/-- A repetition of a node until it fails. -/
abbrev Node.untilFail (token : Option Token) (child : Node L) : Node L :=
  .decorator (.untilFail token) child

variable [Leaf L C E]

/-- The child of a loop is ticked once for each of the statuses, in this order, and returns them.
Before each tick the token is clear. -/
def Rounds (token : Option Token) (child : Node L) (statuses : List Status) (s : Scene L C E)
    (acts : List (Act L E)) (u : Scene L C E) : Prop :=
  ∃ rounds, InTurn (Round.Leads token child) rounds s u ∧
    rounds.map Round.status = statuses ∧ rounds.flatMap Round.acts = acts

namespace Rounds

variable {token : Option Token} {child : Node L} {status : Status}
  {statuses statuses' : List Status} {s t u : Scene L C E} {acts acts' : List (Act L E)}

theorem nil_iff : Rounds token child [] s acts u ↔ acts = [] ∧ s = u := by
  constructor
  · rintro ⟨rounds, hrounds, hstatuses, rfl⟩
    obtain rfl := List.map_eq_nil_iff.1 hstatuses
    exact ⟨rfl, InTurn.nil_iff.1 hrounds⟩
  · rintro ⟨rfl, rfl⟩
    exact ⟨[], .nil, rfl, rfl⟩

/-- The last round starts where the others lead to. -/
theorem concat_iff : Rounds token child (statuses ++ [status]) s acts t ↔
    ∃ before u last, Rounds token child statuses s before u ∧
      Round.Leads token child ⟨status, last⟩ u t ∧ acts = before ++ last := by
  constructor
  · rintro ⟨rounds, hrounds, hstatuses, rfl⟩
    obtain ⟨before, lasts, rfl, rfl, hlast⟩ := List.map_eq_append_iff.1 hstatuses
    obtain ⟨last, rfl, rfl⟩ := List.map_eq_singleton_iff.1 hlast
    obtain ⟨u, hbefore, hlast⟩ := InTurn.concat_iff.1 hrounds
    exact ⟨_, u, last.acts, ⟨before, hbefore, rfl, rfl⟩, hlast, by simp⟩
  · rintro ⟨_, u, last, ⟨rounds, hrounds, rfl, rfl⟩, hlast, rfl⟩
    exact ⟨rounds ++ [⟨status, last⟩], InTurn.concat_iff.2 ⟨u, hrounds, hlast⟩, by simp, by simp⟩

/-- The rounds from a scene are determined: the longer list of them continues the shorter. -/
theorem extends_of_length_le (h : Rounds token child statuses s acts u)
    (h' : Rounds token child statuses' s acts' t) (hlength : statuses.length ≤ statuses'.length) :
    ∃ more rest, statuses' = statuses ++ more ∧ Rounds token child more u rest t := by
  obtain ⟨rounds, hrounds, rfl, rfl⟩ := h
  obtain ⟨rounds', hrounds', rfl, rfl⟩ := h'
  rw [List.length_map, List.length_map] at hlength
  obtain ⟨rest, rfl, hrest⟩ := hrounds.extends_of_length_le
    (fun hround hround' => hround.unique hround') hrounds' hlength
  exact ⟨_, _, List.map_append, rest, hrest, rfl, rfl⟩

/-- The other rounds start where the first one leads to. -/
theorem cons_iff : Rounds token child (status :: statuses) s acts t ↔
    ∃ first u rest, Round.Leads token child ⟨status, first⟩ s u ∧
      Rounds token child statuses u rest t ∧ acts = first ++ rest := by
  constructor
  · rintro ⟨rounds, hrounds, hstatuses, rfl⟩
    obtain ⟨round, more, rfl, rfl, hmore⟩ := List.map_eq_cons_iff.1 hstatuses
    obtain ⟨u, hround, hrest⟩ := InTurn.cons_iff.1 hrounds
    exact ⟨round.acts, u, _, hround, ⟨more, hrest, hmore, rfl⟩, List.flatMap_cons⟩
  · rintro ⟨first, u, _, hfirst, ⟨rounds, hrounds, rfl, rfl⟩, rfl⟩
    exact ⟨⟨status, first⟩ :: rounds, .cons hfirst hrounds, rfl, List.flatMap_cons⟩

/-- The first round starts in the scene in which all of them start. -/
theorem exists_leads (h : Rounds token child (status :: statuses) s acts t) :
    ∃ first u, Round.Leads token child ⟨status, first⟩ s u := by
  obtain ⟨first, u, -, hfirst, -, -⟩ := cons_iff.1 h
  exact ⟨first, u, hfirst⟩

/-- A loop raises no fault of its own in its rounds. -/
theorem raised_notMem (h : Rounds token child statuses s acts u) (d : Decorator) (fault : Fault) :
    .raised (.decorator d child) fault ∉ acts := by
  obtain ⟨rounds, hrounds, rfl, rfl⟩ := h
  induction hrounds with
  | nil => simp
  | cons hround _ ih =>
    rw [List.flatMap_cons, List.mem_append, not_or]
    exact ⟨hround.runs.raised_decorator_notMem fault, ih⟩

end Rounds

/-! ### How a repetition ends -/

namespace Decorator

variable {token : Option Token} {child : Node L} {status : Status}

@[simp] theorem goesOn_untilFail : (untilFail token).goesOn status = true ↔ status = .success := by
  cases status <;> simp [goesOn, Status.isSuccess]

@[simp] theorem goesOn_untilFail_eq_false :
    (untilFail token).goesOn status = false ↔ status = .failure := by
  cases status <;> simp [goesOn, Status.isSuccess]

variable {k : Nat} {s t u : Scene L C E} {last : List (Act L E)} {v : Verdict}

/-- Where a repetition ends, the child does not succeed once more. -/
theorem Ends.not_leads_success (h : (untilFail token).Ends child k s last v t)
    (acts : List (Act L E)) : ¬ Round.Leads token child ⟨.success, acts⟩ s u := by
  intro hround
  cases h with
  | cancelled hc => exact nomatch hround.clear.symm.trans hc
  | done hround' hgo =>
    rw [← (hround.unique hround').1] at hgo
    exact nomatch hgo
  | fault _ hn => exact nomatch (hround.runs.unique hn).2.1

/-- Where a repetition ends with the token clear, the child returns. -/
theorem Ends.exists_answers (h : (untilFail token).Ends child k s last v t)
    (hclear : token.any s.world.flags.isCancelled = false) :
    ∃ v' u, child.Answers s v' u := by
  cases h with
  | cancelled hc => exact nomatch hclear.symm.trans hc
  | done hround _ => exact ⟨_, _, hround.runs.answers⟩
  | fault _ hn => exact ⟨_, _, hn.answers⟩

end Decorator

/-- There are no more successes than those before the end. -/
theorem Rounds.le_of_ends {token : Option Token} {child : Node L} {k n : Nat}
    {s m t u : Scene L C E} {acts acts' last : List (Act L E)} {v : Verdict}
    (h : Rounds token child (List.replicate n .success) s acts m)
    (hend : (Decorator.untilFail token).Ends child n m last v t)
    (h' : Rounds token child (List.replicate k .success) s acts' u) : k ≤ n := by
  apply Nat.le_of_not_lt
  intro hlt
  obtain ⟨more, rest, hmore, hrest⟩ := h.extends_of_length_le h' (by simpa using Nat.le_of_lt hlt)
  cases more with
  | nil =>
    have hlength : k = n := by simpa using congrArg List.length hmore
    omega
  | cons status more =>
    have hmem : status ∈ List.replicate k Status.success := by simp [hmore]
    obtain ⟨first, u', hfirst⟩ := hrest.exists_leads
    rw [List.eq_of_mem_replicate hmem] at hfirst
    exact hend.not_leads_success first hfirst

/-- After `k` successes the child fails. The repetition reports `k`, and does nothing after that. -/
def UntilFail.Finishes (token : Option Token) (child : Node L) (k : Nat) (s : Scene L C E)
    (acts : List (Act L E)) (t : Scene L C E) : Prop :=
  ∃ ticks u, Rounds token child (List.replicate k .success ++ [.failure]) s ticks u ∧
    acts = .entered (.untilFail token child) :: (ticks ++ [.emitted (.untilFailFinished k)]) ∧
    t = u.report (.untilFailFinished k)

/-- After `k` successes the token is seen. The repetition warns, and raises a fault. -/
def UntilFail.Cancelled (token : Option Token) (child : Node L) (k : Nat) (s : Scene L C E)
    (acts : List (Act L E)) (fault : Fault) (t : Scene L C E) : Prop :=
  ∃ ticks u, Rounds token child (List.replicate k .success) s ticks u ∧
    token.any u.world.flags.isCancelled = true ∧ fault = .cancelled "RepeatUntilFail" ∧
    acts = .entered (.untilFail token child) :: (ticks ++ [.emitted (.untilFailCancelled k),
      .raised (.untilFail token child) fault]) ∧
    t = u.report (.untilFailCancelled k)

/-- After `k` successes the child returns a fault, in the scene in which the repetition ends. -/
def UntilFail.Faults (token : Option Token) (child : Node L) (k : Nat) (s : Scene L C E)
    (acts : List (Act L E)) (fault : Fault) (t : Scene L C E) : Prop :=
  ∃ ticks u last, Rounds token child (List.replicate k .success) s ticks u ∧
    token.any u.world.flags.isCancelled = false ∧
    (Task.node child).Runs u last (.error fault) t ∧
    acts = .entered (.untilFail token child) :: (ticks ++ last)

/-- After `k` successes the child does not return. -/
def UntilFail.Hangs (token : Option Token) (child : Node L) (k : Nat) (s : Scene L C E) : Prop :=
  ∃ ticks u, Rounds token child (List.replicate k .success) s ticks u ∧
    token.any u.world.flags.isCancelled = false ∧ ∀ v t, ¬ child.Answers u v t

/-- After any number of successes the token is clear and the child succeeds once more. -/
def UntilFail.Succeeds (token : Option Token) (child : Node L) (s : Scene L C E) : Prop :=
  ∀ k, ∃ ticks u, Rounds token child (List.replicate k .success) s ticks u

namespace Node

variable {token : Option Token} {child : Node L} {s t : Scene L C E} {acts : List (Act L E)}
  {v : Verdict}

/-- A repetition until failure goes through successful rounds, and then it ends. -/
theorem runs_untilFail_iff : (Task.node (untilFail token child)).Runs s acts v t ↔
    ∃ k ticks u last, Rounds token child (List.replicate k .success) s ticks u ∧
      (Decorator.untilFail token).Ends child k u last v t ∧
      acts = .entered (untilFail token child) :: (ticks ++ last) := by
  rw [runs_loop_iff rfl]
  simp only [Decorator.goesOn_untilFail]
  constructor
  · rintro ⟨rounds, u, last, hrounds, hall, hend, rfl⟩
    have hstatuses : rounds.map Round.status = List.replicate rounds.length .success :=
      List.map_eq_replicate_iff.2 hall
    exact ⟨_, _, u, last, ⟨rounds, hrounds, hstatuses, rfl⟩, hend, rfl⟩
  · rintro ⟨k, _, u, last, ⟨rounds, hrounds, hstatuses, rfl⟩, hend, rfl⟩
    have hlength : rounds.length = k := by simpa using congrArg List.length hstatuses
    subst hlength
    exact ⟨rounds, u, last, hrounds, List.map_eq_replicate_iff.1 hstatuses, hend, rfl⟩

/-- A repetition returns a status exactly if its child fails after some number of successes. -/
theorem runs_untilFail_ok_iff {status : Status} :
    (Task.node (untilFail token child)).Runs s acts (.ok status) t ↔
      status = .success ∧ ∃ k, UntilFail.Finishes token child k s acts t := by
  rw [runs_untilFail_iff]
  constructor
  · rintro ⟨k, ticks, u, last, hticks, hend, rfl⟩
    cases hend with
    | @done round u' hround hgo =>
      have hfailure : round.status = .failure := Decorator.goesOn_untilFail_eq_false.1 hgo
      have hlast : Round.Leads token child ⟨.failure, round.acts⟩ u u' := by
        rw [← hfailure]
        exact hround
      have hticks' := Rounds.concat_iff.2 ⟨ticks, u, round.acts, hticks, hlast, rfl⟩
      exact ⟨rfl, k, _, u', hticks', by rw [List.append_assoc], rfl⟩
  · rintro ⟨rfl, k, _, u', hticks, rfl, rfl⟩
    obtain ⟨before, u, last, hbefore, hlast, rfl⟩ := Rounds.concat_iff.1 hticks
    exact ⟨k, before, u, _, hbefore, .done hlast rfl, by rw [List.append_assoc]⟩

/-- A repetition raises a fault of its own exactly if its token is seen after some number of
successes. -/
theorem runs_untilFail_raised_iff {fault : Fault} :
    (Task.node (untilFail token child)).Runs s acts v t ∧
        .raised (untilFail token child) fault ∈ acts ↔
      v = .error fault ∧ ∃ k, UntilFail.Cancelled token child k s acts fault t := by
  rw [runs_untilFail_iff]
  constructor
  · rintro ⟨⟨k, ticks, u, last, hticks, hend, rfl⟩, hraised⟩
    -- The rounds raise no fault of the repetition, so it is raised at the end.
    have hlast : .raised (untilFail token child) fault ∈ last := by
      simpa [hticks.raised_notMem] using hraised
    cases hend with
    | cancelled hc =>
      obtain rfl : fault = .cancelled "RepeatUntilFail" := by simpa [Decorator.name] using hlast
      exact ⟨rfl, k, ticks, u, hticks, hc, rfl, rfl, rfl⟩
    | done hround _ => exact absurd hlast (by simp [hround.runs.raised_decorator_notMem])
    | fault _ hn => exact absurd hlast (hn.raised_decorator_notMem fault)
  · rintro ⟨rfl, k, ticks, u, hticks, hc, rfl, rfl, rfl⟩
    exact ⟨⟨k, ticks, u, _, hticks, .cancelled hc, rfl⟩, by simp⟩

/-- A repetition returns a fault that it does not raise exactly if its child returns this fault
after some number of successes. -/
theorem runs_untilFail_error_iff {fault : Fault} :
    (Task.node (untilFail token child)).Runs s acts (.error fault) t ∧
        .raised (untilFail token child) fault ∉ acts ↔
      ∃ k, UntilFail.Faults token child k s acts fault t := by
  rw [runs_untilFail_iff]
  constructor
  · rintro ⟨⟨k, ticks, u, last, hticks, hend, rfl⟩, hquiet⟩
    cases hend with
    | cancelled _ => exact absurd (by simp) hquiet
    | fault hc hn => exact ⟨k, ticks, u, last, hticks, hc, hn, rfl⟩
  · rintro ⟨k, ticks, u, rest, hticks, hc, hn, rfl⟩
    refine ⟨⟨k, ticks, u, rest, hticks, .fault hc hn, rfl⟩, ?_⟩
    simp [hticks.raised_notMem, hn.raised_decorator_notMem]

/-- If a repetition does not return although its child always does, then the child always
succeeds. -/
theorem succeeds_of_untilFail_endless (hnone : ∀ v t, ¬ (untilFail token child).Answers s v t)
    (hchild : ∀ k, ¬ UntilFail.Hangs token child k s) : UntilFail.Succeeds token child s := by
  have hends {k ticks u last v t} (h : Rounds token child (List.replicate k .success) s ticks u) :
      ¬ (Decorator.untilFail token).Ends child k u last v t := by
    intro hend
    exact hnone v t (runs_untilFail_iff.2 ⟨k, ticks, u, last, h, hend, rfl⟩).answers
  intro k
  induction k with
  | zero => exact ⟨[], s, Rounds.nil_iff.2 ⟨rfl, rfl⟩⟩
  | succ k ih =>
    obtain ⟨ticks, u, hticks⟩ := ih
    have hclear : token.any u.world.flags.isCancelled = false :=
      Bool.eq_false_iff.2 fun hc => hends hticks (.cancelled hc)
    have hanswers : ∃ v t, child.Answers u v t := by
      by_cases h : ∃ v t, child.Answers u v t
      · exact h
      · exact absurd ⟨ticks, u, hticks, hclear, fun v t ht => h ⟨v, t, ht⟩⟩ (hchild k)
    obtain ⟨v, t, hanswer⟩ := hanswers
    obtain ⟨acts, hacts⟩ := answers_iff_exists_runs.1 hanswer
    -- Of the three things that the child may return, two end the repetition.
    rcases v with fault | _ | _
    · exact absurd (.fault hclear hacts) (hends hticks)
    · rw [List.replicate_succ']
      exact ⟨_, t, Rounds.concat_iff.2 ⟨ticks, u, acts, hticks, ⟨hclear, hacts⟩, rfl⟩⟩
    · have hround : Round.Leads token child ⟨.failure, acts⟩ u t := ⟨hclear, hacts⟩
      exact absurd (.done hround rfl) (hends hticks)

/-- A repetition does not return exactly if its child succeeds again and again, or does not return
after some number of successes. -/
theorem untilFail_endless_iff : (∀ v t, ¬ (untilFail token child).Answers s v t) ↔
    UntilFail.Succeeds token child s ∨ ∃ k, UntilFail.Hangs token child k s := by
  constructor
  · intro hnone
    by_cases hangs : ∃ k, UntilFail.Hangs token child k s
    · exact .inr hangs
    · exact .inl (succeeds_of_untilFail_endless hnone fun k h => hangs ⟨k, h⟩)
  · intro h v t hanswer
    obtain ⟨acts, hacts⟩ := answers_iff_exists_runs.1 hanswer
    obtain ⟨n, before, m, last, hbefore, hend, -⟩ := runs_untilFail_iff.1 hacts
    rcases h with hall | ⟨k, ticks, u, hticks, hclear, hno⟩
    · obtain ⟨ticks, u, hticks⟩ := hall (n + 1)
      exact absurd (hbefore.le_of_ends hend hticks) (by omega)
    · have hle := hbefore.le_of_ends hend hticks
      obtain ⟨more, rest, -, hrest⟩ := hticks.extends_of_length_le hbefore (by simpa using hle)
      -- The child returns in its next round, or at the end if there is none.
      cases more with
      | nil =>
        obtain ⟨-, rfl⟩ := Rounds.nil_iff.1 hrest
        obtain ⟨v', u', h⟩ := hend.exists_answers hclear
        exact hno v' u' h
      | cons status more =>
        obtain ⟨first, u', hfirst⟩ := hrest.exists_leads
        exact hno _ u' hfirst.runs.answers

/-- The ticks of its child decide what a repetition until failure does, from every scene and with or
without a token. It returns success if the child fails after some number of successes, and no other
status; it raises its own fault if it sees its token after some number of successes; a fault of the
child it returns as it is. Each of these exactly then, with one tick of the child for each round,
and with the number of successes in what it reports last. If nothing of this happens, then it does
not return. Numbers of successes below `2 ^ 64` are meant: up to there a number that is kept in 64
bits is the same. -/
theorem untilFail_is_decided_by_ticks (token : Option Token) (child : Node L) (s : Scene L C E) :
    (∀ v t, (untilFail token child).Answers s v t ↔
      ∃ acts, (Task.node (untilFail token child)).Runs s acts v t) ∧
    (∀ acts status t, (Task.node (untilFail token child)).Runs s acts (.ok status) t ↔
      status = .success ∧ ∃ k, UntilFail.Finishes token child k s acts t) ∧
    (∀ acts v fault t, (Task.node (untilFail token child)).Runs s acts v t ∧
        .raised (untilFail token child) fault ∈ acts ↔
      v = .error fault ∧ ∃ k, UntilFail.Cancelled token child k s acts fault t) ∧
    (∀ acts fault t, (Task.node (untilFail token child)).Runs s acts (.error fault) t ∧
        .raised (untilFail token child) fault ∉ acts ↔
      ∃ k, UntilFail.Faults token child k s acts fault t) ∧
    ((∀ v t, ¬ (untilFail token child).Answers s v t) ↔
      UntilFail.Succeeds token child s ∨ ∃ k, UntilFail.Hangs token child k s) :=
  ⟨fun _ _ => answers_iff_exists_runs, fun _ _ _ => runs_untilFail_ok_iff,
    fun _ _ _ _ => runs_untilFail_raised_iff, fun _ _ _ => runs_untilFail_error_iff,
    untilFail_endless_iff⟩

end Node

end TickTree
