import TickTree.Proofs.Loop.UntilFail

/-!
# Endless repetitions

An endless repetition ticks its child until it sees its token. A repetition until failure of a
succeeder with the same token has no other end either, because its child never fails. The two are
written apart, with reports and faults of their own, but they are the same loop: from every scene
they go through the same rounds of the child, and they end after the same number of them.

## Main definitions

* `Node.forever`, `Node.cancellable`: the two repetitions of a node
* `EndTogether`: how both end after the same rounds

## Main results

* `Node.runs_forever_iff`, `Node.runs_cancellable_iff`: both go through rounds of the same child
* `Node.forever_agrees_with_cancellable`: both return or neither does, after the same rounds and in
  the same world
-/

namespace TickTree

variable {L C E : Type}

namespace Node

/-- An endless repetition of a node. -/
abbrev forever (token : Token) (child : Node L) : Node L := .decorator (.forever token) child

/-- A node that succeeds where the other node returns a status. -/
abbrev succeeder (child : Node L) : Node L := .decorator .succeeder child

/-- A repetition of a node until it fails, which it never does, or the token is seen. -/
abbrev cancellable (token : Token) (child : Node L) : Node L :=
  .untilFail (some token) (succeeder child)

end Node

/-- A round of a child with a succeeder around it. -/
def Round.succeeding (child : Node L) (round : Round L E) : Round L E :=
  ⟨.success, .entered child.succeeder :: round.acts⟩

variable [Leaf L C E]

/-- A succeeder has the rounds of its child. -/
theorem Round.leads_succeeder_iff {token : Option Token} {child : Node L} {round : Round L E}
    {s u : Scene L C E} :
    round.Leads token child.succeeder s u ↔
      ∃ inner : Round L E, round = inner.succeeding child ∧ inner.Leads token child s u := by
  constructor
  · rintro ⟨hclear, hruns⟩
    obtain ⟨acts, v, hchild, hacts, hv⟩ := (Task.runs_node_iff rfl).1 hruns
    cases v with
    | error fault => exact nomatch hv
    | ok status =>
      obtain ⟨status', acts'⟩ := round
      obtain rfl : status' = .success := Except.ok.inj hv
      obtain rfl : acts' = _ := hacts
      exact ⟨⟨status, acts⟩, rfl, hclear, hchild⟩
  · rintro ⟨inner, rfl, hclear, hruns⟩
    exact ⟨hclear, (Task.runs_node_iff rfl).2 ⟨_, _, hruns, rfl, rfl⟩⟩

/-- How an endless repetition and its cancellable twin end after the same rounds: what the one still
does, its verdict and its scene, and then those of the other. -/
inductive EndTogether (token : Token) (child : Node L) (rounds : Nat) (u : Scene L C E) :
    List (Act L E) → Verdict → Scene L C E → List (Act L E) → Verdict → Scene L C E → Prop
  -- The child returns a fault, which both return.
  | fault {acts fault t} : u.world.flags.isCancelled token = false →
      (Task.node child).Runs u acts (.error fault) t →
      EndTogether token child rounds u acts (.error fault) t
        (.entered child.succeeder :: acts) (.error fault) t
  -- Both see the token, and report the number of rounds.
  | cancelled : u.world.flags.isCancelled token = true →
      EndTogether token child rounds u
        [.emitted (.repeaterCancelled rounds),
          .raised (.forever token child) (.cancelled "Repeater")]
        (.error (.cancelled "Repeater")) (u.report (.repeaterCancelled rounds))
        [.emitted (.untilFailCancelled rounds),
          .raised (.cancellable token child) (.cancelled "RepeatUntilFail")]
        (.error (.cancelled "RepeatUntilFail")) (u.report (.untilFailCancelled rounds))

section

variable {token : Token} {child : Node L} {n : Nat} {u t t' : Scene L C E}
  {last last' : List (Act L E)} {v v' : Verdict}

theorem EndTogether.world_eq (h : EndTogether token child n u last v t last' v' t') :
    t.world = t'.world := by
  cases h with
  | fault _ _ => rfl
  | cancelled _ => rfl

theorem Decorator.ends_forever_iff : (forever token).Ends child n u last v t ↔
    ∃ last' v' t', EndTogether token child n u last v t last' v' t' := by
  constructor
  · intro h
    cases h with
    | cancelled hc => exact ⟨_, _, _, .cancelled hc⟩
    | done _ hgo => exact nomatch hgo
    | fault hc hn => exact ⟨_, _, _, .fault hc hn⟩
  · rintro ⟨_, _, _, h⟩
    cases h with
    | fault hc hn => exact .fault hc hn
    | cancelled hc => exact .cancelled hc

theorem Decorator.ends_cancellable_iff :
    (untilFail (some token)).Ends child.succeeder n u last' v' t' ↔
      ∃ last v t, EndTogether token child n u last v t last' v' t' := by
  constructor
  · intro h
    cases h with
    | cancelled hc => exact ⟨_, _, _, .cancelled hc⟩
    | done hround hgo =>
      obtain ⟨inner, rfl, -⟩ := Round.leads_succeeder_iff.1 hround
      exact nomatch hgo
    | fault hc hn =>
      obtain ⟨acts, v, hchild, rfl, hv⟩ := (Task.runs_node_iff rfl).1 hn
      cases v with
      | error fault =>
        obtain rfl := Except.error.inj hv
        exact ⟨_, _, _, .fault hc hchild⟩
      | ok status => exact nomatch hv
  · rintro ⟨_, _, _, h⟩
    cases h with
    | fault hc hn => exact .fault hc ((Task.runs_node_iff rfl).2 ⟨_, _, hn, rfl, rfl⟩)
    | cancelled hc => exact .cancelled hc

end

namespace Node

variable {token : Token} {child : Node L} {s t : Scene L C E} {acts : List (Act L E)} {v : Verdict}

/-- An endless repetition goes through rounds, whatever their statuses, until it ends. -/
theorem runs_forever_iff : (Task.node (forever token child)).Runs s acts v t ↔
    ∃ rounds u last, InTurn (Round.Leads (some token) child) rounds s u ∧
      (∃ last' v' t', EndTogether token child rounds.length u last v t last' v' t') ∧
      acts = .entered (forever token child) :: (rounds.flatMap Round.acts ++ last) := by
  rw [runs_loop_iff rfl]
  simp only [Decorator.ends_forever_iff]
  constructor
  · rintro ⟨rounds, u, last, hrounds, -, hend, hacts⟩
    exact ⟨rounds, u, last, hrounds, hend, hacts⟩
  · rintro ⟨rounds, u, last, hrounds, hend, hacts⟩
    exact ⟨rounds, u, last, hrounds, fun _ _ => rfl, hend, hacts⟩

/-- The twin goes through rounds of the same child, with the succeeder around each. -/
theorem runs_cancellable_iff : (Task.node (cancellable token child)).Runs s acts v t ↔
    ∃ rounds u last, InTurn (Round.Leads (some token) child) rounds s u ∧
      (∃ last' v' t', EndTogether token child rounds.length u last' v' t' last v t) ∧
      acts = .entered (cancellable token child) ::
        ((rounds.map (Round.succeeding child)).flatMap Round.acts ++ last) := by
  have hrounds_iff {rounds : List (Round L E)} {u : Scene L C E} :
      InTurn (Round.Leads (some token) child.succeeder) rounds s u ↔
        ∃ inner, rounds = inner.map (Round.succeeding child) ∧
          InTurn (Round.Leads (some token) child) inner s u :=
    InTurn.map_iff fun _ _ _ => Round.leads_succeeder_iff
  rw [runs_loop_iff rfl]
  constructor
  · rintro ⟨_, u, last, htwin, -, hend, rfl⟩
    obtain ⟨rounds, rfl, hrounds⟩ := hrounds_iff.1 htwin
    rw [List.length_map] at hend
    exact ⟨rounds, u, last, hrounds, Decorator.ends_cancellable_iff.1 hend, rfl⟩
  · rintro ⟨rounds, u, last, hrounds, hend, rfl⟩
    refine ⟨_, u, last, hrounds_iff.2 ⟨rounds, rfl, hrounds⟩, ?_, ?_, rfl⟩
    · simp [Round.succeeding]
    · rw [List.length_map]
      exact Decorator.ends_cancellable_iff.2 hend

/-- Where the one returns, the other returns too. -/
theorem exists_answers_forever_iff :
    (∃ v t, (forever token child).Answers s v t) ↔
      ∃ v t, (cancellable token child).Answers s v t := by
  constructor
  · rintro ⟨v, t, h⟩
    obtain ⟨_, hacts⟩ := answers_iff_exists_runs.1 h
    obtain ⟨rounds, u, last, hrounds, ⟨last', v', t', hend⟩, -⟩ := runs_forever_iff.1 hacts
    have htwin := runs_cancellable_iff.2 ⟨rounds, u, last', hrounds, ⟨_, _, _, hend⟩, rfl⟩
    exact ⟨v', t', htwin.answers⟩
  · rintro ⟨v', t', h⟩
    obtain ⟨_, hacts⟩ := answers_iff_exists_runs.1 h
    obtain ⟨rounds, u, last', hrounds, ⟨last, v, t, hend⟩, -⟩ := runs_cancellable_iff.1 hacts
    have hself := runs_forever_iff.2 ⟨rounds, u, last, hrounds, ⟨_, _, _, hend⟩, rfl⟩
    exact ⟨v, t, hself.answers⟩

/-- Where both return, they went through the same rounds. -/
theorem runs_forever_and_cancellable_iff {acts' : List (Act L E)} {v' : Verdict}
    {t' : Scene L C E} :
    (Task.node (forever token child)).Runs s acts v t ∧
        (Task.node (cancellable token child)).Runs s acts' v' t' ↔
      ∃ rounds u last last', InTurn (Round.Leads (some token) child) rounds s u ∧
        EndTogether token child rounds.length u last v t last' v' t' ∧
        acts = .entered (forever token child) :: (rounds.flatMap Round.acts ++ last) ∧
        acts' = .entered (cancellable token child) ::
          ((rounds.map (Round.succeeding child)).flatMap Round.acts ++ last') := by
  constructor
  · rintro ⟨hself, htwin⟩
    obtain ⟨rounds, u, last, hrounds, ⟨last', v₂, t₂, hend⟩, rfl⟩ := runs_forever_iff.1 hself
    -- The rounds and the end lead to a course of the twin, which has only one.
    have htwin' := runs_cancellable_iff.2 ⟨rounds, u, last', hrounds, ⟨_, _, _, hend⟩, rfl⟩
    obtain ⟨rfl, rfl, rfl⟩ := htwin.unique htwin'
    exact ⟨rounds, u, last, last', hrounds, hend, rfl, rfl⟩
  · rintro ⟨rounds, u, last, last', hrounds, hend, rfl, rfl⟩
    exact ⟨runs_forever_iff.2 ⟨rounds, u, last, hrounds, ⟨_, _, _, hend⟩, rfl⟩,
      runs_cancellable_iff.2 ⟨rounds, u, last', hrounds, ⟨_, _, _, hend⟩, rfl⟩⟩

/-- An endless repetition returns no status. -/
theorem not_answers_forever_ok (status : Status) :
    ¬ (forever token child).Answers s (.ok status) t := by
  intro h
  obtain ⟨_, hacts⟩ := answers_iff_exists_runs.1 h
  obtain ⟨_, _, _, -, ⟨_, _, _, hend⟩, -⟩ := runs_forever_iff.1 hacts
  cases hend

/-- It does nothing but warn and raise its fault exactly if the token is set from the start. -/
theorem runs_forever_at_once_iff :
    (Task.node (forever token child)).Runs s
        [.entered (forever token child), .emitted (.repeaterCancelled 0),
          .raised (forever token child) (.cancelled "Repeater")] v t ↔
      s.world.flags.isCancelled token = true ∧ v = .error (.cancelled "Repeater") ∧
        t = s.report (.repeaterCancelled 0) := by
  rw [runs_forever_iff]
  constructor
  · rintro ⟨rounds, u, last, hrounds, ⟨last', v', t', hend⟩, hacts⟩
    have hlast := (List.cons.inj hacts).2.symm
    cases hend with
    | fault _ hn =>
      -- The child never raises the fault of the repetition, also not in its last tick.
      have hraised : .raised (forever token child) (.cancelled "Repeater") ∈
          rounds.flatMap Round.acts ++ last := by simp [hlast]
      rcases List.mem_append.1 hraised with hraised | hraised
      · exact absurd hraised (Rounds.raised_notMem ⟨rounds, hrounds, rfl, rfl⟩ _ _)
      · exact absurd hraised (hn.raised_decorator_notMem _)
    | cancelled hc =>
      obtain ⟨-, hwarn⟩ := List.append_inj' (hlast.trans (List.nil_append _).symm) rfl
      obtain rfl : rounds = [] := by simpa using hwarn
      obtain rfl := InTurn.nil_iff.1 hrounds
      exact ⟨hc, rfl, rfl⟩
  · rintro ⟨hc, rfl, rfl⟩
    exact ⟨[], s, _, .nil, ⟨_, _, _, .cancelled hc⟩, rfl⟩

/-- An endless repetition and a repetition until failure of a succeeder, with the same token, are
the same loop. A node returns what it has a course for, so what is said of the courses of the two,
and of those of the child in their rounds, is said of their ticks. From every scene both return or
neither does. If they do, they went through the same rounds of the child, and ended together: with a
fault of the child, or with the fault of each when the token was seen, each reporting the number of
rounds. The world that they leave is the same. The endless repetition returns no status, and if the
token is set at the start it ticks no child. Numbers of rounds below `2 ^ 64` are meant: up to there
a number that is kept in 64 bits is the same. -/
theorem forever_agrees_with_cancellable (token : Token) (child : Node L) (s : Scene L C E) :
    (∀ (node : Node L) (u t : Scene L C E) v,
      node.Answers u v t ↔ ∃ acts, (Task.node node).Runs u acts v t) ∧
    ((∃ v t, (forever token child).Answers s v t) ↔
      ∃ v t, (cancellable token child).Answers s v t) ∧
    (∀ acts v t acts' v' t', (Task.node (forever token child)).Runs s acts v t ∧
        (Task.node (cancellable token child)).Runs s acts' v' t' ↔
      t.world = t'.world ∧ ∃ rounds u last last',
        InTurn (Round.Leads (some token) child) rounds s u ∧
        EndTogether token child rounds.length u last v t last' v' t' ∧
        acts = .entered (forever token child) :: (rounds.flatMap Round.acts ++ last) ∧
        acts' = .entered (cancellable token child) ::
          ((rounds.map (Round.succeeding child)).flatMap Round.acts ++ last')) ∧
    (∀ status t, ¬ (forever token child).Answers s (.ok status) t) ∧
    (∀ v t, (Task.node (forever token child)).Runs s
        [.entered (forever token child), .emitted (.repeaterCancelled 0),
          .raised (forever token child) (.cancelled "Repeater")] v t ↔
      s.world.flags.isCancelled token = true ∧ v = .error (.cancelled "Repeater") ∧
        t = s.report (.repeaterCancelled 0)) := by
  refine ⟨fun _ _ _ _ => answers_iff_exists_runs, exists_answers_forever_iff,
    fun acts v t acts' v' t' => ?_, fun status t => not_answers_forever_ok status,
    fun v t => runs_forever_at_once_iff⟩
  rw [runs_forever_and_cancellable_iff, iff_and_self]
  rintro ⟨rounds, u, last, last', -, hend, -, -⟩
  exact hend.world_eq

end Node

end TickTree
