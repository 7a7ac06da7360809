import TickTree.Proofs.Fault
import TickTree.Doors.Action

/-!
# Cancelling truncates

Tokens are looked at by loops only, and a loop that sees its token ends the evaluation with a
fault. So an evaluation that starts with more cancelled tokens does what the one with fewer does,
step by step, until a loop sees a token that only the second evaluation has. There it ends, with
the warning of that loop as its last entry. It never does anything else, and it returns whenever
the first evaluation returns.

The leaves may cancel and reset tokens, in the middle of an iteration and of any loop. They must
not look at tokens, or the evaluations could part without a warning.

## Main definitions

* `Flags.obey`: cancelling and resetting tokens by orders
* `Leaf.Blind`: leaves that do not look at tokens
* `Scene.FewerCancelled`: scenes that differ only in tokens that the second has in addition
* `Behavior.Truncates`: the law for a behavior

## Main results

* `Behavior.truncates_closed`: the law passes from blind leaves to nodes
* `cancelling_only_truncates`: the law for the evaluation of a node
* `BenchLeaf.blind`, `DoorLeaf.blind`: the leaves of the workbench and of a visit are blind
-/

namespace TickTree

namespace Flags

/-- Every token that is cancelled in the first is cancelled in the second. -/
instance : LE Flags := ⟨fun f g => ∀ t, f.isCancelled t = true → g.isCancelled t = true⟩

/-- Cancels and resets the tokens for which there is an order. -/
def obey (flags : Flags) (orders : Token → Option Bool) : Flags :=
  ⟨fun t => (orders t).getD (flags.isCancelled t)⟩

theorem obey_mono {f g : Flags} (h : f ≤ g) (orders : Token → Option Bool) :
    f.obey orders ≤ g.obey orders := by
  intro t ht
  change (orders t).getD (f.isCancelled t) = true at ht
  change (orders t).getD (g.isCancelled t) = true
  cases ho : orders t with
  | none =>
    rw [ho] at ht
    exact h t ht
  | some b =>
    rw [ho] at ht
    exact ht

theorem any_isCancelled_mono {f g : Flags} (h : f ≤ g) {token : Option Token}
    (ht : token.any f.isCancelled = true) : token.any g.isCancelled = true := by
  cases token with
  | none => exact ht
  | some t => exact h t ht

end Flags

/-- A leaf does not look at the tokens: what it does, and which tokens it cancels and resets, is
the same whatever tokens are cancelled. -/
def Leaf.Blind {L E : Type} (C : Type) [Leaf L C E] (l : L) : Prop :=
  ∀ w : World C, ∃ orders : Token → Option Bool, ∀ flags : Flags,
    (Leaf.tick l { w with flags := flags } : Reply C E) =
      ⟨(Leaf.tick l w : Reply C E).verdict,
        { (Leaf.tick l w : Reply C E).world with flags := flags.obey orders },
        (Leaf.tick l w : Reply C E).notes⟩

variable {L C E : Type}

/-- The second scene differs from the first in that more tokens may be cancelled. -/
structure Scene.FewerCancelled (s₁ s₂ : Scene L C E) : Prop where
  context : s₁.world.context = s₂.world.context
  generator : s₁.world.generator = s₂.world.generator
  history : s₁.history = s₂.history
  flags : s₁.world.flags ≤ s₂.world.flags

namespace Scene.FewerCancelled

variable {s₁ s₂ : Scene L C E}

theorem log (h : s₁.FewerCancelled s₂) (o : Occurrence L E) :
    (s₁.log o).FewerCancelled (s₂.log o) :=
  ⟨h.context, h.generator, congrArg (·.push o) h.history, h.flags⟩

theorem report (h : s₁.FewerCancelled s₂) (e : Event E) :
    (s₁.report e).FewerCancelled (s₂.report e) := h.log (.event e)

end Scene.FewerCancelled

/-- Where one evaluation goes on and leaves the scene `t₁`, another is ended by a loop among
`parts` that sees its token. It has the entries of the first up to that point, then the warning. -/
def CutShort (parts : Node L → Prop) (t₁ : Scene L C E) (v₂ : Verdict) (t₂ : Scene L C E) : Prop :=
  ∃ d child ticks before, parts (.decorator d child) ∧
    d.watched.any t₂.world.flags.isCancelled = true ∧ v₂ = .error (.cancelled d.name) ∧
    before <+: t₁.history.toList ∧ t₂.history.toList = before ++ [.event (d.warning ticks)]

theorem CutShort.of_prefix {parts : Node L → Prop} {t₁ u₁ t₂ : Scene L C E} {v₂ : Verdict}
    (h : CutShort parts u₁ v₂ t₂) (hu : u₁.history.toList <+: t₁.history.toList) :
    CutShort parts t₁ v₂ t₂ := by
  obtain ⟨d, child, ticks, before, hp, hc, hv, hb, ht⟩ := h
  exact ⟨d, child, ticks, before, hp, hc, hv, hb.trans hu, ht⟩

namespace Behavior

/-- With more cancelled tokens at the start a behavior does the same, or a loop among `parts` sees
its token and ends it. -/
structure Truncates (parts : Node L → Prop) (b : Behavior L C E) : Prop where
  grows : Grows b
  answers : ∀ {s₁ s₂ v t₁}, s₁.FewerCancelled s₂ → b s₁ = some (v, t₁) →
    ∃ v₂ t₂, b s₂ = some (v₂, t₂) ∧
      (v₂ = v ∧ t₁.FewerCancelled t₂ ∨ CutShort parts t₁ v₂ t₂)

section

variable {parts : Node L → Prop}

theorem Truncates.andThen {b : Behavior L C E} {next : Status → Behavior L C E}
    (hb : Truncates parts b) (hnext : ∀ status, Truncates parts (next status)) :
    Truncates parts (andThen b next) where
  grows := hb.grows.andThen fun status => (hnext status).grows
  answers := by
    intro s₁ s₂ v t₁ hs h
    rcases andThen_eq_some_iff.1 h with ⟨status, u₁, hbs, hnexts⟩ | ⟨fault, hbs, rfl⟩
    · obtain ⟨v₂, u₂, hbs₂, ⟨rfl, hu⟩ | hcut⟩ := hb.answers hs hbs
      · rw [andThen_of_ok next hbs₂]
        exact (hnext status).answers hu hnexts
      · -- The first evaluation goes on after the point where the second ended.
        have hgrow := (hnext status).grows _ _ _ hnexts
        obtain ⟨d, _, _, _, _, _, rfl, _⟩ := id hcut
        exact ⟨_, u₂, andThen_of_error next hbs₂, .inr (hcut.of_prefix hgrow)⟩
    · obtain ⟨v₂, u₂, hbs₂, ⟨rfl, hu⟩ | hcut⟩ := hb.answers hs hbs
      · exact ⟨_, u₂, andThen_of_error next hbs₂, .inl ⟨rfl, hu⟩⟩
      · obtain ⟨d, _, _, _, _, _, rfl, _⟩ := id hcut
        exact ⟨_, u₂, andThen_of_error next hbs₂, .inr hcut⟩

theorem Truncates.guarded {b : Behavior L C E} {d : Decorator} {child : Node L} (ticks : Nat)
    (hp : parts (.decorator d child)) (hb : Truncates parts b) :
    Truncates parts (guarded d ticks b) where
  grows := hb.grows.guarded d ticks
  answers := by
    intro s₁ s₂ v t₁ hs h
    cases h₁ : d.watched.any s₁.world.flags.isCancelled with
    | true =>
      rw [guarded_of_cancelled ticks b h₁] at h
      obtain ⟨rfl, rfl⟩ := Prod.mk.inj (Option.some.inj h)
      have h₂ := Flags.any_isCancelled_mono hs.flags h₁
      exact ⟨_, _, guarded_of_cancelled ticks b h₂, .inl ⟨rfl, hs.report _⟩⟩
    | false =>
      rw [guarded_of_not_cancelled ticks b h₁] at h
      cases h₂ : d.watched.any s₂.world.flags.isCancelled with
      | true =>
        -- Here the evaluations part: only the second sees a cancelled token.
        refine ⟨_, _, guarded_of_cancelled ticks b h₂, .inr ?_⟩
        refine ⟨d, child, ticks, s₁.history.toList, hp, h₂, rfl, hb.grows _ _ _ h, ?_⟩
        rw [Scene.toList_history_report, hs.history]
      | false =>
        rw [guarded_of_not_cancelled ticks b h₂]
        exact hb.answers hs h

theorem Truncates.shuffled {next : List Nat → Behavior L C E}
    (hnext : ∀ order, Truncates parts (next order)) (n : Nat) :
    Truncates parts (shuffled n next) where
  grows := Grows.shuffled (fun order => (hnext order).grows) n
  answers := by
    rintro ⟨⟨c, f₁, g⟩, history⟩ ⟨⟨_, f₂, _⟩, _⟩ v t₁ ⟨rfl, rfl, rfl, hf⟩ h
    have hs : Scene.FewerCancelled (⟨⟨c, f₁, (g.shuffle n).2⟩, history⟩ : Scene L C E)
        ⟨⟨c, f₂, (g.shuffle n).2⟩, history⟩ := ⟨rfl, rfl, rfl, hf⟩
    exact (hnext (g.shuffle n).1).answers (hs.log (.shuffled n)) h

end

variable [Leaf L C E]

theorem Truncates.leaf {l : L} (hl : Leaf.Blind C l) (parts : Node L → Prop) :
    Truncates parts (leaf l : Behavior L C E) where
  grows := grows_closed.leaf l trivial
  answers := by
    rintro ⟨⟨c, f₁, g⟩, history⟩ ⟨⟨_, f₂, _⟩, _⟩ v t₁ ⟨rfl, rfl, rfl, hf⟩ h
    obtain ⟨orders, horders⟩ := hl ⟨c, f₁, g⟩
    rw [leaf_eq, horders f₁] at h
    obtain ⟨rfl, rfl⟩ := Prod.mk.inj (Option.some.inj h)
    refine ⟨_, _, leaf_eq l _, .inl ?_⟩
    rw [horders f₂]
    exact ⟨rfl, rfl, rfl, rfl, Flags.obey_mono hf orders⟩

/-- The law of cancelling passes from blind leaves to every node. -/
theorem truncates_closed {parts : Node L → Prop} (hl : ∀ l, parts (.leaf l) → Leaf.Blind C l) :
    Closed (fun b _ : Behavior L C E => Truncates parts b) parts where
  stuck b := ⟨grows_closed.stuck b, fun _ h => nomatch h⟩
  answer status := by
    refine ⟨grows_closed.answer status, fun hs h => ?_⟩
    obtain ⟨rfl, rfl⟩ := Prod.mk.inj (Option.some.inj h)
    exact ⟨_, _, rfl, .inl ⟨rfl, hs⟩⟩
  andThen hb hnext := hb.andThen hnext
  note status he := by
    refine ⟨grows_closed.note status he, fun hs h => ?_⟩
    obtain ⟨rfl, rfl⟩ := Prod.mk.inj (Option.some.inj h)
    exact ⟨_, _, rfl, .inl ⟨rfl, hs.report _⟩⟩
  leaf l hp := Truncates.leaf (hl l hp) parts
  unbound d _ := by
    refine ⟨grows_closed.unbound d trivial, fun hs h => ?_⟩
    obtain ⟨rfl, rfl⟩ := Prod.mk.inj (Option.some.inj h)
    exact ⟨_, _, rfl, .inl ⟨rfl, hs.log _⟩⟩
  guarded ticks hp hb := hb.guarded ticks hp
  shuffled hnext := Truncates.shuffled hnext _

end Behavior

/-! ### Blind leaves -/

namespace Flags

/-- The order to give a token, if there is one, the flag `b`. -/
def orderFor (token : Option Token) (b : Bool) : Token → Option Bool := fun t =>
  if token = some t then some b else none

theorem elim_set_eq_obey (flags : Flags) (token : Option Token) (b : Bool) :
    token.elim flags (flags.set · b) = flags.obey (orderFor token b) := by
  cases token with
  | none => rfl
  | some t =>
    ext u
    by_cases hu : u = t
    · simp [obey, orderFor, hu]
    · simp [obey, orderFor, hu, Ne.symm hu]

theorem obey_obey (flags : Flags) (orders orders' : Token → Option Bool) :
    (flags.obey orders).obey orders' = flags.obey fun t => (orders' t).or (orders t) := by
  ext t
  change (orders' t).getD ((orders t).getD _) = ((orders' t).or (orders t)).getD _
  cases orders' t <;> rfl

end Flags

theorem Primitive.blind {K S T : Type} [Blackboard C K S T] [ToString T] (l : Primitive K S T) :
    Leaf.Blind C l := fun _ => ⟨fun _ => none, fun _ => rfl⟩

theorem DoorLeaf.blind (l : DoorLeaf) : Leaf.Blind Visit l := by
  intro w
  refine ⟨fun _ => none, fun flags => ?_⟩
  cases l with
  | move primitive => rfl
  | act action =>
    change action.tick { w with flags := flags } = ⟨(action.tick w).verdict,
      { (action.tick w).world with flags := flags }, (action.tick w).notes⟩
    unfold Action.tick
    rcases action.policy.decide w.context.current w.generator with ⟨_ | _, _⟩ <;> rfl

/-- Which tokens a scripted leaf cancels or resets depends on how often it was ticked. -/
theorem BenchLeaf.blind (l : BenchLeaf) : Leaf.Blind Workbench l := by
  rintro ⟨⟨board, allowance, trace, ticks⟩, f, g⟩
  cases l with
  | primitive leaf => exact ⟨fun _ => none, fun _ => rfl⟩
  | scripted name script =>
    cases allowance with
    | zero => exact ⟨fun _ => none, fun _ => rfl⟩
    | succ allowance =>
      cases script with
      | probe number verdicts cancel reset =>
        -- A reset comes after a cancellation, so it prevails if both are due for one token.
        let bench := ((⟨board, allowance, trace, ticks⟩ : Workbench).bump number).write name
        let k := bench.count number
        refine ⟨fun t => (Flags.orderFor (Script.due reset k) false t).or
          (Flags.orderFor (Script.due cancel k) true t), fun flags => ?_⟩
        rw [← Flags.obey_obey, ← Flags.elim_set_eq_obey, ← Flags.elim_set_eq_obey]
        rfl
      | put slot value => exact ⟨fun _ => none, fun _ => rfl⟩
      | is slot value => exact ⟨fun _ => none, fun _ => rfl⟩
      | roll percent => exact ⟨fun _ => none, fun _ => rfl⟩

/-! ### Cancelling truncates -/

section

variable [Leaf L C E]

/-- A course that leaves an event of a loop as the last entry ends where a loop warns. -/
theorem Task.Runs.warned_of_fault {task : Task L} {w : World C} {acts : List (Act L E)}
    {fault : Fault} {t : Scene L C E} {before : List (Occurrence L E)} {e : Event E}
    (h : task.Runs (.start w) acts (.error fault) t)
    (ht : t.history.toList = before ++ [.event e]) :
    ∃ calm d child token ticks, PartOf (.decorator d child) task.nodes ∧
      d.watched = some token ∧ t.world.flags.isCancelled token = true ∧
      fault = .cancelled d.name ∧ e = d.warning ticks ∧
      acts = calm ++ [.emitted (d.warning ticks), .raised (.decorator d child) fault] := by
  obtain ⟨calm, last, rfl, -, hlast⟩ := h.conclusive
  have hentries : before ++ [.event e] =
      calm.filterMap Act.entry? ++ last.filterMap Act.entry? := by
    rw [← List.filterMap_append, ← ht]
    exact h.leads.history
  cases hlast with
  | leaf _ _ _ => exact nomatch List.append_inj_right' hentries rfl
  | unbound _ _ => exact nomatch List.append_inj_right' hentries rfl
  | @loop d child token ticks hp hw htoken hf =>
    have he := List.append_inj_right' hentries rfl
    obtain rfl : e = d.warning ticks := by simpa [Act.entry?] using he
    exact ⟨calm, d, child, token, ticks, hp, hw, htoken, hf, rfl, rfl⟩

/-- Cancelling only truncates an evaluation. If the evaluation of a node or a tree returns, so does
the one that starts with more cancelled tokens. Both do and return the same, or the second is ended
by a loop that sees its token. What it did until then is the beginning of what the first did, and
only the warning of that loop is new. -/
theorem cancelling_only_truncates (task : Task L)
    (hblind : ∀ l, PartOf (.leaf l) task.nodes → Leaf.Blind C l) {w₁ w₂ : World C}
    (hcontext : w₁.context = w₂.context) (hgenerator : w₁.generator = w₂.generator)
    (hflags : w₁.flags ≤ w₂.flags) {v₁ : Verdict} {t₁ : Scene L C E}
    (h : task.Answers (.start w₁) v₁ t₁) :
    ∃ v₂ t₂, task.Answers (.start w₂) v₂ t₂ ∧
      ((v₂ = v₁ ∧ t₂.leafTicks = t₁.leafTicks ∧ t₂.events = t₁.events ∧
          t₂.world.context = t₁.world.context ∧ t₂.world.generator = t₁.world.generator ∧
          t₁.world.flags ≤ t₂.world.flags) ∨
        ∃ acts d child token ticks before,
          task.Runs (.start w₂) (acts ++
            [.emitted (d.warning ticks), .raised (.decorator d child) (.cancelled d.name)]) v₂ t₂ ∧
          PartOf (.decorator d child) task.nodes ∧ d.watched = some token ∧
          t₂.world.flags.isCancelled token = true ∧ v₂ = .error (.cancelled d.name) ∧
          t₂.leafTicks <+: t₁.leafTicks ∧ before <+: t₁.events ∧
          t₂.events = before ++ [d.warning ticks] ∧ ∀ e ∈ before, e.isWarning = false) := by
  obtain ⟨limit, hl⟩ := h
  have htruncates : Behavior.Truncates (PartOf · task.nodes) (task.behavior limit) :=
    (Behavior.truncates_closed hblind).task (fun _ hp => hp) (Nat.le_refl limit)
  have hstart : Scene.FewerCancelled (.start w₁ : Scene L C E) (.start w₂) :=
    ⟨hcontext, hgenerator, rfl, hflags⟩
  obtain ⟨v₂, t₂, hl₂, ⟨rfl, hsame⟩ | hcut⟩ := htruncates.answers hstart hl
  · refine ⟨v₂, t₂, ⟨limit, hl₂⟩, .inl ⟨rfl, ?_, ?_, hsame.context.symm, hsame.generator.symm,
      hsame.flags⟩⟩
    · rw [Scene.leafTicks_eq, Scene.leafTicks_eq, hsame.history]
    · rw [Scene.events_eq, Scene.events_eq, hsame.history]
  · -- The loop that warns is found at the end of a course of the second evaluation.
    obtain ⟨_, _, _, before, _, _, rfl, hprefix, ht₂⟩ := hcut
    obtain ⟨acts, hacts⟩ := Task.exists_runs_iff.2 ⟨limit, hl₂⟩
    obtain ⟨calm, d, child, token, ticks, hp, hw, htoken, hf, he, rfl⟩ :=
      hacts.warned_of_fault ht₂
    rw [he] at ht₂
    have hevents : t₂.events = before.filterMap Occurrence.event? ++ [d.warning ticks] := by
      rw [Scene.events_eq, ht₂, List.filterMap_append]
      rfl
    have hticks : t₂.leafTicks = before.filterMap Occurrence.leafTick? := by
      rw [Scene.leafTicks_eq, ht₂, List.filterMap_append]
      exact List.append_nil _
    have hquiet := (hacts.faultIsLast.warning_last _ _ _ hevents (d.isWarning_warning ticks)).2
    refine ⟨_, t₂, ⟨limit, hl₂⟩, .inr ⟨calm, d, child, token, ticks,
      before.filterMap Occurrence.event?, ?_, hp, hw, htoken, congrArg _ hf, ?_, ?_, hevents,
      hquiet⟩⟩
    · rw [← hf]
      exact hacts
    · rw [hticks, Scene.leafTicks_eq]
      exact hprefix.filterMap _
    · exact hprefix.filterMap _

end

/-- A loop in a loop, with tokens of their own. The outer one goes on after the inner one. -/
def Workbench.nestedLoops : Node BenchLeaf :=
  let once (name : String) (number : Nat) : Node BenchLeaf :=
    .leaf (.scripted name (.probe number [.ok .success, .ok .failure] none none))
  .decorator (.untilFail (some 0)) (.composite .sequence
    [once "a" 0, .decorator (.untilFail (some 1)) (once "b" 1)])

/-- With the token of the inner loop cancelled from the start, the evaluation ends where this loop
is reached. -/
theorem cancelling_only_truncates_nestedLoops :
    let task := Task.node Workbench.nestedLoops
    let cancelled := { Workbench.fresh with flags := Workbench.fresh.flags.cancel 1 }
    ∃ t₁ t₂, task.Answers (.start Workbench.fresh) (.ok .success) t₁ ∧
      task.Answers (.start cancelled) (.error (.cancelled "RepeatUntilFail")) t₂ ∧
      t₂.leafTicks <+: t₁.leafTicks ∧ t₂.leafTicks.length = 1 ∧ t₁.leafTicks.length = 4 ∧
      t₂.events = [.untilFailCancelled 0] := by
  intro task cancelled
  have hfirst : ∃ t, task.Answers (.start Workbench.fresh) (.ok .success) t ∧
      t.leafTicks.length = 4 := ⟨_, ⟨3, rfl⟩, rfl⟩
  have hsecond : ∃ t, task.Answers (.start cancelled) (.error (.cancelled "RepeatUntilFail")) t ∧
      t.leafTicks.length = 1 ∧ t.events = [.untilFailCancelled 0] := ⟨_, ⟨3, rfl⟩, rfl, rfl⟩
  obtain ⟨t₁, h₁, hlength₁⟩ := hfirst
  obtain ⟨t₂, h₂, hlength₂, hevents⟩ := hsecond
  have hcontext : Workbench.fresh.context = cancelled.context := rfl
  have hflags : Workbench.fresh.flags ≤ cancelled.flags := fun t ht => nomatch ht
  obtain ⟨v, t, h, hor⟩ :=
    cancelling_only_truncates task (fun l _ => l.blind) hcontext rfl hflags h₁
  obtain ⟨rfl, rfl⟩ := Node.Answers.unique h₂ h
  rcases hor with ⟨hv, -⟩ | ⟨_, _, _, _, _, _, -, -, -, -, -, hprefix, -⟩
  · exact nomatch hv
  · exact ⟨t₁, t₂, h₁, h₂, hprefix, hlength₂, hlength₁, hevents⟩

end TickTree
