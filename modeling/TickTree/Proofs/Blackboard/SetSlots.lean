import TickTree.Proofs.Blackboard.SlotLog
import TickTree.Proofs.Replay

/-!
# Slots that are set stay set

A leaf over a blackboard reads an item by copying it, and what it writes into a slot is always an
item. So a slot that is set at the start, or that a leaf sets on the way, is set from then on. This
is an invariant of every point of an evaluation, also of one that never ends.

A leaf that needs the item of an unset slot returns a fault that names the slot. By the invariant
the slot was unset from the start, and no leaf had set it.

## Main definitions

* `Task.Passes`: the points of an evaluation, with the acts before them
* `Act.Sets`: a leaf set a slot among these acts
* `SetSlotsStay`: what the invariant says about an evaluation

## Main results

* `isSome_slot_runAll`: the moves of an evaluation keep slots set
* `set_slots_stay_set`: the law for every tree and every world
-/

namespace TickTree

open Blackboard

/-! ### Points of an evaluation -/

section

variable {L C E : Type} [Leaf L C E]

/-- The evaluation of a task comes to a point with these acts behind it, and the world is this one.
Another task is started there, or the evaluation goes on to its answer. -/
inductive Task.Passes (task : Task L) (s : Scene L C E) : List (Act L E) → World C → Prop
  | started {acts task' s'} : task.Reaches s acts task' s' → Passes task s acts s'.world
  | within {acts rest v t} : task.Runs s (acts ++ rest) v t →
      Passes task s acts (Move.runAll s.world (Act.moves acts))

/-- Each leaf among these acts returned what it returns in the world that the moves before it
left. -/
def Act.Seen (w : World C) (acts : List (Act L E)) : Prop :=
  ∀ before l v after, acts = before ++ .acted l v :: after →
    (Leaf.tick l (Move.runAll w (moves before)) : Reply C E).verdict = v

theorem Task.Passes.seen {task : Task L} {s : Scene L C E} {acts : List (Act L E)} {u : World C}
    (h : task.Passes s acts u) :
    u = Move.runAll s.world (Act.moves acts) ∧ Act.Seen s.world acts := by
  cases h with
  | started hreach => exact ⟨hreach.replays.world, hreach.replays.seen⟩
  | within hruns =>
    refine ⟨rfl, ?_⟩
    rintro before l v after rfl
    rw [List.append_assoc] at hruns
    exact hruns.replays.seen before l v _ rfl

theorem Act.moves_cons (a : Act L E) (acts : List (Act L E)) :
    moves (a :: acts) = a.move?.toList ++ moves acts := by
  cases h : a.move? <;> simp [moves, h]

theorem Act.Seen.head {w : World C} {l : L} {v : Verdict} {acts : List (Act L E)}
    (h : Seen w (.acted l v :: acts)) : (Leaf.tick l w : Reply C E).verdict = v :=
  h [] l v acts rfl

theorem Act.Seen.tail {w : World C} {a : Act L E} {acts : List (Act L E)}
    (h : Seen w (a :: acts)) : Seen (Move.runAll w a.move?.toList) acts := by
  rintro before l v after rfl
  rw [← Move.runAll_append, ← moves_cons]
  exact h (a :: before) l v after rfl

end

/-! ### What leaves do to set slots -/

section

variable {C K S T : Type} [Blackboard C K S T]

/-- The slot that a leaf sets when it succeeds. -/
def Primitive.target? : Primitive K S T → Option S
  | pop _ item => some item
  | assign target _ => some target
  | _ => none

theorem isSome_slot_setSlot (c : C) (x : S) (value : T) {y : S} (h : (slot c y).isSome) :
    (slot (setSlot c x (some value)) y).isSome := by
  by_cases hy : y = x
  · rw [hy, slot_setSlot_self, Option.isSome_some]
  · rwa [slot_setSlot_of_ne _ _ hy]

namespace Primitive

variable [ToString T]

/-- No leaf unsets a slot. -/
theorem isSome_slot_act (l : Primitive K S T) {c : C} {x : S} (h : (slot c x).isSome) :
    (slot (l.act c).2.1 x).isSome := by
  cases l with
  | push item target =>
    cases hitem : slot c item with
    | none => simpa only [act, hitem] using h
    | some value => simpa only [act, hitem, slot_setStack] using h
  | get target source extra => simpa only [act, slot_setStack] using h
  | pop source item =>
    cases hstack : stack c source with
    | nil => simpa only [act, hstack] using h
    | cons value rest =>
      simp only [act, hstack]
      exact isSome_slot_setSlot _ _ _ (by rwa [slot_setStack])
  | isEmpty source => exact h
  | assign target source =>
    cases hsource : slot c source with
    | none => simpa only [act, hsource] using h
    | some value =>
      simp only [act, hsource]
      exact isSome_slot_setSlot _ _ _ h
  | isUnset source => exact h

/-- A leaf that succeeds sets its slot. -/
theorem isSome_slot_act_target {l : Primitive K S T} {c : C} {x : S}
    (hv : (l.act c).1 = .ok .success) (hx : l.target? = some x) :
    (slot (l.act c).2.1 x).isSome := by
  cases l with
  | push item target => cases hx
  | get target source extra => cases hx
  | pop source item =>
    obtain rfl := Option.some.inj hx
    cases hstack : stack c source with
    | nil => simp [act, hstack] at hv
    | cons value rest => simp [act, hstack]
  | isEmpty source => cases hx
  | assign target source =>
    obtain rfl := Option.some.inj hx
    cases hsource : slot c source with
    | none => simp [act, hsource] at hv
    | some value => simp [act, hsource]
  | isUnset source => cases hx

/-- A leaf returns a fault only for an unset slot that it reads, and then does nothing. -/
theorem act_eq_error {l : Primitive K S T} {c : C} {fault : Fault}
    (h : (l.act c).1 = .error fault) :
    (l.act c).2.1 = c ∧ ∃ x, slot c x = none ∧
      ((∃ k, l = .push x k ∧ fault = .unsetSlot "PushToStack" (slotName C x)) ∨
        ∃ y, l = .assign y x ∧ fault = .unsetSlot "SetVariable" (slotName C x)) := by
  cases l with
  | push item target =>
    cases hitem : slot c item with
    | none =>
      simp only [act, hitem, Except.error.injEq] at h ⊢
      exact ⟨trivial, item, hitem, .inl ⟨target, rfl, h.symm⟩⟩
    | some value => simp [act, hitem] at h
  | get target source extra => cases h
  | pop source item => cases hstack : stack c source <;> simp [act, hstack] at h
  | isEmpty source => cases h
  | assign target source =>
    cases hsource : slot c source with
    | none =>
      simp only [act, hsource, Except.error.injEq] at h ⊢
      exact ⟨trivial, source, hsource, .inr ⟨target, rfl, h.symm⟩⟩
    | some value => simp [act, hsource] at h
  | isUnset source => cases h

end Primitive

/-! ### Whole evaluations -/

variable [ToString T]

/-- Among these acts a leaf succeeded that sets this slot. -/
def Act.Sets (x : S) (acts : List (Act (Primitive K S T) Transfer)) : Prop :=
  ∃ l : Primitive K S T, l.target? = some x ∧ .acted l (.ok .success) ∈ acts

variable {w : World C} {x : S}

/-- One act keeps what is set, and sets what its leaf sets. -/
theorem isSome_slot_runAll_move? {a : Act (Primitive K S T) Transfer}
    {acts : List (Act (Primitive K S T) Transfer)} (hseen : Act.Seen w (a :: acts))
    (h : (slot w.context x).isSome ∨ Act.Sets x [a]) :
    (slot (Move.runAll w a.move?.toList).context x).isSome := by
  rcases h with hset | ⟨l, htarget, hmem⟩
  · cases a with
    | acted l v => exact l.isSome_slot_act hset
    | entered n =>
      -- A node that is entered draws an order at most.
      rcases n with _ | ⟨_ | _ | _, _⟩ | _ | _ | _ <;> exact hset
    | drew count => exact hset
    | emitted e => exact hset
    | raised n fault => exact hset
  · obtain rfl := List.mem_singleton.1 hmem
    exact Primitive.isSome_slot_act_target hseen.head htarget

/-- What is set at the start, or by a leaf on the way, is set afterwards. -/
theorem isSome_slot_runAll {acts : List (Act (Primitive K S T) Transfer)}
    (hseen : Act.Seen w acts) (h : (slot w.context x).isSome ∨ Act.Sets x acts) :
    (slot (Move.runAll w (Act.moves acts)).context x).isSome := by
  -- The world moves on with every act, so the induction is on the acts that are still to come.
  induction acts generalizing w with
  | nil =>
    rcases h with hset | ⟨l, -, hmem⟩
    · exact hset
    · simp at hmem
  | cons a acts ih =>
    rw [Act.moves_cons, Move.runAll_append]
    apply ih hseen.tail
    rcases h with hset | ⟨l, htarget, hmem⟩
    · exact .inl (isSome_slot_runAll_move? hseen (.inl hset))
    · rcases List.mem_cons.1 hmem with hfirst | hlater
      · have hsets : Act.Sets x [a] := ⟨l, htarget, List.mem_singleton.2 hfirst⟩
        exact .inl (isSome_slot_runAll_move? hseen (.inr hsets))
      · exact .inr ⟨l, htarget, hlater⟩

/-- What it means for an evaluation that starts in the world `w` that set slots stay set. -/
structure SetSlotsStay (task : Task (Primitive K S T)) (w : World C) : Prop where
  /-- At every point, a slot is set that was set at the start or that a leaf has set since. -/
  kept : ∀ acts u, task.Passes (.start w) acts u → ∀ x,
    (slot w.context x).isSome ∨ Act.Sets x acts → (slot u.context x).isSome
  /-- A fault about an unset slot names a slot. -/
  named : ∀ node name t, task.Answers (.start w) (.error (.unsetSlot node name)) t →
    ∃ x : S, slotName C x = name
  /-- This slot was unset at the start, no leaf had set it, and a leaf of the tree reads it. -/
  unset : ∀ acts node x t, task.Runs (.start w) acts (.error (.unsetSlot node (slotName C x))) t →
    slot w.context x = none ∧ ¬ Act.Sets x acts ∧
      ((node = "PushToStack" ∧ ∃ k, PartOf (.leaf (.push x k)) task.nodes) ∨
        (node = "SetVariable" ∧ ∃ y, PartOf (.leaf (.assign y x)) task.nodes))
  /-- If all slots are set at the start, then there is no such fault. -/
  allSet : (∀ x, (slot w.context x).isSome) →
    ∀ node name t, ¬ task.Answers (.start w) (.error (.unsetSlot node name)) t

/-- A fault about an unset slot is about the slot that a leaf of the tree reads, and this slot is
unset in the end. -/
theorem Task.Runs.unsetSlot {task : Task (Primitive K S T)}
    {acts : List (Act (Primitive K S T) Transfer)} {s t : Scene (Primitive K S T) C Transfer}
    {node name : String} (h : task.Runs s acts (.error (.unsetSlot node name)) t) :
    ∃ x, slotName C x = name ∧ slot t.world.context x = none ∧
      ((node = "PushToStack" ∧ ∃ k, PartOf (.leaf (.push x k)) task.nodes) ∨
        (node = "SetVariable" ∧ ∃ y, PartOf (.leaf (.assign y x)) task.nodes)) := by
  obtain ⟨before, last, -, -, hlast⟩ := h.conclusive
  cases hlast with
  | @leaf l w' hpart hv hworld =>
    obtain ⟨hsame, x, hunset, hreader⟩ := Primitive.act_eq_error hv
    have hend : t.world.context = w'.context := (congrArg World.context hworld).symm.trans hsame
    rw [← hend] at hunset
    rcases hreader with ⟨k, rfl, hfault⟩ | ⟨y, rfl, hfault⟩
    · obtain ⟨rfl, rfl⟩ := Fault.unsetSlot.inj hfault
      exact ⟨x, rfl, hunset, .inl ⟨rfl, k, hpart⟩⟩
    · obtain ⟨rfl, rfl⟩ := Fault.unsetSlot.inj hfault
      exact ⟨x, rfl, hunset, .inr ⟨rfl, y, hpart⟩⟩
  | unbound _ hfault => exact nomatch hfault
  | loop _ _ _ hfault => exact nomatch hfault

/-- At the end of an evaluation, too, what was set is set. -/
theorem Task.Runs.isSome_slot {task : Task (Primitive K S T)}
    {acts : List (Act (Primitive K S T) Transfer)} {v : Verdict}
    {t : Scene (Primitive K S T) C Transfer} (h : task.Runs (.start w) acts v t)
    (hx : (slot w.context x).isSome ∨ Act.Sets x acts) : (slot t.world.context x).isSome := by
  rw [h.replays.world]
  exact isSome_slot_runAll h.replays.seen hx

/-- Slots that are set stay set. Let a tree of leaves over a blackboard, whose slots have different
names, be evaluated in any world. At every point of the evaluation all slots are set that were set
at the start or that a leaf has set since. So a fault about an unset slot is about the start: it
names the slot that a leaf reads, which was unset then and was not set before the fault. -/
theorem set_slots_stay_set (hnames : Function.Injective (slotName C : S → String))
    (task : Task (Primitive K S T)) (w : World C) : SetSlotsStay task w where
  kept acts u hpasses x hx := by
    obtain ⟨rfl, hseen⟩ := hpasses.seen
    exact isSome_slot_runAll hseen hx
  named node name t ht := by
    obtain ⟨acts, hacts⟩ := Task.exists_runs_iff.2 ht
    obtain ⟨x, hx, -⟩ := hacts.unsetSlot
    exact ⟨x, hx⟩
  unset acts node x t hacts := by
    obtain ⟨y, hy, hunset, hreader⟩ := hacts.unsetSlot
    obtain rfl := hnames hy
    -- The slot is unset in the end, so it never was set.
    have hnever : ¬ ((slot w.context y).isSome ∨ Act.Sets y acts) := by
      intro hset
      have hend := hacts.isSome_slot hset
      simp [hunset] at hend
    obtain ⟨hstart, hsets⟩ := not_or.1 hnever
    exact ⟨Option.not_isSome_iff_eq_none.1 hstart, hsets, hreader⟩
  allSet hall node name t ht := by
    obtain ⟨acts, hacts⟩ := Task.exists_runs_iff.2 ht
    obtain ⟨x, -, hunset, -⟩ := hacts.unsetSlot
    have hend := hacts.isSome_slot (.inl (hall x))
    simp [hunset] at hend

end

/-- One slot is set from the start and two are set on the way, but the last leaf reads the third,
which stays unset. -/
theorem set_slots_stay_set_unloading :
    let start : World Board :=
      ⟨{ Board.blank with alpha := ["a", "b"], x := some "0" }, .clear, .ofSeed 0⟩
    let task := Task.node Board.unloading
    ∃ acts t, task.Runs (.start start) acts (.error (.unsetSlot "PushToStack" "z")) t ∧
      SetSlotsStay task start ∧
      (∀ before u, task.Passes (.start start) before u → (slot u.context Board.SlotName.x).isSome) ∧
      slot start.context Board.SlotName.z = none ∧ ¬ Act.Sets Board.SlotName.z acts ∧
      t.world.context = { Board.blank with x := some "b", y := some "b" } := by
  intro start task
  have hrun : (task.behavior 3 (.start start)).map (fun (v, t) => (v, t.world.context)) =
      some (.error (.unsetSlot "PushToStack" "z"),
        { Board.blank with x := some "b", y := some "b" }) := by
    decide +kernel
  obtain ⟨⟨v, t⟩, hv, hshown⟩ := Option.map_eq_some_iff.1 hrun
  obtain ⟨rfl, hcontext⟩ := Prod.mk.inj hshown
  obtain ⟨acts, hacts⟩ := Task.exists_runs_iff.2 ⟨3, hv⟩
  have hlaw := set_slots_stay_set Board.slotName_injective task start
  obtain ⟨hstart, hsets, -⟩ := hlaw.unset acts "PushToStack" Board.SlotName.z t hacts
  exact ⟨acts, t, hacts, hlaw, fun before u hu => hlaw.kept before u hu _ (.inl rfl), hstart, hsets,
    hcontext⟩

end TickTree
