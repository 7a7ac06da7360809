import Mathlib.Data.List.Basic
import TickTree.Proofs.Fault
import TickTree.Proofs.StepLaw

/-!
# The log tells what the slots hold

The leaves over a blackboard report every write of a slot: a leaf that takes an item from a stack
says what it took and where it put it, and a leaf that copies a slot says what the other slot holds
from now on. Nothing else writes a slot. Whoever knows what the slots held at the start can
therefore follow the log and knows what they hold in the end, however the evaluation ends.

The reader of the log has nothing but records. The name of the slot is a field of the record, and
the text that the slot received is what the message says behind a fixed beginning.

## Main definitions

* `SlotWrite`, `Record.slotWrite?`: what a record says about a slot
* `Slots.replay`: what the slots hold after the writes of a log
* `SlotsLogged`: a log accounts for the slots of a context

## Main results

* `SlotsLogged.act`: the log of one leaf accounts for what the leaf does to the slots
* `log_tells_slots`: the log of an evaluation does, whatever tree is evaluated
-/

namespace TickTree

/-! ### Reading the log -/

/-- What a record says about a slot. -/
structure SlotWrite where
  /-- The name of the slot that was written. -/
  slot : String
  /-- The text that it received. -/
  text : String
  /-- The name of the slot that the text was copied from, if it was copied. -/
  source : Option String
  deriving DecidableEq, Repr

/-- What a text says behind its beginning. -/
def textBehind? (beginning text : String) : Option String :=
  (beginning.toList.isPrefixOf? text.toList).map String.ofList

theorem textBehind?_append (beginning rest : String) :
    textBehind? beginning (beginning ++ rest) = some rest := by
  have hlist : beginning.toList.isPrefixOf? (beginning ++ rest).toList = some rest.toList := by
    rw [List.isPrefixOf?_eq_some_iff_append_eq, String.toList_append]
  rw [textBehind?, hlist, Option.map_some, String.ofList_toList]

/-- The write that a record tells of, if it is the information of a leaf about a slot. -/
def Record.slotWrite? (r : Record) : Option SlotWrite :=
  match r.level, r.target, r.fields with
  | .info, "behavior_tree::leaf", [("stack", _), ("slot", slot)] =>
    (textBehind? "trying " r.message).map (⟨slot.value, ·, none⟩)
  | .info, "behavior_tree::leaf", [("variable", target), ("source", source)] =>
    (textBehind? (target.value ++ " is now ") r.message).map
      (⟨target.value, ·, some source.value⟩)
  | _, _, _ => none

theorem slotWrite?_trying (item stack slot : String) :
    (Transfer.trying item stack slot).toRecord.slotWrite? = some ⟨slot, item, none⟩ := by
  have htext := textBehind?_append "trying " item
  simp [Transfer.toRecord, Record.slotWrite?, Field.value, htext]

theorem slotWrite?_assigned (target item source : String) :
    (Transfer.assigned target item source).toRecord.slotWrite? =
      some ⟨target, item, some source⟩ := by
  have htext := textBehind?_append (target ++ " is now ") item
  simp [Transfer.toRecord, Record.slotWrite?, Field.value, htext]

/-- Only leaves tell of slots. -/
theorem slotWrite?_eq_none {e : Event Transfer} (h : ∀ what, e ≠ .note what) :
    e.toRecord.slotWrite? = none := by
  cases e with
  | note what => exact absurd rfl (h what)
  | _ => simp [Event.toRecord, Record.slotWrite?]

section

variable {C K S : Type} [Blackboard C K S String]

/-! ### Following the log -/

/-- What the slots of a context hold after a write. -/
def Slots.write (C : Type) {K S : Type} [Blackboard C K S String] (slots : S → Option String)
    (w : SlotWrite) : S → Option String := fun x =>
  if Blackboard.slotName C x = w.slot then some w.text else slots x

/-- What the slots of a context hold after the writes of a log, one after the other. -/
def Slots.replay (C : Type) {K S : Type} [Blackboard C K S String] (slots : S → Option String)
    (log : List Record) : S → Option String :=
  (log.filterMap Record.slotWrite?).foldl (write C) slots

theorem Slots.replay_append (slots : S → Option String) (log more : List Record) :
    replay C slots (log ++ more) = replay C (replay C slots log) more := by
  rw [replay, List.filterMap_append, List.foldl_append]
  rfl

/-- A log accounts for the slots that were written between two states of a context. -/
structure SlotsLogged (c : C) (log : List Record) (c' : C) : Prop where
  /-- Following the log from the one state leads to the other. -/
  final : Slots.replay C (Blackboard.slot c) log = Blackboard.slot c'
  /-- A text that is said to be copied from a slot is what this slot holds where the log says so. -/
  copied : ∀ before r after w source, log = before ++ r :: after → r.slotWrite? = some w →
    w.source = some source →
    ∃ y, Blackboard.slotName C y = source ∧
      Slots.replay C (Blackboard.slot c) before y = some w.text

namespace SlotsLogged

variable {c c' c'' : C} {log more : List Record}

theorem refl (c : C) : SlotsLogged c [] c := ⟨rfl, by simp⟩

theorem trans (h : SlotsLogged c log c') (h' : SlotsLogged c' more c'') :
    SlotsLogged c (log ++ more) c'' where
  final := by rw [Slots.replay_append, h.final, h'.final]
  copied := by
    intro before r after w source hlog hw hsource
    rcases append_eq_append_cons hlog with ⟨after', hsplit⟩ | ⟨before', rfl, hsplit⟩
    · exact h.copied before r after' w source hsplit hw hsource
    · -- The copy is reported in the second log, after all of the first.
      rw [Slots.replay_append, h.final]
      exact h'.copied before' r after w source hsplit hw hsource

/-- A record that tells of no slot changes nothing. -/
theorem quiet {r : Record} (h : r.slotWrite? = none) (c : C) : SlotsLogged c [r] c where
  final := by simp [Slots.replay, h]
  copied := by
    intro before r' after w source hlog hw _
    rcases cons_eq_append_cons hlog with ⟨-, rfl⟩ | ⟨before', -, hnil⟩
    · exact nomatch h.symm.trans hw
    · simp at hnil

/-- A record that tells of one write accounts for it, if slots have different names. -/
theorem write (hnames : Function.Injective (Blackboard.slotName C : S → String)) {r : Record}
    {x : S} {text : String} {source : Option String} {c c' : C}
    (hr : r.slotWrite? = some ⟨Blackboard.slotName C x, text, source⟩)
    (hself : Blackboard.slot c' x = some text)
    (hother : ∀ y, y ≠ x → Blackboard.slot c' y = Blackboard.slot c y)
    (hsource : ∀ name, source = some name →
      ∃ y, Blackboard.slotName C y = name ∧ Blackboard.slot c y = some text) :
    SlotsLogged c [r] c' where
  final := by
    funext y
    simp only [Slots.replay, List.filterMap_cons, hr, List.filterMap_nil, List.foldl_cons,
      List.foldl_nil, Slots.write]
    by_cases hy : y = x
    · rw [hy, if_pos rfl, hself]
    · rw [if_neg (hnames.ne hy), hother y hy]
  copied := by
    intro before r' after w name hlog hw hname
    rcases cons_eq_append_cons hlog with ⟨rfl, rfl⟩ | ⟨before', -, hnil⟩
    · obtain rfl := Option.some.inj (hr.symm.trans hw)
      exact hsource name hname
    · simp at hnil

/-- What a leaf reports accounts for what it does to the slots. -/
theorem act (hnames : Function.Injective (Blackboard.slotName C : S → String))
    (l : Primitive K S String) (c : C) :
    SlotsLogged c ((l.act c).2.2.map Transfer.toRecord) (l.act c).2.1 := by
  have hsilent {c' : C} (h : Blackboard.slot c' = Blackboard.slot c) : SlotsLogged c [] c' :=
    ⟨h.symm, by simp⟩
  cases l with
  | push item target =>
    cases hitem : Blackboard.slot c item with
    | none => simpa [Primitive.act, hitem] using refl c
    | some value =>
      simp only [Primitive.act, hitem]
      exact hsilent (funext fun y => Blackboard.slot_setStack ..)
  | get target source extra => exact hsilent (funext fun y => Blackboard.slot_setStack ..)
  | pop source item =>
    cases hstack : Blackboard.stack c source with
    | nil => simpa [Primitive.act, hstack] using refl c
    | cons value rest =>
      simp only [Primitive.act, hstack]
      refine write hnames (slotWrite?_trying ..) (Blackboard.slot_setSlot_self ..) ?_ (by simp)
      intro y hy
      rw [Blackboard.slot_setSlot_of_ne _ _ hy, Blackboard.slot_setStack]
  | isEmpty source => exact refl c
  | assign target source =>
    cases hsource : Blackboard.slot c source with
    | none => simpa [Primitive.act, hsource] using refl c
    | some value =>
      simp only [Primitive.act, hsource]
      refine write hnames (slotWrite?_assigned ..) (Blackboard.slot_setSlot_self ..) ?_ ?_
      · intro y hy
        exact Blackboard.slot_setSlot_of_ne _ _ hy
      · rintro name hname
        obtain rfl := Option.some.inj hname
        exact ⟨source, rfl, hsource⟩
  | isUnset source => exact refl c

end SlotsLogged

/-! ### Whole evaluations -/

/-- What was reported between two scenes accounts for what became of the slots. -/
def Scene.LogsSlots (s t : Scene (Primitive K S String) C Transfer) : Prop :=
  ∃ news, t.events = s.events ++ news ∧
    SlotsLogged s.world.context (news.map Event.toRecord) t.world.context

namespace Scene.LogsSlots

variable {s t : Scene (Primitive K S String) C Transfer}

theorem of_events_eq (hevents : t.events = s.events)
    (hcontext : t.world.context = s.world.context) : s.LogsSlots t :=
  ⟨[], by rw [hevents, List.append_nil], hcontext ▸ .refl _⟩

/-- Only leaves write slots and tell of them. -/
theorem stepLaw : StepLaw (LogsSlots (K := K) (S := S) (C := C)) where
  refl s := of_events_eq rfl rfl
  trans := by
    rintro s u t ⟨news, hu, hlogged⟩ ⟨more, ht, hlogged'⟩
    refine ⟨news ++ more, by rw [ht, hu, List.append_assoc], ?_⟩
    rw [List.map_append]
    exact hlogged.trans hlogged'
  report s e he := ⟨[e], Scene.events_report s e, .quiet (slotWrite?_eq_none he) _⟩
  unbound s d := of_events_eq (Scene.events_log_of_event?_eq_none s rfl) rfl
  shuffled s n := of_events_eq (Scene.events_log_of_event?_eq_none _ rfl) rfl

theorem leaf (hnames : Function.Injective (Blackboard.slotName C : S → String))
    (l : Primitive K S String) {v : Verdict} (h : Behavior.leaf l s = some (v, t)) :
    s.LogsSlots t := by
  rw [Behavior.leaf_eq] at h
  obtain ⟨-, rfl⟩ := Prod.mk.inj (Option.some.inj h)
  refine ⟨(l.act s.world.context).2.2.map .note, ?_, ?_⟩
  · rw [Scene.events_log_of_event?_eq_none _ rfl, Scene.events_reportAll]
    rfl
  · rw [List.map_map]
    exact SlotsLogged.act hnames l s.world.context

end Scene.LogsSlots

/-- The log tells what the slots hold. Let a tree of leaves over a blackboard, whose slots have
different names, be evaluated in any world, and let the evaluation end in any way. Then following
the records of the evaluation from what the slots held at the start leads to what they hold in the
end, and each record of a copy carries what the log says about the copied slot up to there. -/
theorem log_tells_slots (hnames : Function.Injective (Blackboard.slotName C : S → String))
    (task : Task (Primitive K S String)) (w : World C) {v : Verdict}
    {t : Scene (Primitive K S String) C Transfer} (h : task.Answers (.start w) v t) :
    SlotsLogged w.context (t.events.map Event.toRecord) t.world.context := by
  have hlaw : (Scene.start w).LogsSlots t :=
    Scene.LogsSlots.stepLaw.of_answers (fun l _ _ _ _ => Scene.LogsSlots.leaf hnames l) h
  obtain ⟨news, hevents, hlogged⟩ := hlaw
  rw [Scene.events_start, List.nil_append] at hevents
  rwa [hevents]

end

/-- The slots of a board have different names. -/
theorem Board.slotName_injective :
    Function.Injective (Blackboard.slotName Board : Board.SlotName → String) := by
  intro slot other h
  cases slot <;> cases other <;> first | rfl | exact absurd h (by decide)

/-- Moves all of a stack into a slot, item by item, and copies each; then it needs a slot that may
be unset. -/
def Board.unloading : Node (Primitive Board.StackName Board.SlotName String) :=
  .composite .sequence [
    .decorator (.untilFail none) (.composite .sequence
      [.leaf (.pop .alpha .x), .leaf (.assign .y .x)]),
    .leaf (.push .z .beta)]

/-- The evaluation ends with a fault, and the log accounts for the four writes before it. -/
theorem log_tells_slots_unloading :
    let start : World Board := ⟨{ Board.blank with alpha := ["a", "b"] }, .clear, .ofSeed 0⟩
    ∃ t, (Task.node Board.unloading).Answers (.start start)
        (.error (.unsetSlot "PushToStack" "z")) t ∧
      SlotsLogged start.context (t.events.map Event.toRecord) t.world.context ∧
      (t.events.map Event.toRecord).filterMap Record.slotWrite? =
        [⟨"x", "a", none⟩, ⟨"y", "a", some "x"⟩, ⟨"x", "b", none⟩, ⟨"y", "b", some "x"⟩] ∧
      t.world.context = { Board.blank with x := some "b", y := some "b" } := by
  intro start
  have hrun : ((Task.node Board.unloading).behavior 3 (.start start)).map
      (fun (v, t) => (v, t.events, t.world.context)) =
        some (.error (.unsetSlot "PushToStack" "z"),
          [.note (.trying "a" "alpha" "x"), .note (.assigned "y" "a" "x"),
            .note (.trying "b" "alpha" "x"), .note (.assigned "y" "b" "x"), .untilFailFinished 2],
          { Board.blank with x := some "b", y := some "b" }) := by
    decide +kernel
  obtain ⟨⟨v, t⟩, hv, hshown⟩ := Option.map_eq_some_iff.1 hrun
  simp only [Prod.mk.injEq] at hshown
  obtain ⟨rfl, hevents, hcontext⟩ := hshown
  have ht : (Task.node Board.unloading).Answers (.start start) _ t := ⟨3, hv⟩
  have hlogged := log_tells_slots Board.slotName_injective (.node Board.unloading) start ht
  refine ⟨t, ht, hlogged, ?_, hcontext⟩
  have hnote (what : Transfer) : (Event.note what).toRecord = what.toRecord := rfl
  have hfinished : (Event.untilFailFinished 2 : Event Transfer).toRecord.slotWrite? = none :=
    slotWrite?_eq_none (by simp)
  simp only [hevents, List.map_cons, List.map_nil, List.filterMap_cons, List.filterMap_nil, hnote,
    slotWrite?_trying, slotWrite?_assigned, hfinished]

end TickTree
