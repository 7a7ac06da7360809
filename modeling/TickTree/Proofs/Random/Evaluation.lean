import TickTree.Doors.Entry
import TickTree.Proofs.Course
import TickTree.Proofs.Random.Reader
import TickTree.Workbench.Leaf

/-!
# Evaluations are readings

A node that is ticked may draw orders and tick leaves that draw numbers. As long as the leaves do
nothing with the random source but read words, the whole evaluation does nothing else with it. What
it returns and what it leaves, apart from the random source, is decided by the words that it reads,
and the random source is left behind these words. This holds for every node, however often its loops
go around, and for visits to a building.

## Main definitions

* `Scene.Bare`: a scene without its random source
* `Leaf.Reads`: leaves that only read words
* `Behavior.Reads`: behaviors that only read words

## Main results

* `Behavior.reads_closed`: the steps of an evaluation only read words
* `Task.reads`: so do whole evaluations
* `Config.enter_reading`: so do visits to a building
-/

namespace TickTree

variable {L C E : Type}

/-! ### Scenes without random source -/

/-- What there is in a scene apart from the random source. -/
structure Scene.Bare (L C E : Type) where
  context : C
  flags : Flags
  history : Array (Occurrence L E)

namespace Scene

/-- A scene without its random source. -/
def bare (s : Scene L C E) : Bare L C E := ⟨s.world.context, s.world.flags, s.history⟩

/-- The scene in which the random source is this one. -/
def Bare.drawing (s : Bare L C E) (g : Generator) : Scene L C E :=
  ⟨⟨s.context, s.flags, g⟩, s.history⟩

/-- Adds an entry to the history. -/
def Bare.log (s : Bare L C E) (o : Occurrence L E) : Bare L C E :=
  { s with history := s.history.push o }

end Scene

/-! ### Leaves -/

/-- A leaf does nothing with the random source but read words from it, and what it returns, leaves
and reports depends on these. -/
def Leaf.Reads (C : Type) {E : Type} [Leaf L C E] (l : L) : Prop :=
  ∀ (context : C) (flags : Flags), Reading fun g =>
    let reply : Reply C E := Leaf.tick l ⟨context, flags, g⟩
    some ((reply.verdict, reply.world.context, reply.world.flags, reply.notes),
      reply.world.generator)

/-- A leaf makes no use of the random source. It does the same whatever the source is, and leaves
the source as it is. -/
def Leaf.DrawsNothing (C : Type) {E : Type} [Leaf L C E] (l : L) : Prop :=
  ∀ (w : World C) (g : Generator),
    let reply : Reply C E := Leaf.tick l w
    (Leaf.tick l { w with generator := g } : Reply C E) =
      { reply with world := { reply.world with generator := g } }

theorem Leaf.DrawsNothing.reads [Leaf L C E] {l : L} (h : Leaf.DrawsNothing C l) :
    Leaf.Reads C l := by
  intro context flags
  let reply : Reply C E := Leaf.tick l ⟨context, flags, .ofSeed 0⟩
  refine (Reading.pure (reply.verdict, reply.world.context, reply.world.flags,
    reply.notes)).congr fun g => ?_
  have hg := h ⟨context, flags, .ofSeed 0⟩ g
  dsimp only at hg ⊢
  rw [hg]

/-- Leaves over a blackboard have nothing to do with chance. -/
theorem Primitive.drawsNothing {K S T : Type} [Blackboard C K S T] [ToString T]
    (leaf : Primitive K S T) : Leaf.DrawsNothing C leaf := fun _ _ => rfl

theorem DoorLeaf.drawsNothing_move (leaf : Primitive Visit.DoorStack Visit.DoorSlot Door) :
    Leaf.DrawsNothing Visit (DoorLeaf.move leaf) := fun _ _ => rfl

/-- An action draws only if its policy is a chance. -/
theorem DoorLeaf.drawsNothing_act {action : Action}
    (h : ∀ percent, action.policy ≠ .chance percent) :
    Leaf.DrawsNothing Visit (DoorLeaf.act action) := by
  obtain ⟨name, policy⟩ := action
  rintro ⟨⟨entrances, doors, current, used, journal⟩, flags, -⟩ g
  cases policy with
  | always outcome => rfl
  | chance percent => exact absurd rfl (h percent)
  | script passes => cases current <;> rfl

theorem DoorLeaf.reads (leaf : DoorLeaf) : Leaf.Reads Visit leaf := by
  cases leaf with
  | move leaf => exact (drawsNothing_move leaf).reads
  | act action =>
    obtain ⟨name, policy⟩ := action
    cases policy with
    | chance percent =>
      intro visit flags
      let after (r : Nat) : Verdict × Visit × Flags × List DoorNote :=
        let door := visit.current.map Door.number
        (.ok (.ofBool (r < percent)),
          { visit with journal := visit.journal.push ⟨name, door, r < percent⟩ }, flags,
          [.acted name door (r < percent)])
      exact (Reading.roll 100).map after
    | _ => exact (drawsNothing_act (by simp)).reads

theorem BenchLeaf.drawsNothing_primitive
    (leaf : Primitive Board.StackName Board.SlotName String) :
    Leaf.DrawsNothing Workbench (BenchLeaf.primitive leaf) := fun _ _ => rfl

/-- Of the scripts, only the one that rolls draws. -/
theorem BenchLeaf.drawsNothing_scripted (name : String) {script : Script}
    (h : ∀ percent, script ≠ .roll percent) :
    Leaf.DrawsNothing Workbench (BenchLeaf.scripted name script) := by
  rintro ⟨⟨board, allowance, trace, ticks⟩, flags, -⟩ g
  cases allowance with
  | zero => rfl
  | succ allowance =>
    cases script with
    | roll percent => exact absurd rfl (h percent)
    | _ => rfl

theorem BenchLeaf.reads (leaf : BenchLeaf) : Leaf.Reads Workbench leaf := by
  cases leaf with
  | primitive leaf => exact (drawsNothing_primitive leaf).reads
  | scripted name script =>
    cases script with
    | roll percent =>
      rintro ⟨board, allowance, trace, ticks⟩ flags
      cases allowance with
      | zero => exact Reading.pure ((.error (.cancelled "fuel") : Verdict), _, flags, [])
      | succ allowance =>
        let after (r : Nat) : Verdict × Workbench × Flags × List Transfer :=
          let bench : Workbench := ⟨board, allowance, trace, ticks⟩
          (.ok (.ofBool (r < percent)), bench.write (name ++ "=" ++ toString r), flags, [])
        exact (Reading.roll 100).map after
    | _ => exact (drawsNothing_scripted name (by simp)).reads

/-! ### Behaviors -/

/-- A behavior does nothing with the random source but read words from it, and what it returns and
leaves depends on these. -/
def Behavior.Reads (b : Behavior L C E) : Prop :=
  ∀ s : Scene.Bare L C E, Reading fun g =>
    (b (s.drawing g)).map fun (v, t) => ((v, t.bare), t.world.generator)

namespace Behavior

/-- Returning without a look at the random source is a reading. -/
theorem reading_of_eq {b : Behavior L C E} {s t : Scene.Bare L C E} {v : Verdict}
    (h : ∀ g, b (s.drawing g) = some (v, t.drawing g)) :
    Reading fun g => (b (s.drawing g)).map fun (v, t) => ((v, t.bare), t.world.generator) :=
  (Reading.pure (v, t)).congr fun g => by rw [h g]; rfl

theorem Reads.andThen {b : Behavior L C E} {next : Status → Behavior L C E} (hb : b.Reads)
    (hnext : ∀ status, (next status).Reads) : (b.andThen next).Reads := by
  intro s
  -- A fault is the answer of both, and reads nothing more.
  have hmore (a : Verdict × Scene.Bare L C E) : Reading fun g =>
      match a with
      | (.ok status, t) =>
        (next status (t.drawing g)).map fun (v, t) => ((v, t.bare), t.world.generator)
      | (.error fault, t) => some ((.error fault, t), g) := by
    obtain ⟨fault | status, t⟩ := a
    · exact Reading.pure _
    · exact hnext status t
  refine ((hb s).bind hmore).congr fun g => ?_
  rw [Behavior.andThen]
  rcases b (s.drawing g) with _ | ⟨fault | status, t⟩ <;> rfl

theorem Reads.shuffled {n : Nat} {next : List Nat → Behavior L C E}
    (hnext : ∀ order, (next order).Reads) : (Behavior.shuffled n next).Reads := fun s =>
  (Reading.shuffle n).bind fun order => hnext order (s.log (.shuffled n))

variable [Leaf L C E]

theorem reads_leaf {l : L} (h : Leaf.Reads C l) : (leaf l : Behavior L C E).Reads := by
  intro s
  -- What the leaf reports enters the history before its return, as it does in the scene.
  let after (v : Verdict) (context : C) (flags : Flags) (notes : List E) : Scene.Bare L C E :=
    let history := s.history ++ ((notes.map Event.note).map Occurrence.event).toArray
    ⟨context, flags, history.push (.leaf l v)⟩
  exact (h s.context s.flags).map fun (v, context, flags, notes) =>
    (v, after v context flags notes)

/-- The steps of an evaluation only read words, if the leaves do. -/
theorem reads_closed {parts : Node L → Prop} (h : ∀ l, parts (.leaf l) → Leaf.Reads C l) :
    Closed (fun (b : Behavior L C E) _ => b.Reads) parts where
  stuck _ _ := Reading.fail
  answer status _ := reading_of_eq fun _ => rfl
  andThen := Reads.andThen
  note {event} _ _ s := reading_of_eq (t := s.log (.event event)) fun _ => rfl
  leaf l hl := reads_leaf (h l hl)
  unbound d _ s := reading_of_eq (t := s.log (.unbound d)) fun _ => rfl
  guarded {d child b b'} ticks _ hb s := by
    cases hc : d.watched.any s.flags.isCancelled with
    | true =>
      exact reading_of_eq (t := s.log (.event (d.warning ticks))) fun g =>
        guarded_of_cancelled ticks b hc
    | false =>
      exact (hb s).congr fun g => by rw [guarded_of_not_cancelled ticks b hc]
  shuffled := Reads.shuffled

end Behavior

/-- Whole evaluations only read words, if the leaves do. -/
theorem Task.reads [Leaf L C E] {task : Task L}
    (h : ∀ l, PartOf (.leaf l) task.nodes → Leaf.Reads C l) (limit : Nat) :
    (task.behavior limit : Behavior L C E).Reads :=
  (Behavior.reads_closed h).task (fun _ hp => hp) (Nat.le_refl limit)

/-- A visit to a building that does not set the random source only reads words from it. -/
theorem Config.enter_reading {config : Config} (h : config.seed = none) :
    Reading fun g => (config.enter g).map fun entry =>
      ((entry.result, entry.visit, entry.events), entry.generator) := by
  let visit := (Visit.of ⟨config.doorCount⟩).restart
  have hrun : (Task.tree (Plan.tree (Plan.ofChances config.chances))).behavior (Plan.limit visit)
      |>.Reads := Task.reads (fun l _ => DoorLeaf.reads l) _
  let after (v : Verdict) (t : Scene.Bare DoorLeaf Visit DoorNote) :
      Except EntryError Status × Visit × List (Event DoorNote) :=
    (v.mapError .aborted, t.context, t.history.toList.filterMap Occurrence.event?)
  refine ((hrun ⟨visit, .clear, #[]⟩).map fun (v, t) => after v t).congr fun g => ?_
  rw [Config.enter, Config.reseed, h]
  change Option.map _ ((Plan.run _ _ g).bind _) = Option.map _ ((Plan.run _ _ g).map _)
  rcases Plan.run _ visit g with _ | ⟨v, t⟩ <;> rfl

end TickTree
