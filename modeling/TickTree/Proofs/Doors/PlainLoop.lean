import TickTree.Doors.Plan
import TickTree.Proofs.Answer

/-!
# The plan of a visit is a plain loop

The tree of a visit combines two sequences, a selector, two inverters, a succeeder and a loop, and
turns verdicts around twice. What it does can be said without a tree: the agent goes through the
doors one after the other, carries out actions at each until one fails for good, and leaves when it
got through. This loop is written down as a function on the visit, and the tree is shown to do the
same, whatever is left over from earlier visits and whatever the policies are.

## Main definitions

* `Policy.outcome`: whether an action in front of a door succeeds
* `Attempt`: the visit and what was reported so far
* `Attempt.getThrough`, `Attempt.tryDoors`: one door, and all doors
* `plainLoop`: the whole attempt

## Main results

* `Attempt.ShownAt.getThrough`, `Attempt.Shown.untilFail`: the parts of the tree do what the parts
  of the loop do
* `plan_is_plain_loop`: the tree is the plain loop
-/

namespace TickTree

/-- Whether an action in front of a door succeeds. Only a chance draws a number. -/
def Policy.outcome (policy : Policy) (door : Door) (g : Generator) : Bool × Generator :=
  match policy with
  | always outcome => (outcome, g)
  | chance percent => ((g.roll 100).1 < percent, (g.roll 100).2)
  | script passes => (passes door, g)

/-- The visit and what was reported so far. -/
structure Attempt where
  visit : Visit
  report : List (Event DoorNote)

namespace Attempt

/-- The beginning of an attempt: all doors of the building are to be tried. -/
def begin (visit : Visit) : Attempt := ⟨{ visit with doors := visit.entrances }, []⟩

/-- Adds an event to the report. -/
def say (a : Attempt) (e : Event DoorNote) : Attempt := { a with report := a.report ++ [e] }

/-- Takes down the outcome of an action in front of a door, in the journal and in the report. -/
def enter (a : Attempt) (kind : ActionKind) (door : Door) (succeeded : Bool) : Attempt where
  visit := { a.visit with
    journal := a.visit.journal.push ⟨kind.name, some door.number, succeeded⟩ }
  report := a.report ++ [.note (.acted kind.name (some door.number) succeeded)]

/-- Takes a door from the doors that are still to be tried, of which the rest remains. -/
def stepUp (a : Attempt) (door : Door) (rest : List Door) : Attempt where
  visit := { a.visit with doors := rest, current := some door }
  report := a.report ++ [.note (.moved (.trying (toString door) "doors" "current_door"))]

/-- Remembers that a door led into the building. -/
def use (a : Attempt) (door : Door) : Attempt where
  visit := { a.visit with used := some door }
  report :=
    a.report ++ [.note (.moved (.assigned "used_door" (toString door) "current_door"))]

/-- Carries out an action in front of a door, by its own policy. -/
def act (p : ByAction Policy) (kind : ActionKind) (door : Door) (a : Attempt) (g : Generator) :
    Bool × Attempt × Generator :=
  let (succeeded, g) := (p.get kind).outcome door g
  (succeeded, a.enter kind door succeeded, g)

/-- Opens a door, or else unlocks it, or else smashes it. -/
def getOpen (p : ByAction Policy) (door : Door) (a : Attempt) (g : Generator) :
    Bool × Attempt × Generator :=
  match a.act p .opening door g with
  | (true, a, g) => (true, a, g)
  | (false, a, g) =>
    match a.act p .unlocking door g with
    | (true, a, g) => (true, a, g)
    | (false, a, g) => a.act p .smashing door g

/-- Walks to a door, gets it open, walks through and closes it. Whether it can be closed does not
matter. -/
def getThrough (p : ByAction Policy) (door : Door) (a : Attempt) (g : Generator) :
    Bool × Attempt × Generator :=
  match a.act p .walkTo door g with
  | (false, a, g) => (false, a, g)
  | (true, a, g) =>
    match a.getOpen p door g with
    | (false, a, g) => (false, a, g)
    | (true, a, g) =>
      match a.act p .walkThrough door g with
      | (false, a, g) => (false, a, g)
      | (true, a, g) =>
        match a.act p .closing door g with
        | (_, a, g) => (true, a.use door, g)

/-- Tries doors until the agent gets through one or none is left, after `failed` doors. -/
def tryDoors (p : ByAction Policy) (failed : Nat) :
    List Door → Attempt → Generator → Attempt × Generator
  | [], a, g => (a.say (.untilFailFinished failed), g)
  | door :: rest, a, g =>
    match (a.stepUp door rest).getThrough p door g with
    | (true, a, g) => (a.say (.untilFailFinished failed), g)
    | (false, a, g) => tryDoors p (failed + 1) rest a g

end Attempt

/-- A whole attempt: the agent tries all doors of the building, and the attempt is a success if a
door was used, be it in an earlier one. -/
def plainLoop (p : ByAction Policy) (visit : Visit) (g : Generator) :
    Status × Attempt × Generator :=
  let (a, g) := Attempt.tryDoors p 0 visit.entrances (.begin visit) g
  let status := Status.ofBool a.visit.used.isSome
  (status, a.say (.evaluated status), g)

/-! ### The tree does the same -/

theorem Policy.decide_some (policy : Policy) (door : Door) (g : Generator) :
    policy.decide (some door) g =
      (.ok (policy.outcome door g).1, (policy.outcome door g).2) := by
  cases policy <;> rfl

/-- The scene of an evaluation shows an attempt. -/
structure Attempt.Shown (a : Attempt) (g : Generator) (s : Scene DoorLeaf Visit DoorNote) :
    Prop where
  visit : s.world.context = a.visit
  report : s.events = a.report
  generator : s.world.generator = g

/-- The scene shows an attempt with the agent in front of a door, and these doors still to try. -/
structure Attempt.ShownAt (door : Door) (rest : List Door) (a : Attempt) (g : Generator)
    (s : Scene DoorLeaf Visit DoorNote) : Prop extends Attempt.Shown a g s where
  current : a.visit.current = some door
  doors : a.visit.doors = rest

namespace Attempt

variable {p : ByAction Policy} {door : Door} {rest : List Door} {a a' : Attempt}
  {g g' : Generator} {s : Scene DoorLeaf Visit DoorNote} (limit : Nat)

/-- What a leaf does is shown by the scene that it leaves. -/
theorem Shown.leaf (h : a.Shown g s) (l : DoorLeaf) {reply : Reply Visit DoorNote}
    (hreply : Leaf.tick l s.world = reply) :
    ∃ t, (Node.leaf l).tick limit s = some (reply.verdict, t) ∧
      Shown ⟨reply.world.context, a.report ++ reply.notes.map .note⟩ reply.world.generator t := by
  subst hreply
  refine ⟨_, Behavior.leaf_eq l s, rfl, ?_, rfl⟩
  rw [Scene.events_log_of_event?_eq_none _ rfl, Scene.events_reportAll]
  exact congrArg (· ++ _) h.report

/-- Ticking a leaf over the blackboard is what the leaf does with the visit. -/
theorem Shown.move (h : a.Shown g s) {l : Primitive Visit.DoorStack Visit.DoorSlot Door}
    {verdict : Verdict} {visit : Visit} {transfers : List Transfer}
    (hact : l.act a.visit = (verdict, visit, transfers)) :
    ∃ t, (Node.leaf (DoorLeaf.move l)).tick limit s = some (verdict, t) ∧
      Shown ⟨visit, a.report ++ transfers.map fun what => .note (.moved what)⟩ g t := by
  have hreply : Leaf.tick (DoorLeaf.move l) s.world =
      (⟨verdict, { s.world with context := visit }, transfers.map .moved⟩ :
        Reply Visit DoorNote) := by
    change DoorLeaf.tick _ _ = _
    rw [DoorLeaf.tick, h.visit, hact]
  obtain ⟨t, ht, hshown⟩ := h.leaf limit _ hreply
  rw [List.map_map] at hshown
  exact ⟨t, ht, hshown.visit, hshown.report, hshown.generator.trans h.generator⟩

/-- Ticking the leaf of an action is carrying out the action. -/
theorem ShownAt.action (h : a.ShownAt door rest g s) (kind : ActionKind) {succeeded : Bool}
    (hact : a.act p kind door g = (succeeded, a', g')) :
    ∃ t, (Plan.action p kind).tick limit s = some (.ok (.ofBool succeeded), t) ∧
      a'.ShownAt door rest g' t := by
  obtain ⟨rfl, rfl, rfl⟩ : succeeded = ((p.get kind).outcome door g).1 ∧
      a' = a.enter kind door ((p.get kind).outcome door g).1 ∧
      g' = ((p.get kind).outcome door g).2 := by
    simpa [act, eq_comm] using hact
  have hreply : Leaf.tick (DoorLeaf.act ⟨kind.name, p.get kind⟩) s.world =
      (⟨.ok (.ofBool ((p.get kind).outcome door g).1),
        { s.world with
          context := (a.enter kind door ((p.get kind).outcome door g).1).visit
          generator := ((p.get kind).outcome door g).2 },
        [.acted kind.name (some door.number) ((p.get kind).outcome door g).1]⟩ :
        Reply Visit DoorNote) := by
    change Action.tick _ _ = _
    simp only [Action.tick, Policy.decide_some, h.generator, h.visit, enter, h.current,
      Option.map_some]
  obtain ⟨t, ht, hshown⟩ := h.toShown.leaf limit _ hreply
  exact ⟨t, ht, hshown, h.current, h.doors⟩

/-- The selector of the tree opens, unlocks or smashes the door. -/
theorem ShownAt.getOpen (h : a.ShownAt door rest g s) {opened : Bool}
    (hopen : a.getOpen p door g = (opened, a', g')) :
    ∃ t, Behavior.selector [(Plan.action p .opening).tick limit,
        (Plan.action p .unlocking).tick limit, (Plan.action p .smashing).tick limit] s =
          some (.ok (.ofBool opened), t) ∧ a'.ShownAt door rest g' t := by
  unfold Attempt.getOpen at hopen
  rcases h₁ : a.act p .opening door g with ⟨_ | _, a₁, g₁⟩ <;> simp only [h₁] at hopen <;>
    obtain ⟨s₁, ht₁, hs₁⟩ := h.action limit .opening h₁
  case true =>
    obtain ⟨rfl, rfl, rfl⟩ : true = opened ∧ a₁ = a' ∧ g₁ = g' := by simpa using hopen
    exact ⟨s₁, Behavior.selector_of_success _ ht₁, hs₁⟩
  case false =>
    rw [Behavior.selector_of_failure _ ht₁]
    rcases h₂ : a₁.act p .unlocking door g₁ with ⟨_ | _, a₂, g₂⟩ <;> simp only [h₂] at hopen <;>
      obtain ⟨s₂, ht₂, hs₂⟩ := hs₁.action limit .unlocking h₂
    case true =>
      obtain ⟨rfl, rfl, rfl⟩ : true = opened ∧ a₂ = a' ∧ g₂ = g' := by simpa using hopen
      exact ⟨s₂, Behavior.selector_of_success _ ht₂, hs₂⟩
    case false =>
      rw [Behavior.selector_of_failure _ ht₂]
      obtain ⟨s₃, ht₃, hs₃⟩ := hs₂.action limit .smashing hopen
      refine ⟨s₃, ?_, hs₃⟩
      cases opened with
      | true => exact Behavior.selector_of_success _ ht₃
      | false => exact Behavior.selector_of_failure _ ht₃

/-- The last leaf of a passed door remembers it. -/
theorem ShownAt.assign (h : a.ShownAt door rest g s) :
    ∃ t, (Node.leaf (DoorLeaf.move (.assign .used .current))).tick limit s =
        some (.ok .success, t) ∧ (a.use door).ShownAt door rest g t := by
  have hact : Primitive.act (.assign .used .current) a.visit = (.ok .success, (a.use door).visit,
      [.assigned "used_door" (toString door) "current_door"]) := by
    simp only [Primitive.act, Blackboard.slot, h.current]
    rfl
  obtain ⟨t, ht, hshown⟩ := h.toShown.move limit hact
  exact ⟨t, ht, hshown, h.current, h.doors⟩

/-- The inner sequence of the tree gets the agent through the door. -/
theorem ShownAt.getThrough (h : a.ShownAt door rest g s) {through : Bool}
    (hthrough : a.getThrough p door g = (through, a', g')) :
    ∃ t, (Plan.getThrough p).tick limit s = some (.ok (.ofBool through), t) ∧
      a'.ShownAt door rest g' t := by
  unfold Attempt.getThrough at hthrough
  simp only [Plan.getThrough, Node.tick, Node.tickAll, Behavior.composite, Behavior.decorate]
  rcases hwalk : a.act p .walkTo door g with ⟨_ | _, a₁, g₁⟩ <;> simp only [hwalk] at hthrough <;>
    obtain ⟨s₁, ht₁, hs₁⟩ := h.action limit .walkTo hwalk
  case false =>
    obtain ⟨rfl, rfl, rfl⟩ : false = through ∧ a₁ = a' ∧ g₁ = g' := by simpa using hthrough
    exact ⟨s₁, Behavior.sequence_of_failure _ ht₁, hs₁⟩
  rw [Behavior.sequence_of_success _ ht₁]
  rcases hopen : a₁.getOpen p door g₁ with ⟨_ | _, a₂, g₂⟩ <;> simp only [hopen] at hthrough <;>
    obtain ⟨s₂, ht₂, hs₂⟩ := hs₁.getOpen limit hopen
  case false =>
    obtain ⟨rfl, rfl, rfl⟩ : false = through ∧ a₂ = a' ∧ g₂ = g' := by simpa using hthrough
    exact ⟨s₂, Behavior.sequence_of_failure _ ht₂, hs₂⟩
  rw [Behavior.sequence_of_success _ ht₂]
  rcases hpass : a₂.act p .walkThrough door g₂ with ⟨_ | _, a₃, g₃⟩ <;>
    simp only [hpass] at hthrough <;>
    obtain ⟨s₃, ht₃, hs₃⟩ := hs₂.action limit .walkThrough hpass
  case false =>
    obtain ⟨rfl, rfl, rfl⟩ : false = through ∧ a₃ = a' ∧ g₃ = g' := by simpa using hthrough
    exact ⟨s₃, Behavior.sequence_of_failure _ ht₃, hs₃⟩
  -- From here on the agent is through: the succeeder covers whether the door could be closed.
  rcases hclose : a₃.act p .closing door g₃ with ⟨closed, a₄, g₄⟩
  simp only [hclose] at hthrough
  obtain ⟨rfl, rfl, rfl⟩ : true = through ∧ a₄.use door = a' ∧ g₄ = g' := by simpa using hthrough
  obtain ⟨s₄, ht₄, hs₄⟩ := hs₃.action limit .closing hclose
  obtain ⟨t, ht, hshown⟩ := hs₄.assign limit
  refine ⟨t, ?_, hshown⟩
  rw [Behavior.sequence_of_success _ ht₃]
  have hcover := Behavior.revise_of_ok (fun _ => Status.success) ht₄
  exact (Behavior.sequence_of_success _ hcover).trans (Behavior.sequence_of_success _ ht)

theorem Shown.say (h : a.Shown g s) (e : Event DoorNote) : (a.say e).Shown g (s.report e) := by
  refine ⟨h.visit, ?_, h.generator⟩
  rw [Scene.events_report, h.report]
  rfl

/-- The first leaf of the loop takes the next door. -/
theorem Shown.pop (h : a.Shown g s) (hdoors : a.visit.doors = door :: rest) :
    ∃ t, (Node.leaf (DoorLeaf.move (.pop .doors .current))).tick limit s =
        some (.ok .success, t) ∧ (a.stepUp door rest).ShownAt door rest g t := by
  have hact : Primitive.act (.pop .doors .current) a.visit = (.ok .success,
      (a.stepUp door rest).visit, [.trying (toString door) "doors" "current_door"]) := by
    simp only [Primitive.act, Blackboard.stack, hdoors]
    rfl
  obtain ⟨t, ht, hshown⟩ := h.move limit hact
  exact ⟨t, ht, hshown, rfl, rfl⟩

/-- When no door is left, that leaf fails and nothing changes. -/
theorem Shown.pop_nil (h : a.Shown g s) (hdoors : a.visit.doors = []) :
    ∃ t, (Node.leaf (DoorLeaf.move (.pop .doors .current))).tick limit s =
        some (.ok .failure, t) ∧ a.Shown g t := by
  have hact : Primitive.act (.pop .doors .current) a.visit = (.ok .failure, a.visit, []) := by
    simp only [Primitive.act, Blackboard.stack, hdoors]
  obtain ⟨t, ht, hshown⟩ := h.move limit hact
  rw [List.map_nil, List.append_nil] at hshown
  exact ⟨t, ht, hshown⟩

/-- The loop of the tree tries the doors. It looks at each of them once, and once more when none is
left, so a limit of one more than there are doors is enough. -/
theorem Shown.untilFail {doors : List Door} (h : a.Shown g s) (hdoors : a.visit.doors = doors)
    (failed : Nat) (htry : a.tryDoors p failed doors g = (a', g')) :
    ∃ t, Behavior.untilFail none ((Plan.tryNext p).tick limit) (doors.length + 1) failed s =
        some (.ok .success, t) ∧ a'.Shown g' t := by
  have htick : ((Plan.tryNext p).tick limit : Behavior DoorLeaf Visit DoorNote) = Behavior.sequence
      [(Node.leaf (DoorLeaf.move (.pop .doors .current))).tick limit,
        Behavior.revise Status.invert ((Plan.getThrough p).tick limit)] := rfl
  induction doors generalizing a g s failed with
  | nil =>
    obtain ⟨rfl, rfl⟩ := Prod.mk.inj htry
    obtain ⟨t, ht, hshown⟩ := h.pop_nil limit hdoors
    have hbody : (Plan.tryNext p).tick limit s = some (.ok .failure, t) := by
      rw [htick, Behavior.sequence_of_failure _ ht]
    exact ⟨_, Behavior.untilFail_of_failure _ _ hbody, hshown.say _⟩
  | cons door rest ih =>
    unfold Attempt.tryDoors at htry
    obtain ⟨s₁, ht₁, hs₁⟩ := h.pop limit hdoors
    rcases hthrough : (a.stepUp door rest).getThrough p door g with ⟨_ | _, a₂, g₂⟩ <;>
      simp only [hthrough] at htry <;>
      obtain ⟨s₂, ht₂, hs₂⟩ := hs₁.getThrough limit hthrough <;>
      have hinvert := Behavior.revise_of_ok Status.invert ht₂
    case false =>
      -- The agent is not through, so the body of the loop succeeds.
      have hbody : (Plan.tryNext p).tick limit s = some (.ok .success, s₂) := by
        rw [htick, Behavior.sequence_of_success _ ht₁, Behavior.sequence_of_success _ hinvert]
        rfl
      rw [Behavior.untilFail_of_success _ _ hbody]
      exact ih hs₂.toShown hs₂.doors (failed + 1) htry
    case true =>
      -- The inverter turns the success into the failure that ends the loop.
      obtain ⟨rfl, rfl⟩ := Prod.mk.inj htry
      have hbody : (Plan.tryNext p).tick limit s = some (.ok .failure, s₂) := by
        rw [htick, Behavior.sequence_of_success _ ht₁, Behavior.sequence_of_failure _ hinvert]
      exact ⟨_, Behavior.untilFail_of_failure _ _ hbody, hs₂.toShown.say _⟩

/-- The first leaf of the tree makes all doors of the building the doors to be tried. -/
theorem Shown.get (h : a.Shown g s) :
    ∃ t, (Node.leaf (DoorLeaf.move (.get .doors .entrances none))).tick limit s =
        some (.ok .success, t) ∧
      Shown ⟨{ a.visit with doors := a.visit.entrances }, a.report⟩ g t := by
  obtain ⟨t, ht, hshown⟩ := h.move limit (l := .get .doors .entrances none) rfl
  rw [List.map_nil, List.append_nil] at hshown
  exact ⟨t, ht, hshown⟩

/-- The last test of the tree tells whether a door was used. -/
theorem Shown.wasUsed (h : a.Shown g s) :
    ∃ t, (Node.decorator .inverter (.leaf (DoorLeaf.move (.isUnset .used)))).tick limit s =
        some (.ok (.ofBool a.visit.used.isSome), t) ∧ a.Shown g t := by
  have hact : Primitive.act (.isUnset .used) a.visit =
      (.ok (.ofBool a.visit.used.isNone), a.visit, []) := rfl
  obtain ⟨t, ht, hshown⟩ := h.move limit hact
  rw [List.map_nil, List.append_nil] at hshown
  refine ⟨t, (Behavior.revise_of_ok Status.invert ht).trans ?_, hshown⟩
  cases a.visit.used <;> rfl

end Attempt

/-- The evaluation of the tree returns what the plain loop returns, and its scene shows the same
attempt. -/
theorem Plan.run_eq_plainLoop (p : ByAction Policy) (visit : Visit) (g : Generator) :
    ∃ scene, Plan.run (Plan.tree p) visit g = some (.ok (plainLoop p visit g).1, scene) ∧
      (plainLoop p visit g).2.1.Shown (plainLoop p visit g).2.2 scene := by
  have hstart : Attempt.Shown ⟨visit, []⟩ g (.start ⟨visit, .clear, g⟩) := ⟨rfl, rfl, rfl⟩
  rcases hloop : Attempt.tryDoors p 0 visit.entrances (.begin visit) g with ⟨a, g'⟩
  have hplain : plainLoop p visit g = (.ofBool a.visit.used.isSome,
      a.say (.evaluated (.ofBool a.visit.used.isSome)), g') := by
    rw [plainLoop, hloop]
  obtain ⟨s₁, ht₁, hs₁⟩ := hstart.get (Plan.limit visit)
  obtain ⟨s₂, ht₂, hs₂⟩ := hs₁.untilFail (Plan.limit visit) rfl 0 hloop
  obtain ⟨s₃, ht₃, hs₃⟩ := hs₂.wasUsed (Plan.limit visit)
  have hroot : (Plan.tree p).root.tick (Plan.limit visit) (.start ⟨visit, .clear, g⟩) =
      some (.ok (.ofBool a.visit.used.isSome), s₃) := by
    refine (Behavior.sequence_of_success _ ht₁).trans ?_
    refine (Behavior.sequence_of_success _ ht₂).trans ?_
    -- The last child of a sequence decides, whichever status it returns.
    cases hused : a.visit.used.isSome <;> rw [hused] at ht₃
    · exact Behavior.sequence_of_failure _ ht₃
    · exact Behavior.sequence_of_success _ ht₃
  rw [hplain]
  refine ⟨_, ?_, hs₃.say _⟩
  rw [Plan.run, Tree.run, Behavior.evaluation, hroot]

/-- The tree of a visit is the plain loop. For every visit, whatever is left over from earlier
attempts, every random source and every choice of policies, the evaluation ends, it ends without a
fault, and its status, visit, random source and report are those of the loop. -/
theorem plan_is_plain_loop (p : ByAction Policy) (visit : Visit) (g : Generator) :
    ∃ scene, Plan.run (Plan.tree p) visit g = some (.ok (plainLoop p visit g).1, scene) ∧
      scene.world.context = (plainLoop p visit g).2.1.visit ∧
      scene.world.generator = (plainLoop p visit g).2.2 ∧
      scene.events = (plainLoop p visit g).2.1.report ∧
      ∀ v t, (Plan.tree p).Answers (.start ⟨visit, .clear, g⟩) v t ↔
        v = .ok (plainLoop p visit g).1 ∧ t = scene := by
  obtain ⟨scene, hrun, hshown⟩ := Plan.run_eq_plainLoop p visit g
  refine ⟨scene, hrun, hshown.visit, hshown.generator, hshown.report, fun v t => ?_⟩
  constructor
  · intro h
    exact h.unique ⟨_, hrun⟩
  · rintro ⟨rfl, rfl⟩
    exact ⟨_, hrun⟩

end TickTree
