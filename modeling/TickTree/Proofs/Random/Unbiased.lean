import TickTree.Proofs.Random.DrawVector
import TickTree.Proofs.ShortCircuit

/-!
# Visiting in an unbiased order

A random selector visits its children in the order in which its draws leave their places. If all of
them fail, it visits each of them, so that the whole order shows, and the draws can be told from it:
every order of the children is visited with exactly one list of draws. No order has more draws that
lead to it than another, and no child is kept from any position.

Children that are alike are told apart by their places. So what is followed here is not only which
nodes are ticked, as in the course of a task, but also from which places they are taken.

## Main definitions

* `Tour`: what comes of visiting places in an order
* `FailInAnyOrder`: children that all fail, however they are visited
* `VisitsInOrder`: with some draws, all children are visited in an order
* `UnbiasedOrders`: what draws and orders have to do with each other

## Main results

* `Task.runs_inOrder_iff_exists_tour`: nodes that are taken from places are ticked on a tour
* `tour_failure_iff`: a tour on which all fail is one of the whole order
* `random_orders_are_unbiased`: the law
-/

namespace TickTree

variable {L C E : Type} [Leaf L C E]

/-! ### Tours -/

/-- Children are visited at the places of an order until one of them does not fail: the order, the
scene, the places that are visited, what is done there and what comes of it. -/
inductive Tour (children : List (Node L)) : List Nat → Scene L C E → List Nat → List (Act L E) →
    Verdict → Scene L C E → Prop
  -- No place is left.
  | nil {s} : Tour children [] s [] [] (.ok .failure) s
  -- The child at a place fails, and the next place is visited.
  | next {place order child s u t acts visited rest v} : children[place]? = some child →
      (Task.node child).Runs s acts (.ok .failure) u → Tour children order u visited rest v t →
      Tour children (place :: order) s (place :: visited) (acts ++ rest) v t
  -- The child at a place does not fail, and no other place is visited.
  | stop {place order child s t acts v} : children[place]? = some child → v ≠ .ok .failure →
      (Task.node child).Runs s acts v t → Tour children (place :: order) s [place] acts v t

section

variable {children : List (Node L)} {order visited : List Nat} {s t : Scene L C E}
  {acts : List (Act L E)} {v : Verdict}

@[simp] theorem tour_nil_iff : Tour children [] s visited acts v t ↔
    visited = [] ∧ acts = [] ∧ v = .ok .failure ∧ s = t := by
  constructor
  · intro h
    cases h
    exact ⟨rfl, rfl, rfl, rfl⟩
  · rintro ⟨rfl, rfl, rfl, rfl⟩
    exact .nil

theorem tour_cons_iff {place : Nat} {child : Node L} (hplace : children[place]? = some child) :
    Tour children (place :: order) s visited acts v t ↔
      (∃ first u more rest, (Task.node child).Runs s first (.ok .failure) u ∧
        Tour children order u more rest v t ∧ visited = place :: more ∧ acts = first ++ rest) ∨
      v ≠ .ok .failure ∧ (Task.node child).Runs s acts v t ∧ visited = [place] := by
  constructor
  · intro h
    cases h with
    | next hchild hfirst hrest =>
      obtain rfl := Option.some.inj (hplace.symm.trans hchild)
      exact .inl ⟨_, _, _, _, hfirst, hrest, rfl, rfl⟩
    | stop hchild hv hruns =>
      obtain rfl := Option.some.inj (hplace.symm.trans hchild)
      exact .inr ⟨hv, hruns, rfl⟩
  · rintro (⟨first, u, more, rest, hfirst, hrest, rfl, rfl⟩ | ⟨hv, hruns, rfl⟩)
    · exact .next hplace hfirst hrest
    · exact .stop hplace hv hruns

/-- Nodes that are taken from the places of an order are ticked on a tour of these places. -/
theorem Task.runs_inOrder_iff_exists_tour (horder : ∀ place ∈ order, place < children.length) :
    (inOrder .failure (order.filterMap (children[·]?))).Runs s acts v t ↔
      ∃ visited, Tour children order s visited acts v t := by
  induction order generalizing s acts with
  | nil => simp [runs_inOrder_nil_iff]
  | cons place order ih =>
    obtain ⟨hplace, horder⟩ := List.forall_mem_cons.1 horder
    have hchild := List.getElem?_eq_getElem hplace
    rw [List.filterMap_cons_some hchild, runs_inOrder_cons_iff]
    simp only [tour_cons_iff hchild, ih horder]
    constructor
    · rintro (⟨first, u, rest, hfirst, ⟨more, hrest⟩, rfl⟩ | ⟨hv, hruns⟩)
      · exact ⟨_, .inl ⟨first, u, more, rest, hfirst, hrest, rfl, rfl⟩⟩
      · exact ⟨_, .inr ⟨hv, hruns, rfl⟩⟩
    · rintro ⟨_, ⟨first, u, more, rest, hfirst, hrest, rfl, rfl⟩ | ⟨hv, hruns, rfl⟩⟩
      · exact .inl ⟨first, u, rest, hfirst, ⟨more, hrest⟩, rfl⟩
      · exact .inr ⟨hv, hruns⟩

/-- A tour on which all children fail goes to all places. -/
theorem Tour.visited_eq (h : Tour children order s visited acts (.ok .failure) t) :
    visited = order := by
  generalize hv : (.ok .failure : Verdict) = v at h
  induction h with
  | nil => rfl
  | next _ _ _ ih => rw [ih hv]
  | stop _ hstop _ => exact absurd hv.symm hstop

/-- The children fail on a tour exactly if it goes to all places and the nodes that are taken from
there all fail. -/
theorem tour_failure_iff (horder : ∀ place ∈ order, place < children.length) :
    Tour children order s visited acts (.ok .failure) t ↔
      visited = order ∧ Through .failure (order.filterMap (children[·]?)) s acts t := by
  rw [← Task.runs_inOrder_goOn_iff, Task.runs_inOrder_iff_exists_tour horder]
  constructor
  · intro h
    exact ⟨h.visited_eq, visited, h⟩
  · rintro ⟨rfl, places, h⟩
    rwa [h.visited_eq] at h

end

/-! ### Children that all fail -/

/-- In whatever order the children are ticked from the scene, each in the scene that the one before
it left, all of them fail. -/
def FailInAnyOrder (children : List (Node L)) (s : Scene L C E) : Prop :=
  ∀ nodes, nodes.Perm children → ∃ acts t, Through .failure nodes s acts t

/-- Children that fail from everywhere fail in any order. -/
theorem FailInAnyOrder.of_forall {children : List (Node L)}
    (h : ∀ child ∈ children, ∀ s : Scene L C E, ∃ t, child.Answers s (.ok .failure) t)
    (s : Scene L C E) : FailInAnyOrder children s := by
  intro nodes hperm
  let status : Node L → Status := fun _ => .failure
  have hsteady : ∀ n ∈ nodes, ∀ s : Scene L C E, ∃ t, n.Answers s (.ok (status n)) t :=
    fun n hn => h n (hperm.mem_iff.1 hn)
  obtain ⟨acts, final, t, hruns, hfinal⟩ := Task.exists_runs_of_steady (s := s) hsteady
  obtain rfl : final = .failure := by
    cases final with
    | success => simp [status] at hfinal
    | failure => rfl
  exact ⟨acts, t, Task.runs_inOrder_goOn_iff.1 hruns⟩

/-- With these draws, which lead to this scene, a random selector visits the children at these
places, one after the other, and all of them fail. -/
def VisitsInOrder (children : List (Node L)) (draws : List Nat) (s : Scene L C E)
    (places : List Nat) : Prop :=
  ∃ acts t, Tour children (Shuffle.order children.length draws) s places acts (.ok .failure) t

/-- The places of an order are places of children. -/
theorem Shuffle.lt_of_mem_order {n place : Nat} {draws : List Nat} (h : place ∈ order n draws) :
    place < n := List.mem_range.1 ((order_perm n draws).mem_iff.1 h)

/-- If the children fail in any order, then draws lead to the order in which they leave the places,
and to no other. -/
theorem FailInAnyOrder.visitsInOrder_iff {children : List (Node L)} {s : Scene L C E}
    (h : FailInAnyOrder children s) {draws places : List Nat} :
    VisitsInOrder children draws s places ↔ Shuffle.order children.length draws = places := by
  simp only [VisitsInOrder, tour_failure_iff fun _ => Shuffle.lt_of_mem_order]
  constructor
  · rintro ⟨acts, t, rfl, -⟩
    rfl
  · rintro rfl
    have hperm := (Shuffle.order_perm children.length draws).filterMap (children[·]?)
    rw [Generator.filterMap_getElem?_range] at hperm
    obtain ⟨acts, t, hthrough⟩ := h _ hperm
    exact ⟨acts, t, rfl, hthrough⟩

/-! ### The law -/

/-- What the draws of a random selector have to do with the order in which it visits its children.
The scene is one in which the draws are made and no child is ticked yet. -/
structure UnbiasedOrders (children : List (Node L)) (s : Scene L C E) : Prop where
  /-- A node, be it the random selector or one of the children, returns exactly what it has a course
  for. -/
  answers_iff : ∀ (node : Node L) (u t : Scene L C E) v,
    node.Answers u v t ↔ ∃ acts, (Task.node node).Runs u acts v t
  /-- From any scene, a random selector reads draws that fit the number of its children, and goes on
  a tour of them in the order in which the draws leave their places. -/
  course : ∀ (u t : Scene L C E) acts v,
    (Task.node (.composite .randomSelector children)).Runs u acts v t ↔ ∃ draws visited rest,
      draws = ((Reader.draws (children.length - 1)).run u.world.generator).1 ∧
      Shuffle.Fits children.length draws ∧
      Tour children (Shuffle.order children.length draws) (u.shuffled children.length)
        visited rest v t ∧
      acts = .entered (.composite .randomSelector children) :: .drew children.length :: rest
  /-- All draws that fit can be read, and no others, if the number of children fits a word. -/
  possible : children.length ≤ UInt32.size → ∀ draws,
    (Reader.draws (children.length - 1)).CanReturn draws ↔ Shuffle.Fits children.length draws
  /-- Every order of the children is visited with exactly one list of draws. -/
  one_list : ∀ order : List Nat, order.Perm (List.range children.length) →
    ∃! draws, Shuffle.Fits children.length draws ∧ VisitsInOrder children draws s order
  /-- With every list of draws the children are visited in exactly one order. -/
  one_order : ∀ draws, Shuffle.Fits children.length draws →
    ∃ order : List Nat, order.Perm (List.range children.length) ∧
      ∀ places, VisitsInOrder children draws s places ↔ places = order
  /-- There are as many lists of draws as permutations of the children. -/
  card_lists : {draws | Shuffle.Fits children.length draws}.ncard = children.length.factorial
  /-- The children are visited in as many orders. -/
  card_orders : {order | ∃ draws, Shuffle.Fits children.length draws ∧
    VisitsInOrder children draws s order}.ncard = children.length.factorial
  /-- Every child can be visited at every position. -/
  anywhere : ∀ place < children.length, ∀ position < children.length,
    ∃ draws order, Shuffle.Fits children.length draws ∧ VisitsInOrder children draws s order ∧
      order[position]? = some place

/-- A random selector goes on a tour in the order in which its draws leave the places. -/
theorem Task.runs_randomSelector_iff_exists_tour {children : List (Node L)} {s t : Scene L C E}
    {acts : List (Act L E)} {v : Verdict} :
    (node (.composite .randomSelector children)).Runs s acts v t ↔
      ∃ visited rest,
        Tour children (Shuffle.order children.length
          ((Reader.draws (children.length - 1)).run s.world.generator).1)
          (s.shuffled children.length) visited rest v t ∧
        acts = .entered (.composite .randomSelector children) :: .drew children.length :: rest := by
  rw [runs_randomSelector_iff, Reader.run_draws]
  simp only [Generator.visited, Generator.shuffle,
    runs_inOrder_iff_exists_tour fun _ => Shuffle.lt_of_mem_order]
  constructor
  · rintro ⟨rest, ⟨visited, htour⟩, hacts⟩
    exact ⟨visited, rest, htour, hacts⟩
  · rintro ⟨visited, rest, htour, hacts⟩
    exact ⟨rest, ⟨visited, htour⟩, hacts⟩

/-- Every order of children that all fail is visited by a random selector with exactly one list of
draws, out of as many lists as there are orders. -/
theorem random_orders_are_unbiased {children : List (Node L)} {s : Scene L C E}
    (h : FailInAnyOrder children s) : UnbiasedOrders children s := by
  have hone (order : List Nat) (horder : order.Perm (List.range children.length)) :
      ∃! draws, Shuffle.Fits children.length draws ∧ VisitsInOrder children draws s order := by
    simp only [h.visitsInOrder_iff]
    exact Shuffle.existsUnique_order_eq horder
  constructor
  case answers_iff => exact fun _ _ _ _ => Node.answers_iff_exists_runs
  case course =>
    intro u t acts v
    rw [Task.runs_randomSelector_iff_exists_tour]
    constructor
    · rintro ⟨visited, rest, htour, hacts⟩
      refine ⟨_, visited, rest, rfl, ?_, htour, hacts⟩
      rw [Reader.run_draws]
      exact Shuffle.fits_draws _ _
    · rintro ⟨_, visited, rest, rfl, -, htour, hacts⟩
      exact ⟨visited, rest, htour, hacts⟩
  case possible =>
    intro hlength draws
    exact Shuffle.canReturn_draws_iff hlength
  case one_list => exact hone
  case one_order =>
    intro draws _
    refine ⟨_, Shuffle.order_perm children.length draws, fun places => ?_⟩
    rw [h.visitsInOrder_iff]
    exact eq_comm
  case card_lists => exact Shuffle.ncard_fits _
  case card_orders =>
    have horders : {order | ∃ draws, Shuffle.Fits children.length draws ∧
        VisitsInOrder children draws s order} =
        Shuffle.order children.length '' {draws | Shuffle.Fits children.length draws} := by
      ext order
      simp only [h.visitsInOrder_iff]
      rfl
    rw [horders, (Shuffle.order_injOn _).ncard_image, Shuffle.ncard_fits]
  case anywhere =>
    intro place hplace position hposition
    obtain ⟨order, hperm, hturn⟩ := Shuffle.exists_perm_getElem? hplace hposition
    obtain ⟨draws, ⟨hfits, hvisits⟩, -⟩ := hone order hperm
    exact ⟨draws, order, hfits, hvisits, hturn⟩

/-- Puts an item on a stack, or takes one from it twice, and fails all the same. -/
def Board.restless : List (Node (Primitive Board.StackName Board.SlotName String)) :=
  let takes := .decorator .failer (.leaf (.pop .alpha .x))
  [.decorator .inverter (.leaf (.get .alpha .beta (some "a"))), takes, takes]

theorem Board.restless_failInAnyOrder
    (s : Scene (Primitive Board.StackName Board.SlotName String) Board Transfer) :
    FailInAnyOrder Board.restless s := by
  refine .of_forall (fun child hchild s => ?_) s
  have hkind : child = .decorator .inverter (.leaf (.get .alpha .beta (some "a"))) ∨
      child = .decorator .failer (.leaf (.pop .alpha .x)) := by
    simpa [Board.restless] using hchild
  rcases hkind with rfl | rfl
  · exact ⟨_, 0, rfl⟩
  · obtain ⟨⟨⟨alpha, _⟩, _⟩, _⟩ := s
    cases alpha <;> exact ⟨_, 0, rfl⟩

/-- The last two of three children are alike, but the second is visited behind the first and the
third before it. This order is drawn with one seed, and belongs to its draws alone. -/
theorem random_orders_are_unbiased_restless :
    let children := Board.restless
    let start : Scene _ Board Transfer := .start ⟨.blank, .clear, .ofSeed 7⟩
    FailInAnyOrder children (start.shuffled 3) ∧ UnbiasedOrders children (start.shuffled 3) ∧
      (∃ rest t, (Task.node (.composite .randomSelector children)).Runs start
          (.entered (.composite .randomSelector children) :: .drew 3 :: rest) (.ok .failure) t ∧
        Tour children [2, 0, 1] (start.shuffled 3) [2, 0, 1] rest (.ok .failure) t) ∧
      ∀ draws, Shuffle.Fits 3 draws →
        (VisitsInOrder children draws (start.shuffled 3) [2, 0, 1] ↔ draws = [1, 0]) := by
  intro children start
  have hfail : FailInAnyOrder children (start.shuffled 3) := Board.restless_failInAnyOrder _
  have hlaw := random_orders_are_unbiased hfail
  have hdraws : ((Reader.draws 2).run (.ofSeed 7)).1 = [1, 0] := by
    rw [Reader.run_draws]
    decide +kernel
  have hvisits : VisitsInOrder children [1, 0] (start.shuffled 3) [2, 0, 1] :=
    hfail.visitsInOrder_iff.2 rfl
  have hfits : Shuffle.Fits 3 [1, 0] := .cons (by decide) (.cons (by decide) .nil)
  obtain ⟨rest, t, htour⟩ := hvisits
  refine ⟨hfail, hlaw, ⟨rest, t, ?_, htour⟩, fun draws hdraws' => ⟨fun h => ?_, ?_⟩⟩
  · exact (hlaw.course start t _ _).2 ⟨_, _, rest, hdraws.symm, hfits, htour, rfl⟩
  · exact (hlaw.one_list [2, 0, 1] (by decide)).unique ⟨hdraws', h⟩ ⟨hfits, rest, t, htour⟩
  · rintro rfl
    exact ⟨rest, t, htour⟩

end TickTree
