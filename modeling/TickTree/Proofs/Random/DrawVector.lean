import Mathlib.Data.Finset.NAry
import Mathlib.Data.List.Permutation
import Mathlib.Data.Set.Card
import TickTree.Proofs.Random.Order

/-!
# Draws and orders

A shuffle of `n` places reads one draw for each place but the first, from the last place down, and
each draw is one of the places up to its own. There are `n!` lists of such draws, all of them can be
read, and different ones leave the places in different orders: the place that is swapped first keeps
what it gets, so it tells the first draw, and what is left is a shuffle of fewer places. Since there
are `n!` orders as well, every order is left by exactly one list of draws.

All of this depends on the range from which the draws are taken. With a narrower one some orders
would be lost, and with a wider one some would come more often than others.

## Main definitions

* `Shuffle.Fits`: the draws for a number of places
* `Shuffle.vectors`: all of them

## Main results

* `Reader.canReturn_roll_iff`: a roll can be any number below its bound, and no other
* `Shuffle.canReturn_draws_iff`: the draws that can be read are those that fit
* `Shuffle.ncard_fits`: there are `n!` lists of draws
* `Shuffle.order_injOn`: the draws can be told from the order
* `Shuffle.existsUnique_order_eq`: every order is left by exactly one list of draws
-/

namespace TickTree

/-! ### Numbers that can be rolled -/

/-- Every number below a bound of 32 bits has a word that is accepted for it. It is the least word
with a product that reaches the high half, which exceeds it by less than the bound. -/
theorem Generator.exists_accepted {bound j : Nat} (hj : j < bound) (hbound : bound ≤ UInt32.size) :
    ∃ w : UInt32, w.toNat * bound % UInt32.size ≤ zone bound ∧
      w.toNat * bound / UInt32.size = j := by
  let k := (j * UInt32.size + (bound - 1)) / bound
  have hle : k * bound ≤ j * UInt32.size + (bound - 1) := Nat.div_mul_le_self _ _
  have hge : j * UInt32.size ≤ k * bound := by
    have hlt : j * UInt32.size + (bound - 1) < bound * (k + 1) :=
      Nat.lt_mul_div_succ _ (Nat.zero_lt_of_lt hj)
    rw [Nat.mul_add_one bound k, Nat.mul_comm bound k] at hlt
    omega
  have hk : k < UInt32.size := by
    refine Nat.lt_of_mul_lt_mul_right (a := bound) ?_
    have hnext : (j + 1) * UInt32.size ≤ bound * UInt32.size := Nat.mul_le_mul_right _ hj
    rw [Nat.succ_mul, Nat.mul_comm bound] at hnext
    omega
  obtain ⟨low, hlow⟩ := Nat.exists_eq_add_of_le hge
  have hsize : low < UInt32.size := by omega
  have hzone : bound - 1 ≤ zone bound := by
    rw [zone, Nat.shiftLeft_eq]
    exact Nat.sub_le_sub_right (Nat.le_mul_of_pos_right _ (Nat.two_pow_pos _)) 1
  refine ⟨UInt32.ofNat k, ?_⟩
  rw [UInt32.toNat_ofNat_of_lt' hk, hlow, Nat.mul_comm j, Nat.mul_add_mod,
    Nat.mul_add_div (by decide), Nat.mod_eq_of_lt hsize, Nat.div_eq_of_lt hsize]
  exact ⟨by omega, rfl⟩

/-- A roll can be any number below its bound, and no other. -/
theorem Reader.canReturn_roll_iff {bound j : Nat} (hpos : 0 < bound)
    (hbound : bound ≤ UInt32.size) : (roll bound).CanReturn j ↔ j < bound := by
  constructor
  · rw [roll]
    induction ChaCha.period with
    | zero =>
      intro h
      rw [canReturn_done_iff.1 h]
      exact hpos
    | succ tries ih =>
      intro h
      obtain ⟨w, hw⟩ := canReturn_ask_iff.1 h
      dsimp only at hw
      split at hw
      · rw [canReturn_done_iff.1 hw, Nat.div_lt_iff_lt_mul (by decide), Nat.mul_comm bound]
        exact Nat.mul_lt_mul_of_pos_right w.toNat_lt hpos
      · exact ih hw
  · intro hj
    -- The first word that is read may be the one that is accepted.
    obtain ⟨w, haccepted, hresult⟩ := Generator.exists_accepted hj hbound
    obtain ⟨tries, htries⟩ := Nat.exists_eq_succ_of_ne_zero (n := ChaCha.period) (by decide)
    rw [roll, htries]
    refine canReturn_ask_iff.2 ⟨w, ?_⟩
    rw [if_pos haccepted, hresult, canReturn_done_iff]

namespace Shuffle

/-! ### The draws for a number of places -/

/-- The places `n, …, 2, 1`, in the order in which they are swapped. -/
def places : (n : Nat) → List Nat
  | 0 => []
  | n + 1 => (n + 1) :: places n

/-- Draws for `n` places: one for each of the places `n - 1, …, 2, 1`, in this order, and none of
them above its place. -/
def Fits (n : Nat) (draws : List Nat) : Prop := List.Forall₂ (· ≤ ·) draws (places (n - 1))

theorem length_places (n : Nat) : (places n).length = n := by
  induction n with
  | zero => rfl
  | succ n ih => rw [places, List.length_cons, ih]

@[simp] theorem fits_one_iff {draws : List Nat} : Fits 1 draws ↔ draws = [] :=
  List.forall₂_nil_right_iff

theorem fits_add_two_iff {n : Nat} {draws : List Nat} :
    Fits (n + 2) draws ↔ ∃ j js, j ≤ n + 1 ∧ Fits (n + 1) js ∧ draws = j :: js := by
  rw [Fits, show n + 2 - 1 = n + 1 from rfl, places, List.forall₂_cons_right_iff]
  simp only [exists_and_left]
  rfl

theorem Fits.length_eq {n : Nat} {draws : List Nat} (h : Fits n draws) :
    draws.length = n - 1 := by
  rw [List.Forall₂.length_eq h, length_places]

/-- The draws that are read from the random source fit. -/
theorem fits_draws (n : Nat) (g : Generator) : Fits n (draws (n - 1) g).1 := by
  unfold Fits
  induction n - 1 generalizing g with
  | zero => exact .nil
  | succ n ih => exact .cons (Nat.le_of_lt_succ (g.roll_lt (Nat.succ_pos (n + 1)))) (ih _)

/-- The draws that can be read are those that fit. -/
theorem canReturn_draws_iff {n : Nat} (hn : n ≤ UInt32.size) {draws : List Nat} :
    (Reader.draws (n - 1)).CanReturn draws ↔ Fits n draws := by
  have hlt : n - 1 < UInt32.size := by
    have hpos : 0 < UInt32.size := by decide
    omega
  unfold Fits
  generalize n - 1 = last at hlt ⊢
  induction last generalizing draws with
  | zero => rw [Reader.draws, Reader.canReturn_done_iff, places, List.forall₂_nil_right_iff]
  | succ last ih =>
    simp only [Reader.draws, Reader.canReturn_bind_iff, Reader.canReturn_map_iff,
      Reader.canReturn_roll_iff (Nat.succ_pos (last + 1)) hlt, ih (by omega), places,
      List.forall₂_cons_right_iff, Nat.lt_succ_iff, exists_and_left]

/-! ### How many there are -/

/-- All lists of draws for the places `n, …, 2, 1`. -/
def vectors : (n : Nat) → Finset (List Nat)
  | 0 => {[]}
  | n + 1 => Finset.image₂ List.cons (Finset.range (n + 2)) (vectors n)

theorem mem_vectors_iff {n : Nat} {draws : List Nat} :
    draws ∈ vectors (n - 1) ↔ Fits n draws := by
  unfold Fits
  induction n - 1 generalizing draws with
  | zero => rw [vectors, Finset.mem_singleton, places, List.forall₂_nil_right_iff]
  | succ n ih =>
    simp only [vectors, Finset.mem_image₂, Finset.mem_range, Nat.lt_succ_iff, ih, places,
      List.forall₂_cons_right_iff, exists_and_left, eq_comm]

theorem card_vectors (n : Nat) : (vectors n).card = (n + 1).factorial := by
  induction n with
  | zero => rfl
  | succ n ih =>
    rw [vectors, Finset.card_image₂ fun _ _ _ _ h => List.cons.inj h, Finset.card_range, ih,
      ← Nat.factorial_succ]

theorem coe_vectors (n : Nat) :
    (vectors (n - 1) : Set (List Nat)) = {draws | Fits n draws} :=
  Set.ext fun _ => mem_vectors_iff

theorem ncard_fits (n : Nat) : {draws | Fits n draws}.ncard = n.factorial := by
  rw [← coe_vectors, Set.ncard_coe_finset, card_vectors]
  cases n <;> rfl

/-! ### The order tells the draws -/

section

variable {α : Type} {n : Nat} {order : Array α}

theorem getElem?_swapIfInBounds_of_lt {i j place : Nat} (hi : i < place) (hj : j < place) :
    (order.swapIfInBounds i j)[place]? = order[place]? := by
  rw [Array.swapIfInBounds_def]
  split_ifs
  · rw [Array.getElem?_swap, if_neg hj.ne, if_neg hi.ne]
  · rfl
  · rfl

/-- The places above those that are swapped keep their items. -/
theorem getElem?_arrange_of_lt {draws : List Nat} {place : Nat} (hdraws : Fits (n + 1) draws)
    (hplace : n < place) : (arrange order draws)[place]? = order[place]? := by
  induction n generalizing order draws with
  | zero =>
    rw [fits_one_iff.1 hdraws]
    rfl
  | succ n ih =>
    obtain ⟨j, js, hj, hjs, rfl⟩ := fits_add_two_iff.1 hdraws
    rw [arrange, ih hjs (by omega), hjs.length_eq]
    exact getElem?_swapIfInBounds_of_lt hplace (by omega)

/-- The place that is swapped first gets the item of the place that was drawn for it. -/
theorem getElem?_arrange_first {j : Nat} {js : List Nat} (hj : j ≤ n + 1)
    (hjs : Fits (n + 1) js) (hsize : n + 1 < order.size) :
    (arrange order (j :: js))[n + 1]? = order[j]? := by
  have hlt : j < order.size := by omega
  rw [arrange, getElem?_arrange_of_lt hjs (Nat.lt_succ_self n), hjs.length_eq]
  simp [hlt, hsize]

/-- Different draws leave different items in different orders. -/
theorem arrange_injective {draws draws' : List Nat} (hnodup : order.toList.Nodup)
    (hsize : n < order.size) (hdraws : Fits (n + 1) draws) (hdraws' : Fits (n + 1) draws')
    (h : arrange order draws = arrange order draws') : draws = draws' := by
  induction n generalizing order draws draws' with
  | zero => rw [fits_one_iff.1 hdraws, fits_one_iff.1 hdraws']
  | succ n ih =>
    obtain ⟨j, js, hj, hjs, rfl⟩ := fits_add_two_iff.1 hdraws
    obtain ⟨j', js', hj', hjs', rfl⟩ := fits_add_two_iff.1 hdraws'
    -- What the first place gets tells the first draw, and the others are told by the rest.
    have hfirst : order[j]? = order[j']? := by
      rw [← getElem?_arrange_first hj hjs hsize, h, getElem?_arrange_first hj' hjs' hsize]
    have hlt : j < order.toList.length := by
      rw [Array.length_toList]
      omega
    rw [← Array.getElem?_toList, ← Array.getElem?_toList,
      List.getElem?_inj hlt hnodup] at hfirst
    subst hfirst
    have hnodup' : (order.swapIfInBounds (n + 1) j).toList.Nodup :=
      (swapIfInBounds_perm order (n + 1) j).toList.nodup_iff.2 hnodup
    rw [arrange, arrange, hjs.length_eq, hjs'.length_eq] at h
    rw [ih hnodup' (by rw [Array.size_swapIfInBounds]; omega) hjs hjs' h]

end

/-- The draws can be told from the order in which they leave the places. -/
theorem order_injOn (n : Nat) : Set.InjOn (order n) {draws | Fits n draws} := by
  intro draws hdraws draws' hdraws' h
  cases n with
  | zero => rw [fits_one_iff.1 hdraws, fits_one_iff.1 hdraws']
  | succ n =>
    have hnodup : (Array.range (n + 1)).toList.Nodup := by
      rw [Array.toList_range]
      exact List.nodup_range
    have hsize : n < (Array.range (n + 1)).size := by
      rw [Array.size_range]
      exact Nat.lt_succ_self n
    exact arrange_injective hnodup hsize hdraws hdraws' (Array.toList_inj.1 h)

/-! ### Every order is left by some draws -/

theorem mem_permutations_range_iff {n : Nat} {q : List Nat} :
    q ∈ (List.range n).permutations.toFinset ↔ q.Perm (List.range n) := by
  rw [List.mem_toFinset, List.mem_permutations]

theorem card_permutations_range (n : Nat) :
    (List.range n).permutations.toFinset.card = n.factorial := by
  rw [List.toFinset_card_of_nodup (List.nodup_permutations _ List.nodup_range),
    List.length_permutations, List.length_range]

/-- Every order of `n` places is left by exactly one list of draws. -/
theorem existsUnique_order_eq {n : Nat} {q : List Nat} (hq : q.Perm (List.range n)) :
    ∃! draws, Fits n draws ∧ order n draws = q := by
  have hmaps : Set.MapsTo (order n) (vectors (n - 1)) (List.range n).permutations.toFinset :=
    fun draws _ => mem_permutations_range_iff.2 (order_perm n draws)
  have hinj : Set.InjOn (order n) (vectors (n - 1)) := by
    rw [coe_vectors]
    exact order_injOn n
  -- There are as many lists of draws as there are orders, so none of these is left out.
  have hcard : (List.range n).permutations.toFinset.card ≤ (vectors (n - 1)).card := by
    rw [card_permutations_range, ← Set.ncard_coe_finset, coe_vectors, ncard_fits]
  obtain ⟨draws, hdraws, horder⟩ :=
    Finset.surjOn_of_injOn_of_card_le (order n) hmaps hinj hcard (mem_permutations_range_iff.2 hq)
  have hfits : Fits n draws := mem_vectors_iff.1 hdraws
  refine ⟨draws, ⟨hfits, horder⟩, fun draws' h => ?_⟩
  exact order_injOn n h.1 hfits (h.2.trans horder.symm)

example : [[2, 1], [2, 0], [0, 1], [0, 0], [1, 0], [1, 1]].map (order 3) =
    [[0, 1, 2], [1, 0, 2], [2, 1, 0], [1, 2, 0], [2, 0, 1], [0, 2, 1]] := by decide

/-- Every place has its turn anywhere in some order. -/
theorem exists_perm_getElem? {n place i : Nat} (hplace : place < n) (hi : i < n) :
    ∃ q : List Nat, q.Perm (List.range n) ∧ q[i]? = some place := by
  refine ⟨(List.range n).rotate (n + place - i), List.rotate_perm _ _, ?_⟩
  have hturn : i + (n + place - i) = n + place := by omega
  rw [List.getElem?_rotate (by rwa [List.length_range]), List.length_range, hturn,
    Nat.add_mod_left, Nat.mod_eq_of_lt hplace, List.getElem?_range hplace]

end Shuffle

end TickTree
