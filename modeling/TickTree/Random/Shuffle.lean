import TickTree.Random.Generator

/-!
# Shuffling

A shuffle of `n` places swaps each place, from the last down to the second, with a place drawn
from those up to it. The draws and the swaps are kept apart: the draws are read from the random
source first, and the order is a function of the draws alone.

## Main definitions

* `Shuffle.arrange`: the swaps that a list of draws asks for
* `Shuffle.draws`: the draws for a number of places
* `Generator.shuffle`: a random order of `0, …, n - 1`
-/

namespace TickTree

namespace Shuffle

/-- Carries out the swaps that the draws ask for. The draws belong to the places
`draws.length, …, 2, 1`, in this order, and each says where its place goes. -/
def arrange {α : Type} (order : Array α) : (draws : List Nat) → Array α
  | [] => order
  | j :: js => arrange (order.swapIfInBounds (js.length + 1) j) js

/-- Draws for the places `n, …, 2, 1`, each from the places up to it. -/
def draws : (n : Nat) → Generator → List Nat × Generator
  | 0, g => ([], g)
  | n + 1, g =>
    let (j, g) := g.roll (n + 2)
    let (js, g) := draws n g
    (j :: js, g)

/-- The order in which the draws leave `0, …, n - 1`. -/
def order (n : Nat) (draws : List Nat) : List Nat := (arrange (Array.range n) draws).toList

end Shuffle

/-- A random order of `0, …, n - 1`. Fewer than two places need no draw. -/
def Generator.shuffle (n : Nat) (g : Generator) : List Nat × Generator :=
  let (js, g) := Shuffle.draws (n - 1) g
  (Shuffle.order n js, g)

end TickTree
