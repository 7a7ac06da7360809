import TickTree.Behavior

/-!
# Behavior trees

A node is a leaf, a composite with its children or a decorator with or without its child. Ticking
a node is the behavior that its kind makes of the behaviors of its children.

## Main definitions

* `Node`: the nodes of a tree, over leaves of any kind
* `Node.tick`: the behavior of a node
* `Node.addChild?`, `Node.addChildren?`, `Node.bind?`: wiring a node after it was made
* `Tree`: a root decorator, with or without a child
* `Tree.run`: the evaluation of a whole tree
-/

namespace TickTree

/-- The nodes of a behavior tree over leaves of kind `L`. -/
inductive Node (L : Type)
  | leaf (leaf : L)
  | composite (kind : Composite) (children : List (Node L))
  /-- A decorator that no child was bound to. -/
  | unbound (kind : Decorator)
  | decorator (kind : Decorator) (child : Node L)
  /-- A node in a wrapper that does nothing of its own. -/
  | boxed (node : Node L)

namespace Node

variable {L C E : Type}

/-- A property holds of all nodes if it passes from the children of a node to the node. -/
@[elab_as_elim]
theorem induction {P : Node L → Prop} (leaf : ∀ l, P (leaf l))
    (composite : ∀ kind children, (∀ child ∈ children, P child) → P (composite kind children))
    (unbound : ∀ kind, P (unbound kind))
    (decorator : ∀ kind child, P child → P (decorator kind child))
    (boxed : ∀ node, P node → P (boxed node)) (node : Node L) : P node :=
  @Node.rec L P (fun nodes => ∀ node ∈ nodes, P node) leaf composite unbound decorator boxed
    (by simp) (fun _ _ head tail => List.forall_mem_cons.2 ⟨head, tail⟩) node

mutual

/-- The behavior of a node, where every loop without a bound has the same limit. -/
def tick [Leaf L C E] (limit : Nat) : Node L → Behavior L C E
  | leaf l => Behavior.leaf l
  | composite kind children => Behavior.composite kind (tickAll limit children)
  | unbound kind => Behavior.unbound kind
  | decorator kind child => Behavior.decorate limit kind (tick limit child)
  | boxed node => tick limit node

/-- The behaviors of a list of nodes. -/
def tickAll [Leaf L C E] (limit : Nat) : List (Node L) → List (Behavior L C E)
  | [] => []
  | node :: nodes => tick limit node :: tickAll limit nodes

end

theorem tickAll_eq_map [Leaf L C E] (limit : Nat) (nodes : List (Node L)) :
    (tickAll limit nodes : List (Behavior L C E)) = nodes.map (tick limit) := by
  induction nodes with
  | nil => rfl
  | cons node nodes ih => rw [tickAll, ih, List.map_cons]

/-- The children of a composite. -/
def children? : Node L → Option (List (Node L))
  | composite _ children => some children
  | _ => none

/-- Appends nodes to the children of a composite, in order. -/
def addChildren? (node : Node L) (more : List (Node L)) : Option (Node L) :=
  match node with
  | composite kind children => some (composite kind (children ++ more))
  | _ => none

/-- Appends a node to the children of a composite. -/
def addChild? (node child : Node L) : Option (Node L) := node.addChildren? [child]

/-- Binds a node as the child of a decorator, in place of the one it may have. -/
def bind? (node child : Node L) : Option (Node L) :=
  match node with
  | unbound kind => some (decorator kind child)
  | decorator kind _ => some (decorator kind child)
  | _ => none

/-- The kind of a decorator. -/
def decorator? : Node L → Option Decorator
  | unbound kind => some kind
  | decorator kind _ => some kind
  | _ => none

/-- A node under `n` nested layers. -/
def nested (layer : Node L → Node L) : (n : Nat) → Node L → Node L
  | 0, node => node
  | n + 1, node => nested layer n (layer node)

end Node

/-- A behavior tree: a root, with the node bound to it. -/
structure Tree (L : Type) where
  child : Option (Node L)

namespace Tree

variable {L C E : Type}

/-- The tree whose root has no child. -/
def empty : Tree L := ⟨none⟩

/-- The tree over a node. -/
def of (node : Node L) : Tree L := ⟨some node⟩

/-- Binds a node to the root, in place of the one it may have. -/
def bind (_ : Tree L) (node : Node L) : Tree L := ⟨some node⟩

/-- The root of a tree as a node. -/
def root (tree : Tree L) : Node L :=
  match tree.child with
  | none => .unbound .root
  | some node => .decorator .root node

/-- Evaluates a whole tree once. -/
def run [Leaf L C E] (limit : Nat) (tree : Tree L) : Behavior L C E :=
  Behavior.evaluation (tree.root.tick limit)

end Tree

end TickTree
