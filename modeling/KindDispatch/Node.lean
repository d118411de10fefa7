import KindDispatch.Kind

/-!
# Nodes and forests

A `Node` owns its children; a `Forest` is the ordered list of the top-level nodes of one input.
`Node.preorder` lists a subtree by recursion, `Preorder` enumerates it with an explicit stack, and
`Forest.histogram` counts the kinds that occur.
-/

namespace KindDispatch

/-- A tree element.  `line` is the 1-based source line the node belongs to, or 0 for a node built
without a source. -/
structure Node where
  kind : Kind
  name : Option String
  line : Nat
  children : List Node
deriving Repr, Inhabited

abbrev Forest := List Node

namespace Node

mutual

def beq : Node → Node → Bool
  | ⟨kind, name, line, children⟩, ⟨kind', name', line', children'⟩ =>
    kind == kind' && name == name' && line == line' && beqList children children'

def beqList : List Node → List Node → Bool
  | [], [] => true
  | node :: rest, node' :: rest' => beq node node' && beqList rest rest'
  | _, _ => false

end

mutual

theorem eq_of_beq : ∀ (a b : Node), beq a b = true → a = b
  | ⟨_, _, _, children⟩, ⟨_, _, _, children'⟩, h => by
    simp only [beq, Bool.and_eq_true, beq_iff_eq] at h
    obtain ⟨⟨⟨rfl, rfl⟩, rfl⟩, h⟩ := h
    rw [eq_of_beqList children children' h]

theorem eq_of_beqList : ∀ (a b : List Node), beqList a b = true → a = b
  | [], [], _ => rfl
  | node :: rest, node' :: rest', h => by
    simp only [beqList, Bool.and_eq_true] at h
    rw [eq_of_beq node node' h.1, eq_of_beqList rest rest' h.2]

end

mutual

theorem beq_self : ∀ (a : Node), beq a a = true
  | ⟨_, _, _, children⟩ => by simp [beq, beqList_self children]

theorem beqList_self : ∀ (a : List Node), beqList a a = true
  | [] => rfl
  | node :: rest => by simp [beqList, beq_self node, beqList_self rest]

end

instance : DecidableEq Node := fun a b =>
  if h : beq a b = true then isTrue (eq_of_beq a b h)
  else isFalse fun e => h (e ▸ beq_self a)

def ofKind (kind : Kind) : Node := ⟨kind, none, 0, []⟩

def withChildren (node : Node) (children : List Node) : Node := { node with children }

@[simp] theorem withChildren_children (node : Node) : node.withChildren node.children = node := by
  cases node
  rfl

mutual

def size : Node → Nat
  | ⟨_, _, _, children⟩ => 1 + sizeList children

def sizeList : List Node → Nat
  | [] => 0
  | node :: rest => size node + sizeList rest

end

mutual

def preorder : Node → List Node
  | ⟨kind, name, line, children⟩ => ⟨kind, name, line, children⟩ :: preorderList children

def preorderList : List Node → List Node
  | [] => []
  | node :: rest => preorder node ++ preorderList rest

end

theorem preorderList_eq_flatMap (nodes : List Node) :
    preorderList nodes = nodes.flatMap preorder := by
  induction nodes with
  | nil => rfl
  | cons node rest ih => simp only [preorderList, List.flatMap_cons, ih]

theorem size_eq (node : Node) : node.size = 1 + sizeList node.children := by
  cases node
  rfl

theorem size_le_sizeList {node : Node} {nodes : List Node} (member : node ∈ nodes) :
    node.size ≤ sizeList nodes := by
  induction nodes with
  | nil => simp at member
  | cons first rest ih =>
      rw [sizeList]
      rcases List.mem_cons.mp member with rfl | later
      · omega
      · have := ih later
        omega

theorem size_lt_of_mem_children {node child : Node} (member : child ∈ node.children) :
    child.size < node.size := by
  have hchild := size_le_sizeList member
  have hnode := node.size_eq
  omega

theorem sizeList_eq_foldr (nodes : List Node) :
    sizeList nodes = (nodes.map size).foldr (· + ·) 0 := by
  induction nodes with
  | nil => rfl
  | cons node rest ih => simp only [sizeList, List.map_cons, List.foldr_cons, ih]

mutual

theorem length_preorder : ∀ node : Node, node.preorder.length = node.size
  | ⟨_, _, _, children⟩ => by
    simp only [preorder, size, List.length_cons, length_preorderList children, Nat.add_comm]

theorem length_preorderList : ∀ nodes : List Node, (preorderList nodes).length = sizeList nodes
  | [] => rfl
  | node :: rest => by
    simp only [preorderList, sizeList, List.length_append, length_preorder node,
      length_preorderList rest]

end

mutual

def depth : Node → Nat
  | ⟨_, _, _, children⟩ => 1 + depthList children

def depthList : List Node → Nat
  | [] => 0
  | node :: rest => max (depth node) (depthList rest)

end

theorem depth_le_depthList {node : Node} {nodes : List Node} (member : node ∈ nodes) :
    node.depth ≤ depthList nodes := by
  induction nodes with
  | nil => simp at member
  | cons first rest ih =>
      rw [depthList]
      rcases List.mem_cons.mp member with rfl | later
      · exact Nat.le_max_left _ _
      · exact Nat.le_trans (ih later) (Nat.le_max_right _ _)

end Node

/-! ## Enumeration with an explicit stack -/

/-- A left-to-right enumeration of subtrees: the nodes still to be listed, the next one first. -/
structure Preorder where
  pending : List Node

namespace Preorder

def ofNode (node : Node) : Preorder := ⟨[node]⟩

def next? : Preorder → Option (Node × Preorder)
  | ⟨[]⟩ => none
  | ⟨node :: rest⟩ => some (node, ⟨node.children ++ rest⟩)

def take : Nat → Preorder → List Node
  | 0, _ => []
  | limit + 1, enumeration =>
    match enumeration.next? with
    | none => []
    | some (node, rest) => node :: take limit rest

end Preorder

namespace Forest

def size (forest : Forest) : Nat := (forest.map Node.size).foldr (· + ·) 0

def totalSize (forests : List Forest) : Nat := (forests.map size).foldr (· + ·) 0

def depth (forest : Forest) : Nat := Node.depthList forest

def preorder (forest : Forest) : List Node := forest.flatMap Node.preorder

theorem preorder_append (forest forest' : Forest) :
    preorder (forest ++ forest') = forest.preorder ++ preorder forest' :=
  List.flatMap_append

theorem preorder_singleton (node : Node) : preorder [node] = node :: preorder node.children := by
  cases node
  simp [preorder, Node.preorder, Node.preorderList_eq_flatMap]

theorem length_preorder (forest : Forest) : forest.preorder.length = forest.size := by
  rw [preorder, ← Node.preorderList_eq_flatMap, Node.length_preorderList, Node.sizeList_eq_foldr, size]

theorem size_append (forest forest' : Forest) :
    size (forest ++ forest') = forest.size + size forest' := by
  rw [← length_preorder, preorder_append, List.length_append, length_preorder, length_preorder]

theorem size_singleton (node : Node) : size [node] = size node.children + 1 := by
  rw [← length_preorder, preorder_singleton, List.length_cons, length_preorder]

/-- How often each kind occurs, in ordinal order; kinds that do not occur are left out. -/
def histogram (forest : Forest) : List (Kind × Nat) :=
  let kinds := forest.preorder.map Node.kind
  (Kind.all.map fun kind => (kind, kinds.count kind)).filter (·.2 ≠ 0)

end Forest

end KindDispatch
