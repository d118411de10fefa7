import KindDispatch.Proofs.Traversal.Tour
import Mathlib.Data.List.Nodup

/-!
# Enumerations

`Preorder` keeps the nodes that are still to come on a stack.  Whatever nodes these are, what it
lists from there on are their subtrees, the next one first (`Preorder.yields`).  `popNode` is the
same step on the stack as it grows, with the next node at its end, so that the children of a node
are put on it in reverse.

`Node.ListedOnce` says that a list has each node of a subtree once.  Nodes may be equal, so it goes
by their addresses.
-/

namespace KindDispatch

/-! ## What steps list -/

section Yields

variable {S S' A : Type} {next : S → Option (A × S)} {next' : S' → Option (A × S')}

/-- Steps from a state on list some values, and then there is no further step. -/
inductive Yields (next : S → Option (A × S)) : S → List A → Prop
  | ended {state : S} (done : next state = none) : Yields next state []
  | listed {state after : S} {value : A} {values : List A}
      (step : next state = some (value, after)) (later : Yields next after values) :
      Yields next state (value :: values)

theorem Yields.unique {state : S} {values values' : List A} (yields : Yields next state values)
    (yields' : Yields next state values') : values = values' := by
  induction yields generalizing values' with
  | ended done =>
      cases yields' with
      | ended => rfl
      | listed step => simp [done] at step
  | listed step _ ih =>
      cases yields' with
      | ended done => simp [step] at done
      | listed step' later' =>
          obtain ⟨rfl, rfl⟩ : _ ∧ _ := by simpa [step] using step'
          rw [ih later']

theorem Yields.map (view : S → S') {state : S} {values : List A}
    (yields : Yields next state values)
    (same : ∀ state, next' (view state) =
      (next state).map fun (value, after) => (value, view after)) :
    Yields next' (view state) values := by
  induction yields with
  | ended done => exact .ended (by rw [same, done, Option.map_none])
  | listed step _ ih => exact .listed (by rw [same, step, Option.map_some]) ih

end Yields

/-! ## Preorder -/

theorem Forest.preorder_cons (node : Node) (rest : List Node) :
    Forest.preorder (node :: rest) = node :: Forest.preorder (node.children ++ rest) := by
  rw [← List.singleton_append, preorder_append, preorder_singleton, preorder_append,
    List.cons_append]

namespace Preorder

/-- What is listed are the subtrees of the pending nodes, one after the other. -/
theorem yields (pending : List Node) :
    Yields Preorder.next? ⟨pending⟩ (Forest.preorder pending) := by
  -- on what is still to be listed: a step can leave more nodes pending than there were
  induction nodes : Forest.preorder pending generalizing pending with
  | nil =>
      cases pending with
      | nil => exact .ended rfl
      | cons node rest => simp [Forest.preorder_cons] at nodes
  | cons first others ih =>
      cases pending with
      | nil => simp [Forest.preorder] at nodes
      | cons node rest =>
          rw [Forest.preorder_cons] at nodes
          obtain ⟨rfl, rfl⟩ := List.cons.inj nodes
          exact .listed rfl (ih (node.children ++ rest) rfl)

theorem take_eq (limit : Nat) (pending : List Node) :
    take limit ⟨pending⟩ = (Forest.preorder pending).take limit := by
  induction limit generalizing pending with
  | zero => simp [take]
  | succ limit ih =>
      cases pending with
      | nil => simp [take, next?, Forest.preorder]
      | cons node rest => simp only [take, next?, ih, Forest.preorder_cons, List.take_succ_cons]

end Preorder

/-- Takes the last node off a stack and puts its children on it, so that the first child is the last
node. -/
def popNode (stack : List Node) : Option (Node × List Node) :=
  stack.getLast?.map fun node => (node, stack.dropLast ++ node.children.reverse)

private theorem popNode_reverse (enumeration : Preorder) :
    popNode enumeration.pending.reverse =
      enumeration.next?.map fun (node, later) => (node, later.pending.reverse) := by
  rcases enumeration with ⟨_ | ⟨node, rest⟩⟩
  · rfl
  · simp [popNode, Preorder.next?]

theorem yields_popNode (stack : List Node) :
    Yields popNode stack (Forest.preorder stack.reverse) := by
  simpa using (Preorder.yields stack.reverse).map
    (fun enumeration => enumeration.pending.reverse) popNode_reverse

/-! ## Addresses -/

namespace Node

def at? : Node → Address → Option Node
  | node, [] => some node
  | node, number :: rest => node.children[number]?.bind fun child => child.at? rest

/-- The list goes through the addresses that lead to a node of the subtree, and comes to none of
them twice. -/
def ListedOnce (node : Node) (nodes : List Node) : Prop :=
  ∃ addresses : List Address, addresses.Nodup ∧
    (∀ address, address ∈ addresses ↔ (node.at? address).isSome) ∧
    nodes.map some = addresses.map node.at?

private theorem mem_placesFrom {number : Nat} {nodes : List Node} {address : Address}
    {found : Node} : (address, found) ∈ placesFrom number nodes ↔ ∃ index rest child,
      address = (number + index) :: rest ∧ nodes[index]? = some child ∧
        (rest, found) ∈ child.places := by
  induction nodes generalizing number with
  | nil => simp [placesFrom]
  | cons node nodes ih =>
      rw [placesFrom, List.mem_append, ih, List.mem_map]
      constructor
      · rintro (⟨⟨rest, found⟩, member, same⟩ | ⟨index, rest, child, rfl, present, member⟩)
        · obtain ⟨rfl, rfl⟩ := Prod.mk.inj same
          exact ⟨0, rest, node, rfl, rfl, member⟩
        · exact ⟨index + 1, rest, child, by rw [Nat.add_right_comm, Nat.add_assoc], present, member⟩
      · rintro ⟨_ | index, rest, child, rfl, present, member⟩
        · obtain rfl : node = child := by simpa using present
          exact .inl ⟨(rest, found), member, rfl⟩
        · refine .inr ⟨index, rest, child, ?_, present, member⟩
          rw [Nat.add_right_comm, Nat.add_assoc]

theorem mem_places {node found : Node} {address : Address} :
    (address, found) ∈ node.places ↔ node.at? address = some found := by
  induction address generalizing node with
  | nil =>
      rw [places_eq, List.mem_cons, at?]
      constructor
      · rintro (same | below)
        · rw [(Prod.mk.inj same).2]
        · obtain ⟨first, rest, same, -⟩ := address_of_mem_placesFrom below
          contradiction
      · rintro same
        exact .inl (by rw [Option.some.inj same])
  | cons number rest ih =>
      rw [places_eq, List.mem_cons, mem_placesFrom, at?, Option.bind_eq_some_iff]
      constructor
      · rintro (same | ⟨index, below, child, same, present, member⟩)
        · exact absurd (Prod.mk.inj same).1 (List.cons_ne_nil _ _)
        · obtain ⟨rfl, rfl⟩ := List.cons.inj same
          exact ⟨child, by simpa using present, ih.mp member⟩
      · rintro ⟨child, present, leads⟩
        exact .inr ⟨number, rest, child, by rw [Nat.zero_add], present, ih.mpr leads⟩

mutual

theorem nodup_places : ∀ node : Node, (node.places.map Prod.fst).Nodup
  | ⟨kind, name, line, children⟩ => by
    rw [places, List.map_cons, List.nodup_cons]
    refine ⟨fun member => ?_, nodup_placesFrom 0 children⟩
    obtain ⟨place, below, root⟩ := List.mem_map.mp member
    obtain ⟨first, rest, same, -⟩ := address_of_mem_placesFrom below
    rw [same] at root
    contradiction

theorem nodup_placesFrom : ∀ (number : Nat) (nodes : List Node),
    ((placesFrom number nodes).map Prod.fst).Nodup
  | _, [] => List.nodup_nil
  | number, node :: rest => by
    have here : ((node.places.map fun place =>
        (number :: place.1, place.2)).map Prod.fst).Nodup := by
      rw [List.map_map]
      have nodup := (nodup_places node).map (f := (number :: ·)) List.cons_injective
      rwa [List.map_map] at nodup
    rw [placesFrom, List.map_append, List.nodup_append]
    refine ⟨here, nodup_placesFrom (number + 1) rest, fun address member other member' => ?_⟩
    obtain ⟨_, inFirst, rfl⟩ := List.mem_map.mp member
    obtain ⟨below, -, rfl⟩ := List.mem_map.mp inFirst
    obtain ⟨place, inRest, rfl⟩ := List.mem_map.mp member'
    obtain ⟨first, later, same, le⟩ := address_of_mem_placesFrom inRest
    rw [same]
    simp only [ne_eq, List.cons.injEq, not_and]
    omega

end

theorem listedOnce_preorder (node : Node) : node.ListedOnce node.preorder := by
  refine ⟨node.places.map Prod.fst, nodup_places node, fun address => ?_, ?_⟩
  · rw [Option.isSome_iff_exists]
    simp [← mem_places]
  · rw [← map_places, List.map_map, List.map_map]
    refine List.map_congr_left fun place member => ?_
    exact (mem_places.mp member).symm

end Node

end KindDispatch
