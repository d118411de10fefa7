import KindDispatch.Source.Lowering

/-!
# Lowering by recursion

The walk that lowers a syntax tree keeps a stack of open nodes.  Whatever is on the stack, the walk
of an element does no more to it than to append the nodes that the element stands for to the
innermost of them, or to the roots (`Lowering.walk_eq`).  So the forest of a file is that of the
recursion `SourceFile.forest`, which has no stack.

What the walk does to the stack is also written out as a list of calls, for what is said of their
order: that each closes a node that is open, and that nodes are opened in preorder.
-/

namespace KindDispatch.Source

namespace Element

def isKinded (element : Element) : Bool := element.construct.kind?.isSome

mutual

/-- The elements of a subtree, parents before what is in them, in the order of the walk. -/
def elements : Element → List Element
  | ⟨construct, name, attributes, parts⟩ =>
    ⟨construct, name, attributes, parts⟩ :: (elementsList attributes ++ elementsList parts)

def elementsList : List Element → List Element
  | [] => []
  | element :: rest => elements element ++ elementsList rest

end

end Element

inductive Call where
  | openNode (kind : Kind) (name : Option Name)
  | closeNode
deriving DecidableEq, Repr

namespace Element

mutual

def calls : Element → List Call
  | ⟨construct, name, attributes, parts⟩ =>
    match construct.kind? with
    | some kind =>
      .openNode kind name :: (callsList attributes ++ (callsList parts ++ [.closeNode]))
    | none => callsList attributes ++ callsList parts

def callsList : List Element → List Call
  | [] => []
  | element :: rest => calls element ++ callsList rest

end

end Element

namespace SourceFile

def elements (file : SourceFile) : List Element :=
  Element.elementsList file.attributes ++ Element.elementsList file.items

def calls (file : SourceFile) : List Call :=
  Element.callsList file.attributes ++ Element.callsList file.items

/-- The state of the walk when it has come to the end of the file. -/
def walked (file : SourceFile) : Lowering :=
  Lowering.walkList file.items (Lowering.walkList file.attributes .empty)

end SourceFile

namespace Lowering

/-! ## Nodes found in the middle of a walk -/

def line (state : Lowering) : Nat := (state.stack.head?.map OpenNode.line).getD 0

/-- Appends nodes to the children of the innermost open node, or to the roots if none is open. -/
def receive (nodes : Forest) (state : Lowering) : Lowering :=
  match state.stack with
  | [] => ⟨[], nodes.reverse ++ state.roots⟩
  | node :: rest => ⟨{ node with found := nodes.reverse ++ node.found } :: rest, state.roots⟩

def newNode (kind : Kind) (name : Option Name) (state : Lowering) : OpenNode :=
  ⟨kind, name.map Name.text, nodeLine name state.line, []⟩

private theorem openNode_eq (kind : Kind) (name : Option Name) (state : Lowering) :
    state.openNode kind name = ⟨state.newNode kind name :: state.stack, state.roots⟩ := rfl

@[simp] theorem line_openNode (kind : Kind) (name : Option Name) (state : Lowering) :
    (state.openNode kind name).line = nodeLine name state.line := rfl

@[simp] theorem line_receive (nodes : Forest) (state : Lowering) :
    (state.receive nodes).line = state.line := by
  obtain ⟨_ | ⟨node, rest⟩, roots⟩ := state <;> rfl

@[simp] theorem receive_nil (state : Lowering) : state.receive [] = state := by
  obtain ⟨_ | ⟨node, rest⟩, roots⟩ := state <;> rfl

@[simp] theorem receive_receive (first second : Forest) (state : Lowering) :
    (state.receive first).receive second = state.receive (first ++ second) := by
  obtain ⟨_ | ⟨node, rest⟩, roots⟩ := state <;> simp [receive]

private theorem receive_eq_empty_iff (nodes : Forest) (state : Lowering) :
    (state.receive nodes).stack = [] ↔ state.stack = [] := by
  obtain ⟨_ | ⟨node, rest⟩, roots⟩ := state <;> simp [receive]

/-- A node that is closed goes with what was found in it to where it was opened. -/
theorem closeNode_receive (kind : Kind) (name : Option Name) (nodes : Forest) (state : Lowering) :
    ((state.openNode kind name).receive nodes).closeNode =
      state.receive [⟨kind, name.map Name.text, nodeLine name state.line, nodes⟩] := by
  obtain ⟨_ | ⟨node, rest⟩, roots⟩ := state <;>
    simp [openNode_eq, newNode, receive, closeNode, OpenNode.toNode, OpenNode.add]

/-! ## The walk -/

mutual

theorem walk_eq : ∀ (element : Element) (state : Lowering),
    walk element state = state.receive (element.forest state.line)
  | ⟨construct, name, attributes, parts⟩, state => by
    cases hkind : construct.kind? with
    | some kind =>
        simp only [walk, Element.forest, hkind, walkList_eq attributes, walkList_eq parts,
          line_receive, line_openNode, receive_receive, closeNode_receive]
    | none =>
        simp only [walk, Element.forest, hkind, walkList_eq attributes, walkList_eq parts,
          line_receive, receive_receive]

theorem walkList_eq : ∀ (elements : List Element) (state : Lowering),
    walkList elements state = state.receive (Element.forestList state.line elements)
  | [], state => by simp only [walkList, Element.forestList, receive_nil]
  | element :: rest, state => by
    simp only [walkList, Element.forestList, walk_eq element, walkList_eq rest, line_receive,
      receive_receive]

end

/-! ## The walk as a list of calls -/

def apply (state : Lowering) : Call → Lowering
  | .openNode kind name => state.openNode kind name
  | .closeNode => state.closeNode

def run (calls : List Call) (state : Lowering) : Lowering := calls.foldl apply state

/-- Whenever a node is closed, one is open. -/
def Closable : List Call → Lowering → Prop
  | [], _ => True
  | .openNode kind name :: rest, state => Closable rest (state.openNode kind name)
  | .closeNode :: rest, state => state.stack ≠ [] ∧ Closable rest state.closeNode

def opened : List Call → Lowering → List Node
  | [], _ => []
  | .openNode kind name :: rest, state =>
    (state.newNode kind name).toNode :: opened rest (state.openNode kind name)
  | .closeNode :: rest, state => opened rest state.closeNode

section Append

variable (first second : List Call) (state : Lowering)

@[simp] theorem run_append : run (first ++ second) state = run second (run first state) :=
  List.foldl_append

private theorem closable_append :
    Closable (first ++ second) state ↔ Closable first state ∧ Closable second (run first state) := by
  induction first generalizing state with
  | nil => simp [Closable, run]
  | cons call rest ih =>
      cases call with
      | openNode kind name => exact ih (state.openNode kind name)
      | closeNode =>
          simp only [List.cons_append, Closable, ih state.closeNode, and_assoc]
          rfl

private theorem opened_append :
    opened (first ++ second) state = opened first state ++ opened second (run first state) := by
  induction first generalizing state with
  | nil => rfl
  | cons call rest ih =>
      cases call with
      | openNode kind name => exact congrArg (_ :: ·) (ih (state.openNode kind name))
      | closeNode => exact ih state.closeNode

end Append

mutual

theorem run_calls : ∀ (element : Element) (state : Lowering),
    run element.calls state = walk element state
  | ⟨construct, name, attributes, parts⟩, state => by
    cases hkind : construct.kind? with
    | some kind =>
        have opening : ∀ rest, run (.openNode kind name :: rest) state =
            run rest (state.openNode kind name) := fun rest => rfl
        simp only [Element.calls, walk, hkind, opening, run_append, run_callsList attributes,
          run_callsList parts]
        rfl
    | none =>
        simp only [Element.calls, walk, hkind, run_append, run_callsList attributes,
          run_callsList parts]

theorem run_callsList : ∀ (elements : List Element) (state : Lowering),
    run (Element.callsList elements) state = walkList elements state
  | [], state => rfl
  | element :: rest, state => by
    simp only [Element.callsList, walkList, run_append, run_calls element, run_callsList rest]

end

mutual

theorem closable_calls : ∀ (element : Element) (state : Lowering), Closable element.calls state
  | ⟨construct, name, attributes, parts⟩, state => by
    cases hkind : construct.kind? with
    | some kind =>
        -- what is found in the node has been appended to it, so it is still there to be closed
        have standing : ∀ nodes, ((state.openNode kind name).receive nodes).stack ≠ [] := by
          intro nodes empty
          rw [receive_eq_empty_iff, openNode_eq] at empty
          contradiction
        simp only [Element.calls, hkind, Closable, closable_append, run_callsList,
          walkList_eq, receive_receive]
        exact ⟨closable_callsList attributes _, closable_callsList parts _, standing _, trivial⟩
    | none =>
        simp only [Element.calls, hkind, closable_append]
        exact ⟨closable_callsList attributes state, closable_callsList parts _⟩

theorem closable_callsList : ∀ (elements : List Element) (state : Lowering),
    Closable (Element.callsList elements) state
  | [], state => trivial
  | element :: rest, state => by
    simp only [Element.callsList, closable_append]
    exact ⟨closable_calls element state, closable_callsList rest _⟩

end

mutual

theorem opened_calls : ∀ (element : Element) (state : Lowering),
    opened element.calls state =
      (element.forest state.line).preorder.map (Node.withChildren · [])
  | ⟨construct, name, attributes, parts⟩, state => by
    cases hkind : construct.kind? with
    | some kind =>
        simp only [Element.calls, Element.forest, hkind, opened, opened_append,
          opened_callsList attributes, opened_callsList parts, run_callsList, walkList_eq,
          line_receive, line_openNode, Forest.preorder_singleton, Forest.preorder_append,
          List.map_cons, List.map_append, List.append_nil]
        rfl
    | none =>
        simp only [Element.calls, Element.forest, hkind, opened_append,
          opened_callsList attributes, opened_callsList parts, run_callsList, walkList_eq,
          line_receive, Forest.preorder_append, List.map_append]

theorem opened_callsList : ∀ (elements : List Element) (state : Lowering),
    opened (Element.callsList elements) state =
      (Element.forestList state.line elements).preorder.map (Node.withChildren · [])
  | [], state => rfl
  | element :: rest, state => by
    simp only [Element.callsList, Element.forestList, opened_append, opened_calls element,
      opened_callsList rest, run_calls, walk_eq, line_receive, Forest.preorder_append, List.map_append]

end

end Lowering

/-! ## Files -/

namespace Element

def nodeOf (kind : Kind) (enclosing : Nat) (element : Element) : Node :=
  let line := nodeLine element.name enclosing
  ⟨kind, element.name.map Name.text, line,
    forestList line element.attributes ++ forestList line element.parts⟩

theorem forest_of_kind {element : Element} {kind : Kind}
    (hkind : element.construct.kind? = some kind) (enclosing : Nat) :
    element.forest enclosing = [element.nodeOf kind enclosing] := by
  cases element
  simp only at hkind
  simp only [forest, hkind, nodeOf]

theorem forest_of_no_kind {element : Element} (hkind : element.construct.kind? = none)
    (enclosing : Nat) :
    element.forest enclosing =
      forestList enclosing element.attributes ++ forestList enclosing element.parts := by
  cases element
  simp only at hkind
  simp only [forest, hkind]

mutual

theorem size_forest : ∀ (enclosing : Nat) (element : Element),
    (element.forest enclosing).size = element.elements.countP isKinded
  | enclosing, ⟨construct, name, attributes, parts⟩ => by
    cases hkind : construct.kind? with
    | some kind =>
        simp only [forest, elements, hkind, isKinded, Option.isSome_some, List.countP_cons_of_pos,
          List.countP_append, Forest.size_singleton, Forest.size_append,
          size_forestList _ attributes, size_forestList _ parts]
    | none =>
        have unkinded : ¬isKinded ⟨construct, name, attributes, parts⟩ = true := by
          simp [isKinded, hkind]
        simp only [forest, elements, hkind, List.countP_cons_of_neg unkinded, List.countP_append,
          Forest.size_append, size_forestList _ attributes, size_forestList _ parts]

theorem size_forestList : ∀ (enclosing : Nat) (elements : List Element),
    (forestList enclosing elements).size = (elementsList elements).countP isKinded
  | enclosing, [] => rfl
  | enclosing, element :: rest => by
    simp only [forestList, elementsList, List.countP_append, Forest.size_append,
      size_forest _ element, size_forestList _ rest]

end

end Element

namespace SourceFile

variable (file : SourceFile)

theorem walked_eq : file.walked = ⟨[], file.forest.reverse⟩ := by
  simp only [walked, Lowering.walkList_eq, Lowering.line_receive, Lowering.receive_receive]
  simp [Lowering.receive, Lowering.empty, Lowering.line, forest]

theorem lower_eq_forest : file.lower = file.forest := by
  change file.walked.finish = file.forest
  rw [file.walked_eq]
  exact List.reverse_reverse file.forest

theorem run_calls : Lowering.run file.calls .empty = file.walked := by
  rw [calls, Lowering.run_append, Lowering.run_callsList, Lowering.run_callsList, walked]

theorem opened_calls :
    Lowering.opened file.calls .empty = file.forest.preorder.map (Node.withChildren · []) := by
  rw [calls, Lowering.opened_append, Lowering.opened_callsList, Lowering.opened_callsList,
    Lowering.run_callsList, Lowering.walkList_eq, Lowering.line_receive, forest,
    Forest.preorder_append, List.map_append]
  rfl

theorem closable_calls : Lowering.Closable file.calls .empty :=
  (Lowering.closable_append ..).mpr
    ⟨Lowering.closable_callsList _ _, Lowering.closable_callsList _ _⟩

end SourceFile

/--
A file is lowered to the forest that the recursion over its elements gives.  From any state the walk
of an element only appends what the element stands for to the innermost open node, or to the roots.
At the end of a file no node is open, so nothing is left to close, and before that no node is closed
when none is open.  Each element with a kind becomes one node, and the preorder of the forest is the
order in which the nodes are opened.
-/
theorem lowering_is_structural (file : SourceFile) :
    file.lower = file.forest ∧
      (∀ (element : Element) (state : Lowering),
        Lowering.walk element state = state.receive (element.forest state.line)) ∧
      file.walked.stack = [] ∧ file.lower = file.walked.roots.reverse ∧
      Lowering.run file.calls .empty = file.walked ∧
      (∀ before after, file.calls = before ++ .closeNode :: after →
        (Lowering.run before .empty).stack ≠ []) ∧
      file.lower.size = file.elements.countP Element.isKinded ∧
      file.lower.preorder.map (Node.withChildren · []) = Lowering.opened file.calls .empty := by
  have lower := file.lower_eq_forest
  refine ⟨lower, Lowering.walk_eq, ?_, ?_, file.run_calls, ?_, ?_, ?_⟩
  · rw [file.walked_eq]
  · rw [lower, file.walked_eq, List.reverse_reverse]
  · intro before after split
    have closable := file.closable_calls
    rw [split, Lowering.closable_append] at closable
    exact closable.2.1
  · rw [lower, SourceFile.forest, SourceFile.elements, Forest.size_append, List.countP_append,
      Element.size_forestList, Element.size_forestList]
  · rw [lower, file.opened_calls]

-- the signature and the body of a function have no kind, so the statement belongs to the function
example :
    let binding : Element := ⟨.identPattern, some ⟨"x", 1⟩, [], []⟩
    let statement := Element.plain .letStatement [binding, .plain .literalExpr []]
    let function : Element :=
      ⟨.functionItem, some ⟨"f", 1⟩, [], [.plain .signature [], .plain .block [statement]]⟩
    SourceFile.lower ⟨[], [function]⟩ = [⟨.function, some "f", 1, [⟨.letStmt, none, 1,
      [⟨.bindingPattern, some "x", 1, []⟩, ⟨.literal, none, 1, []⟩]⟩]⟩] := by
  rfl

end KindDispatch.Source
