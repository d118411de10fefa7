import KindDispatch.Node
import KindDispatch.Source.Syntax

/-!
# Lowering

A syntax tree becomes a forest in one walk.  An element whose construct has a node kind opens a
node, has its attributes and parts walked, and closes the node into the one it stands in; any other
element leaves what is found in it to the node around it.

`Lowering` is the state of that walk and `SourceFile.lower` runs it over a file.
`SourceFile.forest` says the same by recursion on the tree, without a state.
-/

namespace KindDispatch.Source

def lineLimit : Nat := UInt32.size - 1

/-- The line of a node: that of its name, or else the line of the node it stands in. -/
def nodeLine (name : Option Name) (enclosing : Nat) : Nat :=
  match name with
  | some name => min name.line lineLimit
  | none => enclosing

structure OpenNode where
  kind : Kind
  name : Option String
  line : Nat
  /-- The children found so far, the latest first. -/
  found : List Node
deriving Repr, Inhabited

namespace OpenNode

def toNode (node : OpenNode) : Node := ⟨node.kind, node.name, node.line, node.found.reverse⟩

def add (child : Node) (node : OpenNode) : OpenNode := { node with found := child :: node.found }

end OpenNode

/-- The state of a walk: the nodes that are open, the innermost first, and the roots found so far,
the latest first. -/
structure Lowering where
  stack : List OpenNode
  roots : List Node
deriving Repr, Inhabited

namespace Lowering

def empty : Lowering := ⟨[], []⟩

def openNode (kind : Kind) (name : Option Name) (state : Lowering) : Lowering :=
  let enclosing := (state.stack.head?.map OpenNode.line).getD 0
  { state with stack := ⟨kind, name.map Name.text, nodeLine name enclosing, []⟩ :: state.stack }

def closeNode (state : Lowering) : Lowering :=
  match state.stack with
  | [] => state
  | [node] => ⟨[], node.toNode :: state.roots⟩
  | node :: parent :: rest => ⟨parent.add node.toNode :: rest, state.roots⟩

def finish (state : Lowering) : Forest :=
  (closing state.stack.length state).roots.reverse
where
  closing : Nat → Lowering → Lowering
    | 0, state => state
    | count + 1, state => closing count state.closeNode

mutual

def walk : Element → Lowering → Lowering
  | ⟨construct, name, attributes, parts⟩, state =>
    match construct.kind? with
    | some kind =>
      (walkList parts (walkList attributes (state.openNode kind name))).closeNode
    | none => walkList parts (walkList attributes state)

def walkList : List Element → Lowering → Lowering
  | [], state => state
  | element :: rest, state => walkList rest (walk element state)

end

end Lowering

namespace Element

mutual

/-- The nodes an element stands for, inside a node on line `enclosing`. -/
def forest (enclosing : Nat) : Element → Forest
  | ⟨construct, name, attributes, parts⟩ =>
    match construct.kind? with
    | some kind =>
      let line := nodeLine name enclosing
      [⟨kind, name.map Name.text, line, forestList line attributes ++ forestList line parts⟩]
    | none => forestList enclosing attributes ++ forestList enclosing parts

def forestList (enclosing : Nat) : List Element → Forest
  | [] => []
  | element :: rest => forest enclosing element ++ forestList enclosing rest

end

end Element

namespace SourceFile

def lower (file : SourceFile) : Forest :=
  (Lowering.walkList file.items (Lowering.walkList file.attributes .empty)).finish

def forest (file : SourceFile) : Forest :=
  Element.forestList 0 file.attributes ++ Element.forestList 0 file.items

end SourceFile

end KindDispatch.Source
