import KindDispatch.Dispatch.Basic
import KindDispatch.Visitor

/-!
# Walking a forest

A walk goes through a forest depth first and left to right.  At each node it looks up the visitors
for the node's kind, calls them in registration order on entering, walks the children, and calls
them again on leaving.  The lists looked up for the nodes on the current path lie one after the
other in one growing vector, `Walk.path`; each node works on the slots it added and gives them back
when it is done.

Replacements may grow without end, so `Walk.node` takes a bound on the depth it may reach and halts
if that is exceeded; a larger bound never changes an answer.  It also halts if a slot or a visitor is
asked for that is not there.
-/

namespace KindDispatch

structure TraversalStats where
  /-- Nodes walked, one that was stopped at included. -/
  nodesVisited : Nat
  /-- Calls of visitors, on entering and on leaving. -/
  visitorCalls : Nat
  stopped : Bool
deriving DecidableEq, Repr, Inhabited

def TraversalStats.zero : TraversalStats := ⟨0, 0, false⟩

/-- One call of a visitor: who was called, when, on which node as it was then, and the answer. -/
structure VisitorCall where
  visitor : Nat
  hook : Hook
  node : Node
  result : VisitResult
deriving DecidableEq, Repr

inductive Halt where
  /-- The walk would go below the last level it may reach. -/
  | tooDeep
  /-- A slot of the path or a visitor is asked for that is not there. -/
  | outOfRange
deriving DecidableEq, Repr

def Halt.message : Halt → String
  | tooDeep => "a walk went below the last level"
  | outOfRange => "a walk asked for a visitor that is not there"

inductive Step where
  | keep
  | remove
  | stop
deriving DecidableEq, Repr

structure Progress (V S : Type) where
  visitors : Array V
  state : S
  stats : TraversalStats
  /-- The calls made so far, the latest first. -/
  calls : List VisitorCall

namespace Progress

variable {V S : Type}

def countNode (progress : Progress V S) : Progress V S :=
  { progress with
    stats := { progress.stats with nodesVisited := progress.stats.nodesVisited + 1 } }

def call (hooks : Hooks V S) (hook : Hook) (index : Nat) (node : Node) (progress : Progress V S) :
    Except Halt (VisitResult × Progress V S) :=
  if inRange : index < progress.visitors.size then
    let visitor := progress.visitors[index]
    if hooks.accepts visitor node then
      let (result, visitor, state) := hooks.call hook visitor node progress.state
      .ok (result,
        { visitors := progress.visitors.set index visitor
          state
          stats := { progress.stats with
            visitorCalls := progress.stats.visitorCalls + 1
            stopped := progress.stats.stopped || result.isStop }
          calls := ⟨index, hook, node, result⟩ :: progress.calls })
    else .ok (.proceed, progress)
  else .error .outOfRange

/-- Calls the visitors named in `count` slots of the path, from `slot` on, one after the other.  A
replacement is the node the later ones see.  Answers what becomes of the node, the node, and whether
its children are to be left out (`skip` if that was already so). -/
def callSlots (hooks : Hooks V S) (hook : Hook) (path : Array Nat) :
    (count slot : Nat) → Node → (skip : Bool) → Progress V S →
      Except Halt (Step × Node × Bool × Progress V S)
  | 0, _, node, skip, progress => .ok (.keep, node, skip, progress)
  | count + 1, slot, node, skip, progress =>
    match path[slot]? with
    | none => .error .outOfRange
    | some index =>
      match progress.call hooks hook index node with
      | .error halt => .error halt
      | .ok (.proceed, progress) => callSlots hooks hook path count (slot + 1) node skip progress
      | .ok (.skipChildren, progress) =>
        callSlots hooks hook path count (slot + 1) node true progress
      | .ok (.replace node, progress) =>
        callSlots hooks hook path count (slot + 1) node skip progress
      | .ok (.remove, progress) => .ok (.remove, node, skip, progress)
      | .ok (.stop, progress) => .ok (.stop, node, skip, progress)

end Progress

structure Walk (V S D : Type) extends Progress V S where
  dispatch : D
  /-- Places of the visitors looked up for the nodes on the current path. -/
  path : Array Nat

namespace Walk

variable {V S D W : Type}

def extendPath [Dispatch D] (kind : Kind) (walk : Walk V S D) : Walk V S D :=
  let (indices, dispatch) := Dispatch.resolve walk.dispatch kind
  { walk with dispatch, path := walk.path.append indices.toArray }

def cutPath (start : Nat) (walk : Walk V S D) : Walk V S D :=
  { walk with path := walk.path.shrink start }

def callPath (hooks : Hooks V S) (hook : Hook) (start stop : Nat) (node : Node)
    (walk : Walk V S D) : Except Halt (Step × Node × Bool × Walk V S D) :=
  (walk.toProgress.callSlots hooks hook walk.path (stop - start) start node false).map
    fun (step, node, skip, progress) => (step, node, skip, { walk with toProgress := progress })

/-- Walks a sequence of nodes with `walkOne`; `done` holds what became of the nodes before it, the
latest first.  Removed nodes leave no trace, and after a stop the rest is left as it is. -/
def sequence (walkOne : Node → W → Except Halt (Step × Node × W)) :
    (done rest : List Node) → W → Except Halt (Step × List Node × W)
  | done, [], walk => .ok (.keep, done.reverse, walk)
  | done, node :: rest, walk =>
    match walkOne node walk with
    | .error halt => .error halt
    | .ok (.keep, node, walk) => sequence walkOne (node :: done) rest walk
    | .ok (.remove, _, walk) => sequence walkOne done rest walk
    | .ok (.stop, node, walk) => .ok (.stop, done.reverse ++ node :: rest, walk)

def descend (walkChildren : List Node → W → Except Halt (Step × List Node × W)) (skip : Bool)
    (node : Node) (walk : W) : Except Halt (Step × Node × W) :=
  if skip then .ok (.keep, node, walk)
  else (walkChildren node.children walk).map fun (step, children, walk) =>
    (step, node.withChildren children, walk)

/-- Leaves a node with the visitors in the slots from `start` up to `stop`, or, if its kind is no
longer the one it was entered with, with the visitors of its kind now. -/
def leave [Dispatch D] (hooks : Hooks V S) (entered : Kind) (start stop : Nat) (node : Node)
    (walk : Walk V S D) : Except Halt (Step × Node × Walk V S D) :=
  let left :=
    if node.kind ≠ entered then
      let walk := (walk.cutPath start).extendPath node.kind
      walk.callPath hooks .leave start walk.path.size node
    else walk.callPath hooks .leave start stop node
  left.map fun (step, node, _, walk) => (step, node, walk)

/-- Enters, descends and leaves, with the visitors in the slots of the path from `start` on.  The
slots below are those of the nodes above, and the children give back the ones they add. -/
def visit [Dispatch D] (hooks : Hooks V S)
    (walkChildren : List Node → Walk V S D → Except Halt (Step × List Node × Walk V S D))
    (start : Nat) (node : Node) (walk : Walk V S D) : Except Halt (Step × Node × Walk V S D) :=
  let entered := node.kind
  let stop := walk.path.size
  match walk.callPath hooks .enter start stop node with
  | .error halt => .error halt
  | .ok (.remove, node, _, walk) => .ok (.remove, node, walk)
  | .ok (.stop, node, _, walk) => .ok (.stop, node, walk)
  | .ok (.keep, node, skip, walk) =>
    match descend walkChildren skip node walk with
    | .error halt => .error halt
    | .ok (.stop, node, walk) => .ok (.stop, node, walk)
    | .ok (_, node, walk) => walk.leave hooks entered start stop node

def node [Dispatch D] (hooks : Hooks V S) :
    (depth : Nat) → Node → Walk V S D → Except Halt (Step × Node × Walk V S D)
  | 0, _, _ => .error .tooDeep
  | depth + 1, target, walk =>
    let start := walk.path.size
    let walk := { walk with toProgress := walk.countNode }
    let walk := walk.extendPath target.kind
    (walk.visit hooks (sequence (node hooks depth) []) start target).map
      fun (step, target, walk) => (step, target, walk.cutPath start)

def forests (walkOne : Node → W → Except Halt (Step × Node × W)) :
    List Forest → W → Except Halt (Step × List Forest × W)
  | [], walk => .ok (.keep, [], walk)
  | forest :: rest, walk =>
    match sequence walkOne [] forest walk with
    | .error halt => .error halt
    | .ok (.stop, forest, walk) => .ok (.stop, forest :: rest, walk)
    | .ok (_, forest, walk) =>
      (forests walkOne rest walk).map fun (step, rest, walk) => (step, forest :: rest, walk)

end Walk

end KindDispatch
