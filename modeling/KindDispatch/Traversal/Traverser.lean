import KindDispatch.Dispatch.Naive
import KindDispatch.Dispatch.Shared
import KindDispatch.Traversal.Walk

/-!
# Traversers

A traverser holds visitors and the dispatcher built from their declarations.  The visitors and what
the dispatcher remembers live on from one session to the next; the trace, the totals and the path
belong to one session.
-/

namespace KindDispatch

structure Traverser (V D : Type) where
  visitors : Array V
  dispatch : D

structure Session (V S D : Type) where
  traverser : Traverser V D
  forests : List Forest
  state : S
  stats : TraversalStats
  /-- The calls made, in order. -/
  calls : List VisitorCall

namespace Traverser

variable {V S D : Type}

def naive (set : VisitorSet V) : Traverser V NaiveDispatch :=
  ⟨set.visitors.toArray, .ofRules set.rules⟩

def cached (set : VisitorSet V) : Traverser V CachedDispatch :=
  ⟨set.visitors.toArray, .ofRules set.rules⟩

def cachedShared (set : VisitorSet V) (table : SharedTable) :
    Except SetupError (Traverser V SharedDispatch) :=
  (SharedDispatch.ofRules set.rules table).map fun dispatch => ⟨set.visitors.toArray, dispatch⟩

def visitorCount (traverser : Traverser V D) : Nat := traverser.visitors.size

/-- One session over several forests, going down at most `depth` levels. -/
def traverseAll [Dispatch D] (hooks : Hooks V S) (depth : Nat) (traverser : Traverser V D)
    (forests : List Forest) (state : S) : Except Halt (Session V S D) :=
  let walk : Walk V S D :=
    { visitors := traverser.visitors, dispatch := traverser.dispatch, path := #[], state,
      stats := .zero, calls := [] }
  (Walk.forests (Walk.node hooks depth) forests walk).map fun (_, forests, walk) =>
    { traverser := ⟨walk.visitors, walk.dispatch⟩, forests, state := walk.state,
      stats := walk.stats, calls := walk.calls.reverse }

def traverse [Dispatch D] (hooks : Hooks V S) (depth : Nat) (traverser : Traverser V D)
    (forest : Forest) (state : S) : Except Halt (Session V S D) :=
  traverser.traverseAll hooks depth [forest] state

def resolve [Dispatch D] (traverser : Traverser V D) (kind : Kind) : List Nat × Traverser V D :=
  let (indices, dispatch) := Dispatch.resolve traverser.dispatch kind
  (indices, { traverser with dispatch })

def resetCounters [Dispatch D] (traverser : Traverser V D) : Traverser V D :=
  { traverser with dispatch := Dispatch.resetCounters traverser.dispatch }

end Traverser

end KindDispatch
