import KindDispatch.Bench.Counting
import KindDispatch.Config
import KindDispatch.Traversal.Traverser

/-!
# Passes over a corpus

A pass walks every forest of the corpus once with the counting visitors.  With one worker, one
traverser makes all passes and stays warm.  With more, the forests are cut into chunks, every chunk
of every pass gets a fresh traverser, and the caching ones share a table that lasts for the run.
-/

namespace KindDispatch

structure Tally where
  nodesVisited : Nat
  lastPass : PassStats
  dispatch : DispatchCounters
  forests : List Forest
deriving DecidableEq, Repr, Inhabited

namespace Passes

variable {D : Type}

/-- Walks forests one after the other, each in a session of its own. -/
def walkEach [Dispatch D] : List Forest → Traverser CountingVisitor D → PassStats →
    Except BenchError (List Forest × Traverser CountingVisitor D × PassStats)
  | [], traverser, stats => .ok ([], traverser, stats)
  | forest :: rest, traverser, stats =>
    match traverser.traverse CountingVisitor.hooks (Forest.depth forest) forest stats with
    | .error halt => .error (.internal halt.message)
    | .ok session => do
      let (rest, traverser, stats) ← walkEach rest session.traverser session.state
      return (session.forests ++ rest, traverser, stats)

def warm [Dispatch D] : (iterations : Nat) → Traverser CountingVisitor D → Tally →
    Except BenchError Tally
  | 0, traverser, tally => .ok { tally with dispatch := Dispatch.counters traverser.dispatch }
  | iterations + 1, traverser, tally => do
    let (forests, traverser, stats) ← walkEach tally.forests traverser .zero
    warm iterations traverser { tally with
      nodesVisited := tally.nodesVisited + stats.nodesVisited, lastPass := stats, forests }

/-! ## Chunks -/

/-- Cuts a list every `size` elements; `room` more elements fit into the current chunk, which holds
`current`, the last one first. -/
def chunksFrom {α : Type} (size : Nat) : List α → (room : Nat) → (current : List α) → List (List α)
  | [], _, current => if current.isEmpty then [] else [current.reverse]
  | x :: rest, 0, current => current.reverse :: chunksFrom size rest (size - 1) [x]
  | x :: rest, room + 1, current => chunksFrom size rest room (x :: current)

def chunks {α : Type} (size : Nat) (xs : List α) : List (List α) := chunksFrom size xs size []

def chunkSize (count jobs : Nat) : Nat := max ((count + jobs - 1) / jobs) 1

structure ChunkTally where
  forests : List Forest
  stats : PassStats
  counters : DispatchCounters
  table : SharedTable

def walkChunk (strategy : Strategy) (visitors : VisitorSet CountingVisitor) (table : SharedTable)
    (forests : List Forest) : Except BenchError ChunkTally :=
  match strategy with
  | .naive => do
    let (forests, traverser, stats) ← walkEach forests (Traverser.naive visitors) .zero
    return ⟨forests, stats, traverser.dispatch.counters, table⟩
  | .cached =>
    match Traverser.cachedShared visitors table with
    | .error cause => .error (.visitors cause)
    | .ok traverser => do
      let (forests, traverser, stats) ← walkEach forests traverser .zero
      return ⟨forests, stats, traverser.dispatch.cached.counters, traverser.dispatch.table⟩

def walkChunks (strategy : Strategy) (visitors : VisitorSet CountingVisitor) :
    List (List Forest) → SharedTable → Except BenchError ChunkTally
  | [], table => .ok ⟨[], .zero, .zero, table⟩
  | chunk :: rest, table => do
    let first ← walkChunk strategy visitors table chunk
    let others ← walkChunks strategy visitors rest first.table
    return ⟨first.forests ++ others.forests, first.stats + others.stats,
      first.counters + others.counters, others.table⟩

def chunked (strategy : Strategy) (visitors : VisitorSet CountingVisitor) (size : Nat) :
    (iterations : Nat) → SharedTable → Tally → Except BenchError Tally
  | 0, _, tally => .ok tally
  | iterations + 1, table, tally => do
    let pass ← walkChunks strategy visitors (chunks size tally.forests) table
    chunked strategy visitors size iterations pass.table
      ⟨tally.nodesVisited + pass.stats.nodesVisited, pass.stats, tally.dispatch + pass.counters,
        pass.forests⟩

def run (strategy : Strategy) (iterations jobs : Nat) (forests : List Forest) :
    Except BenchError Tally :=
  match CountingVisitor.registered with
  | .error cause => .error (.visitors cause)
  | .ok visitors =>
    let start : Tally := ⟨0, .zero, .zero, forests⟩
    if jobs ≤ 1 then
      match strategy with
      | .naive => warm iterations (Traverser.naive visitors) start
      | .cached => warm iterations (Traverser.cached visitors) start
    else chunked strategy visitors (chunkSize forests.length jobs) iterations .empty start

end Passes

end KindDispatch
