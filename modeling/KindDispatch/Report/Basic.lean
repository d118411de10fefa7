import KindDispatch.Binary64.Basic
import KindDispatch.Config
import KindDispatch.Dispatch.Basic

/-!
# Benchmark reports

What one benchmark measured: the corpus, the files that were left out of it, and the figures of each
run.
-/

namespace KindDispatch

structure PassStats where
  nodesVisited : Nat
  functions : Nat
  structs : Nat
  methods : Nat
deriving DecidableEq, Repr, Inhabited

namespace PassStats

def zero : PassStats := ⟨0, 0, 0, 0⟩

def add (a b : PassStats) : PassStats :=
  ⟨a.nodesVisited + b.nodesVisited, a.functions + b.functions, a.structs + b.structs,
    a.methods + b.methods⟩

instance : Add PassStats := ⟨add⟩

theorem add_def (a b : PassStats) :
    a + b = ⟨a.nodesVisited + b.nodesVisited, a.functions + b.functions, a.structs + b.structs,
      a.methods + b.methods⟩ := rfl

end PassStats

structure RunReport where
  strategy : Strategy
  iterations : Nat
  jobs : Nat
  nodesVisited : Nat
  lastPass : PassStats
  elapsedMs : Binary64
  dispatch : DispatchCounters
  /-- Largest amount of memory in use during the run, if it was measured. -/
  peakMemory : Option Nat
deriving DecidableEq, Repr, Inhabited

inductive SkipReason where
  | unreadable (message : String)
  | parseError (line column : Nat) (message : String)
deriving DecidableEq, Repr, Inhabited

structure SkippedFile where
  path : String
  reason : SkipReason
deriving DecidableEq, Repr, Inhabited

structure BenchReport where
  files : Nat
  skipped : List SkippedFile
  sourceBytes : Nat
  corpusNodes : Nat
  runs : List RunReport
deriving DecidableEq, Repr, Inhabited

def DispatchCounters.hitRate (counters : DispatchCounters) : Binary64 :=
  if counters.lookups = 0 then .zero else .ofNat counters.hits / .ofNat counters.lookups

def RunReport.nodesPerSecond (run : RunReport) : Binary64 :=
  if run.elapsedMs.le .zero then .zero
  else .ofNat run.nodesVisited / (run.elapsedMs / .ofNat 1000)

/-- Time of the first naive run over that of the first cached run, if both were made and the cached
one took any time. -/
def BenchReport.speedup (report : BenchReport) : Option Binary64 := do
  let naive ← report.runs.find? (·.strategy = .naive)
  let cached ← report.runs.find? (·.strategy = .cached)
  if Binary64.zero.lt cached.elapsedMs then some (naive.elapsedMs / cached.elapsedMs) else none

end KindDispatch
