import KindDispatch.Bench.Passes
import KindDispatch.Corpus

/-!
# Benchmarks

A benchmark loads the corpus its settings describe and makes one run for each strategy of the mode.
What a run took is filled in by a `Meter`, so that everything else is the same whether runs are
measured or not.
-/

namespace KindDispatch

def runStrategy (strategy : Strategy) (iterations jobs : Nat) (forests : List Forest) :
    Except BenchError (RunReport × List Forest) :=
  (Passes.run strategy iterations jobs forests).map fun tally =>
    ({ strategy, iterations, jobs, nodesVisited := tally.nodesVisited, lastPass := tally.lastPass,
       elapsedMs := .zero, dispatch := tally.dispatch, peakMemory := none }, tally.forests)

/-- Makes a run and fills in its time and memory. -/
abbrev Meter (m : Type → Type) : Type :=
  (Unit → Except BenchError (RunReport × List Forest)) →
    m (Except BenchError (RunReport × List Forest))

namespace Bench

/-- Makes a run for each strategy, each over the forests the one before it left. -/
def runs {m : Type → Type} [Monad m] (meter : Meter m) (iterations jobs : Nat) :
    List Strategy → List Forest → m (Except BenchError (List RunReport))
  | [], _ => pure (.ok [])
  | strategy :: rest, forests => do
    match ← meter fun _ => runStrategy strategy iterations jobs forests with
    | .error error => return .error error
    | .ok (run, forests) =>
      return (← runs meter iterations jobs rest forests).map (run :: ·)

def load (tree : FileTree) (config : Config) : Except BenchError Corpus := do
  config.validate
  Corpus.load tree config

def run {m : Type → Type} [Monad m] (meter : Meter m) (tree : FileTree) (config : Config) :
    m (Except BenchError BenchReport) := do
  match load tree config with
  | .error error => return .error error
  | .ok corpus =>
    let runs ← runs meter config.iterations config.jobs config.mode.runs corpus.forests
    return runs.map fun runs =>
      { files := corpus.files.length, skipped := corpus.skipped, sourceBytes := corpus.sourceBytes,
        corpusNodes := corpus.nodeCount, runs }

end Bench

end KindDispatch
