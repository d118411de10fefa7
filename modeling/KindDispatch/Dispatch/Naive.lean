import KindDispatch.Dispatch.Basic

/-!
# Naive dispatch

Evaluates every rule at every lookup and remembers nothing.
-/

namespace KindDispatch

structure NaiveDispatch where
  rules : List Applicability
  counters : DispatchCounters

namespace NaiveDispatch

def ofRules (rules : List Applicability) : NaiveDispatch := ⟨rules, .zero⟩

def resolve (dispatch : NaiveDispatch) (kind : Kind) : List Nat × NaiveDispatch :=
  let counters := dispatch.counters
  (applicable dispatch.rules kind,
    { dispatch with counters := { counters with
        lookups := counters.lookups + 1
        misses := counters.misses + 1
        applicabilityChecks := counters.applicabilityChecks + dispatch.rules.length } })

instance : Dispatch NaiveDispatch where
  resolve := resolve
  visitorCount dispatch := dispatch.rules.length
  counters := counters
  resetCounters dispatch := { dispatch with counters := .zero }

end NaiveDispatch

end KindDispatch
