import KindDispatch.Applicability

/-!
# Dispatch

A dispatcher answers which registered visitors apply to a node of a given kind, in registration
order, and counts the work it does.  `Dispatch` is what the traversal asks of one; the strategies
are in the modules beside this one.
-/

namespace KindDispatch

structure DispatchCounters where
  lookups : Nat
  /-- Lookups answered from the dispatcher's own memo table. -/
  hits : Nat
  /-- Lookups that were not. -/
  misses : Nat
  /-- Misses answered by a table shared with other dispatchers. -/
  sharedHits : Nat
  /-- Rules evaluated against a kind. -/
  applicabilityChecks : Nat
deriving DecidableEq, Repr, Inhabited

namespace DispatchCounters

def zero : DispatchCounters := ⟨0, 0, 0, 0, 0⟩

def add (a b : DispatchCounters) : DispatchCounters :=
  ⟨a.lookups + b.lookups, a.hits + b.hits, a.misses + b.misses, a.sharedHits + b.sharedHits,
    a.applicabilityChecks + b.applicabilityChecks⟩

instance : Add DispatchCounters := ⟨add⟩

theorem add_def (a b : DispatchCounters) :
    a + b = ⟨a.lookups + b.lookups, a.hits + b.hits, a.misses + b.misses,
      a.sharedHits + b.sharedHits, a.applicabilityChecks + b.applicabilityChecks⟩ := rfl

end DispatchCounters

/-- What a traversal asks of a dispatcher. -/
class Dispatch (D : Type) where
  /-- Places of the visitors that apply to a kind, and the dispatcher after the lookup. -/
  resolve : D → Kind → List Nat × D
  visitorCount : D → Nat
  counters : D → DispatchCounters
  /-- The same dispatcher with its counters at zero; what it remembers stays. -/
  resetCounters : D → D

end KindDispatch
