import KindDispatch.Dispatch.Basic
import KindDispatch.Dispatch.Memo

/-!
# Cached dispatch

Evaluates the rules once for each kind and remembers the answer.  Entries are only ever added: the
rules of a dispatcher never change.

A lookup is built from three steps, so that the steps of dispatchers that share a table can be
interleaved: `countLookup` asks the memo table, `evaluate` runs the rules, `memoize` stores an
entry.
-/

namespace KindDispatch

structure CachedDispatch where
  rules : List Applicability
  memo : Memo
  counters : DispatchCounters

namespace CachedDispatch

def ofRules (rules : List Applicability) : CachedDispatch := ⟨rules, .empty, .zero⟩

/-- The remembered entry of a kind; does not count as a lookup and stores nothing. -/
def remembered? (dispatch : CachedDispatch) (kind : Kind) : Option (List Nat) :=
  dispatch.memo.get? kind

def cachedKinds (dispatch : CachedDispatch) : Nat := dispatch.memo.size

def countLookup (dispatch : CachedDispatch) (kind : Kind) : Option (List Nat) × CachedDispatch :=
  let counters := { dispatch.counters with lookups := dispatch.counters.lookups + 1 }
  match dispatch.memo.get? kind with
  | some entry => (some entry, { dispatch with
      counters := { counters with hits := counters.hits + 1 } })
  | none => (none, { dispatch with
      counters := { counters with misses := counters.misses + 1 } })

def evaluate (dispatch : CachedDispatch) (kind : Kind) : List Nat × CachedDispatch :=
  let counters := dispatch.counters
  (applicable dispatch.rules kind,
    { dispatch with counters := { counters with
        applicabilityChecks := counters.applicabilityChecks + dispatch.rules.length } })

def countSharedHit (dispatch : CachedDispatch) : CachedDispatch :=
  { dispatch with counters := { dispatch.counters with
      sharedHits := dispatch.counters.sharedHits + 1 } }

def memoize (dispatch : CachedDispatch) (kind : Kind) (entry : List Nat) : CachedDispatch :=
  { dispatch with memo := dispatch.memo.insert kind entry }

def resolve (dispatch : CachedDispatch) (kind : Kind) : List Nat × CachedDispatch :=
  match dispatch.countLookup kind with
  | (some entry, dispatch) => (entry, dispatch)
  | (none, dispatch) =>
    let (entry, dispatch) := dispatch.evaluate kind
    (entry, dispatch.memoize kind entry)

def resetCounters (dispatch : CachedDispatch) : CachedDispatch :=
  { dispatch with counters := .zero }

instance : Dispatch CachedDispatch where
  resolve := resolve
  visitorCount dispatch := dispatch.rules.length
  counters := counters
  resetCounters := resetCounters

/-! ## What each step leaves alone -/

@[simp] theorem countLookup_fst (dispatch : CachedDispatch) (kind : Kind) :
    (dispatch.countLookup kind).1 = dispatch.memo.get? kind := by
  unfold countLookup
  cases dispatch.memo.get? kind <;> rfl

@[simp] theorem rules_countLookup (dispatch : CachedDispatch) (kind : Kind) :
    (dispatch.countLookup kind).2.rules = dispatch.rules := by
  unfold countLookup
  cases dispatch.memo.get? kind <;> rfl

@[simp] theorem memo_countLookup (dispatch : CachedDispatch) (kind : Kind) :
    (dispatch.countLookup kind).2.memo = dispatch.memo := by
  unfold countLookup
  cases dispatch.memo.get? kind <;> rfl

@[simp] theorem evaluate_fst (dispatch : CachedDispatch) (kind : Kind) :
    (dispatch.evaluate kind).1 = applicable dispatch.rules kind := rfl

@[simp] theorem rules_evaluate (dispatch : CachedDispatch) (kind : Kind) :
    (dispatch.evaluate kind).2.rules = dispatch.rules := rfl

@[simp] theorem memo_evaluate (dispatch : CachedDispatch) (kind : Kind) :
    (dispatch.evaluate kind).2.memo = dispatch.memo := rfl

@[simp] theorem rules_countSharedHit (dispatch : CachedDispatch) :
    dispatch.countSharedHit.rules = dispatch.rules := rfl

@[simp] theorem memo_countSharedHit (dispatch : CachedDispatch) :
    dispatch.countSharedHit.memo = dispatch.memo := rfl

@[simp] theorem rules_memoize (dispatch : CachedDispatch) (kind : Kind) (entry : List Nat) :
    (dispatch.memoize kind entry).rules = dispatch.rules := rfl

@[simp] theorem memo_memoize (dispatch : CachedDispatch) (kind : Kind) (entry : List Nat) :
    (dispatch.memoize kind entry).memo = dispatch.memo.insert kind entry := rfl

@[simp] theorem counters_memoize (dispatch : CachedDispatch) (kind : Kind) (entry : List Nat) :
    (dispatch.memoize kind entry).counters = dispatch.counters := rfl

/-! ## The two outcomes of a lookup -/

theorem countLookup_of_remembered {dispatch : CachedDispatch} {kind : Kind} {entry : List Nat}
    (hmemo : dispatch.memo.get? kind = some entry) :
    dispatch.countLookup kind = (some entry, (dispatch.countLookup kind).2) :=
  Prod.ext ((dispatch.countLookup_fst kind).trans hmemo) rfl

theorem countLookup_of_new {dispatch : CachedDispatch} {kind : Kind}
    (hmemo : dispatch.memo.get? kind = none) :
    dispatch.countLookup kind = (none, (dispatch.countLookup kind).2) :=
  Prod.ext ((dispatch.countLookup_fst kind).trans hmemo) rfl

theorem counters_countLookup_of_remembered {dispatch : CachedDispatch} {kind : Kind}
    {entry : List Nat} (hmemo : dispatch.memo.get? kind = some entry) :
    (dispatch.countLookup kind).2.counters =
      { dispatch.counters with
        lookups := dispatch.counters.lookups + 1
        hits := dispatch.counters.hits + 1 } := by
  simp [countLookup, hmemo]

theorem counters_countLookup_of_new {dispatch : CachedDispatch} {kind : Kind}
    (hmemo : dispatch.memo.get? kind = none) :
    (dispatch.countLookup kind).2.counters =
      { dispatch.counters with
        lookups := dispatch.counters.lookups + 1
        misses := dispatch.counters.misses + 1 } := by
  simp [countLookup, hmemo]

theorem resolve_of_remembered {dispatch : CachedDispatch} {kind : Kind} {entry : List Nat}
    (hmemo : dispatch.memo.get? kind = some entry) :
    dispatch.resolve kind = (entry, (dispatch.countLookup kind).2) := by
  unfold resolve
  rw [countLookup_of_remembered hmemo]

theorem resolve_of_new {dispatch : CachedDispatch} {kind : Kind}
    (hmemo : dispatch.memo.get? kind = none) :
    dispatch.resolve kind =
      (applicable dispatch.rules kind,
        ((dispatch.countLookup kind).2.evaluate kind).2.memoize kind
          (applicable dispatch.rules kind)) := by
  unfold resolve
  rw [countLookup_of_new hmemo]
  simp

end CachedDispatch

end KindDispatch
