import KindDispatch.Dispatch.Cached
import KindDispatch.Visitor

/-!
# Shared dispatch tables

Cached dispatchers may be bound to one table, which a lookup consults when its own memo table has
no entry.  The first entry stored for a kind stays: `insert` answers the entry that is in the table
afterwards, and that answer is what the dispatcher remembers.  A table remembers the number of
visitors of its first user and refuses dispatchers over another number.
-/

namespace KindDispatch

structure SharedTable where
  /-- Number of visitors of the dispatchers bound to the table, once there is one. -/
  visitorCount : Option Nat
  memo : Memo
deriving Inhabited

namespace SharedTable

def empty : SharedTable := ⟨none, .empty⟩

def size (table : SharedTable) : Nat := table.memo.size

def isEmpty (table : SharedTable) : Bool := table.memo.isEmpty

def bind (table : SharedTable) (count : Nat) : Except SetupError SharedTable :=
  match table.visitorCount with
  | none => .ok { table with visitorCount := some count }
  | some expected =>
    if expected = count then .ok table else .error (.sharedTableMismatch expected count)

def get? (table : SharedTable) (kind : Kind) : Option (List Nat) := table.memo.get? kind

/-- Stores an entry unless the kind has one; answers the entry that is there afterwards. -/
def insert (table : SharedTable) (kind : Kind) (entry : List Nat) : List Nat × SharedTable :=
  match table.memo.get? kind with
  | some present => (present, table)
  | none => (entry, { table with memo := table.memo.insert kind entry })

theorem eq_of_bind {table bound : SharedTable} {count : Nat} (hbind : table.bind count = .ok bound) :
    bound = { table with visitorCount := some count } := by
  unfold bind at hbind
  cases hcount : table.visitorCount with
  | none =>
      simp only [hcount, Except.ok.injEq] at hbind
      exact hbind.symm
  | some expected =>
      simp only [hcount] at hbind
      split at hbind
      · next same =>
          simp only [Except.ok.injEq] at hbind
          rw [← hbind, ← same, ← hcount]
      · contradiction

theorem memo_bind {table bound : SharedTable} {count : Nat} (hbind : table.bind count = .ok bound) :
    bound.memo = table.memo := by
  rw [eq_of_bind hbind]

theorem visitorCount_bind {table bound : SharedTable} {count : Nat}
    (hbind : table.bind count = .ok bound) : bound.visitorCount = some count := by
  rw [eq_of_bind hbind]

theorem visitorCount_of_bind {table bound : SharedTable} {count : Nat}
    (hbind : table.bind count = .ok bound) :
    table.visitorCount = none ∨ table.visitorCount = some count := by
  cases hcount : table.visitorCount with
  | none => exact .inl rfl
  | some expected =>
      simp only [bind, hcount] at hbind
      split at hbind
      · next same => exact .inr (congrArg some same)
      · contradiction

theorem bind_eq_error {table : SharedTable} {count : Nat} {error : SetupError} :
    table.bind count = .error error ↔
      ∃ expected, table.visitorCount = some expected ∧ expected ≠ count ∧
        error = .sharedTableMismatch expected count := by
  unfold bind
  cases table.visitorCount with
  | none => simp
  | some expected =>
      by_cases same : expected = count
      · simp [same]
      · simp only [same, if_false, Except.error.injEq, Option.some.injEq, exists_eq_left', ne_eq,
          not_false_eq_true, true_and]
        exact eq_comm

theorem insert_of_present {table : SharedTable} {kind : Kind} {present : List Nat}
    (hpresent : table.get? kind = some present) (entry : List Nat) :
    table.insert kind entry = (present, table) := by
  simp only [get?] at hpresent
  simp [insert, hpresent]

theorem insert_of_absent {table : SharedTable} {kind : Kind} (habsent : table.get? kind = none)
    (entry : List Nat) :
    table.insert kind entry = (entry, { table with memo := table.memo.insert kind entry }) := by
  simp only [get?] at habsent
  simp [insert, habsent]

@[simp] theorem get?_insert_self (table : SharedTable) (kind : Kind) (entry : List Nat) :
    (table.insert kind entry).2.get? kind = some (table.insert kind entry).1 := by
  cases hpresent : table.get? kind with
  | none => simp [insert_of_absent hpresent, get?]
  | some present => simp [insert_of_present hpresent, hpresent]

theorem get?_insert_of_some {table : SharedTable} {wanted : Kind} {held : List Nat}
    (hheld : table.get? wanted = some held) (kind : Kind) (entry : List Nat) :
    (table.insert kind entry).2.get? wanted = some held := by
  cases hpresent : table.get? kind with
  | some present => simp [insert_of_present hpresent, hheld]
  | none =>
      have hdistinct : wanted ≠ kind := by
        rintro rfl
        rw [hheld] at hpresent
        contradiction
      simpa [insert_of_absent hpresent, get?, Memo.get?_insert, hdistinct] using hheld

end SharedTable

structure SharedDispatch where
  cached : CachedDispatch
  table : SharedTable

namespace SharedDispatch

def ofRules (rules : List Applicability) (table : SharedTable) :
    Except SetupError SharedDispatch :=
  (table.bind rules.length).map fun table => ⟨.ofRules rules, table⟩

def resolve (dispatch : SharedDispatch) (kind : Kind) : List Nat × SharedDispatch :=
  match dispatch.cached.countLookup kind with
  | (some entry, cached) => (entry, { dispatch with cached })
  | (none, cached) =>
    match dispatch.table.get? kind with
    | some entry =>
      (entry, { dispatch with cached := cached.countSharedHit.memoize kind entry })
    | none =>
      let (own, cached) := cached.evaluate kind
      let (entry, table) := dispatch.table.insert kind own
      (entry, ⟨cached.memoize kind entry, table⟩)

instance : Dispatch SharedDispatch where
  resolve := resolve
  visitorCount dispatch := dispatch.cached.rules.length
  counters dispatch := dispatch.cached.counters
  resetCounters dispatch := { dispatch with cached := dispatch.cached.resetCounters }

/-! ## The three outcomes of a lookup -/

theorem resolve_of_remembered {dispatch : SharedDispatch} {kind : Kind} {entry : List Nat}
    (hmemo : dispatch.cached.memo.get? kind = some entry) :
    dispatch.resolve kind =
      (entry, { dispatch with cached := (dispatch.cached.countLookup kind).2 }) := by
  unfold resolve
  rw [CachedDispatch.countLookup_of_remembered hmemo]

theorem resolve_of_shared {dispatch : SharedDispatch} {kind : Kind} {entry : List Nat}
    (hmemo : dispatch.cached.memo.get? kind = none)
    (htable : dispatch.table.get? kind = some entry) :
    dispatch.resolve kind =
      (entry, { dispatch with
        cached := (dispatch.cached.countLookup kind).2.countSharedHit.memoize kind entry }) := by
  unfold resolve
  rw [CachedDispatch.countLookup_of_new hmemo]
  simp [htable]

theorem resolve_of_new {dispatch : SharedDispatch} {kind : Kind}
    (hmemo : dispatch.cached.memo.get? kind = none) (htable : dispatch.table.get? kind = none) :
    dispatch.resolve kind =
      (applicable dispatch.cached.rules kind,
        ⟨((dispatch.cached.countLookup kind).2.evaluate kind).2.memoize kind
            (applicable dispatch.cached.rules kind),
          (dispatch.table.insert kind (applicable dispatch.cached.rules kind)).2⟩) := by
  unfold resolve
  rw [CachedDispatch.countLookup_of_new hmemo]
  simp [htable, SharedTable.insert_of_absent htable]

end SharedDispatch

end KindDispatch
