import KindDispatch.Traversal.Traverser

/-!
# Engines on common tables

An engine is a traverser with one of the three ways to dispatch; a sharing engine names the table it
is bound to.  A `Workshop` holds engines and tables: every operation on an engine works on the table
it names as that table is at the time, and leaves the table as the operation left it.
-/

namespace KindDispatch

inductive EngineMode where
  | naive
  | cached
  /-- Cached, on the table with the given number. -/
  | shared (table : Nat)
deriving DecidableEq, Repr

inductive Engine (V : Type) where
  | naive (traverser : Traverser V NaiveDispatch)
  | cached (traverser : Traverser V CachedDispatch)
  | shared (table : Nat) (traverser : Traverser V CachedDispatch)

/-- Engines and shared tables, both numbered from zero.  A table nobody has used is empty, and an
engine that could not be built keeps its number. -/
structure Workshop (V : Type) where
  engines : List (Option (Engine V))
  tables : List (Nat × SharedTable)

namespace Workshop

variable {V S : Type}

def empty : Workshop V := ⟨[], []⟩

def table (workshop : Workshop V) (number : Nat) : SharedTable :=
  (workshop.tables.lookup number).getD .empty

def setTable (workshop : Workshop V) (number : Nat) (table : SharedTable) : Workshop V :=
  { workshop with tables := (number, table) :: workshop.tables.filter (·.1 != number) }

def engine? (workshop : Workshop V) (number : Nat) : Option (Engine V) :=
  (workshop.engines[number]?).join

def setEngine (workshop : Workshop V) (number : Nat) (engine : Engine V) : Workshop V :=
  { workshop with engines := workshop.engines.set number (some engine) }

def addFailed (workshop : Workshop V) : Workshop V :=
  { workshop with engines := workshop.engines ++ [none] }

def addEngine (workshop : Workshop V) (mode : EngineMode) (set : VisitorSet V) :
    Except SetupError (Workshop V) :=
  let add (workshop : Workshop V) (engine : Engine V) : Workshop V :=
    { workshop with engines := workshop.engines ++ [some engine] }
  match mode with
  | .naive => .ok (add workshop (.naive (.naive set)))
  | .cached => .ok (add workshop (.cached (.cached set)))
  | .shared number =>
    (Traverser.cachedShared set (workshop.table number)).map fun traverser =>
      add (workshop.setTable number traverser.dispatch.table)
        (.shared number ⟨traverser.visitors, traverser.dispatch.cached⟩)

def plugged (workshop : Workshop V) (number : Nat) (traverser : Traverser V CachedDispatch) :
    Traverser V SharedDispatch :=
  ⟨traverser.visitors, ⟨traverser.dispatch, workshop.table number⟩⟩

def unplug (workshop : Workshop V) (engine number : Nat) (traverser : Traverser V SharedDispatch) :
    Workshop V :=
  (workshop.setTable number traverser.dispatch.table).setEngine engine
    (.shared number ⟨traverser.visitors, traverser.dispatch.cached⟩)

structure Outcome (S : Type) where
  forests : List Forest
  state : S
  stats : TraversalStats
  calls : List VisitorCall

/-- Levels a session of an engine may go down; a forest as deep as that fits in no memory. -/
def levelLimit : Nat := 1 <<< 40

/-- One session of an engine; nothing if there is no such engine, or if the session halts, for
instance because it would go below `depth` levels. -/
def traverseAll? (hooks : Hooks V S) (depth : Nat) (workshop : Workshop V) (engine : Nat)
    (forests : List Forest) (state : S) : Option (Outcome S × Workshop V) := do
  match ← workshop.engine? engine with
  | .naive traverser =>
    let session ← (traverser.traverseAll hooks depth forests state).toOption
    some (⟨session.forests, session.state, session.stats, session.calls⟩,
      workshop.setEngine engine (.naive session.traverser))
  | .cached traverser =>
    let session ← (traverser.traverseAll hooks depth forests state).toOption
    some (⟨session.forests, session.state, session.stats, session.calls⟩,
      workshop.setEngine engine (.cached session.traverser))
  | .shared number traverser =>
    let session ←
      ((workshop.plugged number traverser).traverseAll hooks depth forests state).toOption
    some (⟨session.forests, session.state, session.stats, session.calls⟩,
      workshop.unplug engine number session.traverser)

def resolve? (workshop : Workshop V) (engine : Nat) (kind : Kind) :
    Option (List Nat × Workshop V) := do
  match ← workshop.engine? engine with
  | .naive traverser =>
    let (indices, traverser) := traverser.resolve kind
    some (indices, workshop.setEngine engine (.naive traverser))
  | .cached traverser =>
    let (indices, traverser) := traverser.resolve kind
    some (indices, workshop.setEngine engine (.cached traverser))
  | .shared number traverser =>
    let (indices, traverser) := (workshop.plugged number traverser).resolve kind
    some (indices, workshop.unplug engine number traverser)

def resetCounters (workshop : Workshop V) (engine : Nat) : Workshop V :=
  match workshop.engine? engine with
  | some (.naive traverser) => workshop.setEngine engine (.naive traverser.resetCounters)
  | some (.cached traverser) => workshop.setEngine engine (.cached traverser.resetCounters)
  | some (.shared number traverser) =>
    workshop.setEngine engine (.shared number traverser.resetCounters)
  | none => workshop

end Workshop

namespace Engine

variable {V : Type}

def counters : Engine V → DispatchCounters
  | naive traverser => traverser.dispatch.counters
  | cached traverser | shared _ traverser => traverser.dispatch.counters

def ruleCount : Engine V → Nat
  | naive traverser => traverser.dispatch.rules.length
  | cached traverser | shared _ traverser => traverser.dispatch.rules.length

def visitorCount : Engine V → Nat
  | naive traverser => traverser.visitorCount
  | cached traverser | shared _ traverser => traverser.visitorCount

def cachedKinds? : Engine V → Option Nat
  | naive _ => none
  | cached traverser | shared _ traverser => some traverser.dispatch.cachedKinds

def remembered? (kind : Kind) : Engine V → Option (List Nat)
  | naive _ => none
  | cached traverser | shared _ traverser => traverser.dispatch.remembered? kind

end Engine

end KindDispatch
