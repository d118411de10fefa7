import KindDispatch.Report.Basic
import KindDispatch.Visitor

/-!
# Counting visitors

The visitors a benchmark dispatches to.  Each counts the nodes it is called on and changes nothing.
-/

namespace KindDispatch

inductive CountingVisitor where
  | functions
  | structs
  | methods
  | nodes
deriving DecidableEq, Repr, Inhabited

namespace CountingVisitor

def all : List CountingVisitor := [functions, structs, methods, nodes]

def name : CountingVisitor → String
  | functions => "FunctionOnly"
  | structs => "StructOnly"
  | methods => "MethodOnly"
  | nodes => "NodeCounter"

/-- The visitor of every node lists all kinds, so that a naive dispatcher has a set to look into
for it as well. -/
def applicability : CountingVisitor → Applicability
  | functions => .ofKind .function
  | structs => .ofKind .struct
  | methods => .ofKind .method
  | nodes => .kinds .full

def count (stats : PassStats) : CountingVisitor → PassStats
  | functions => { stats with functions := stats.functions + 1 }
  | structs => { stats with structs := stats.structs + 1 }
  | methods => { stats with methods := stats.methods + 1 }
  | nodes => { stats with nodesVisited := stats.nodesVisited + 1 }

def hooks : Hooks CountingVisitor PassStats where
  name := name
  applicability := applicability
  accepts _ _ := true
  call
    | .enter, visitor, _, stats => (.proceed, visitor, count stats visitor)
    | .leave, visitor, _, stats => (.proceed, visitor, stats)

def registered : Except SetupError (VisitorSet CountingVisitor) :=
  all.foldlM (fun set visitor => set.pushScoped hooks visitor) VisitorSet.empty

end CountingVisitor

end KindDispatch
