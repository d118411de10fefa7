import KindDispatch.Applicability
import KindDispatch.Node

/-!
# Visitors

A visitor is a value of some type `V` that may change with every call; `Hooks V S` says how visitors
of that type behave: which nodes they accept and what they answer on entering and on leaving a
node.  `S` is the state the caller hands through every call of a session.

A `VisitorSet` lists visitors together with their declarations, in registration order.  Visitors
that could never be called are refused: `VisitorSet.pushWith` fails exactly on empty declarations.
-/

namespace KindDispatch

inductive VisitResult where
  | proceed
  /-- Do not descend into the children; later visitors and the leave phase still run.  On leaving a
  node it means `proceed`. -/
  | skipChildren
  /-- Put another node in this one's place; later visitors see the replacement. -/
  | replace (node : Node)
  /-- Take the node out of its sequence; nothing more is called on it. -/
  | remove
  | stop
deriving DecidableEq, Repr, Inhabited

namespace VisitResult

def isProceed : VisitResult → Bool
  | proceed => true
  | _ => false

def isStop : VisitResult → Bool
  | stop => true
  | _ => false

def ofOption : Option Node → VisitResult
  | some node => replace node
  | none => proceed

end VisitResult

inductive Hook where
  | enter
  | leave
deriving DecidableEq, Repr

/-- Behaviour of visitors of type `V` towards a caller state `S`. -/
structure Hooks (V S : Type) where
  name : V → String
  /-- The kinds a visitor opts in to when it is registered with its own declaration. -/
  applicability : V → Applicability
  /-- Filter on nodes, asked after dispatch and before each call. -/
  accepts : V → Node → Bool
  /-- One call: the answer, and the visitor and caller state after it. -/
  call : Hook → V → Node → S → VisitResult × V × S

inductive SetupError where
  /-- A visitor declared a kind set without kinds. -/
  | emptyKindSet (index : Nat) (visitor : String)
  /-- A dispatch table in use for `expected` visitors was given to `found` visitors. -/
  | sharedTableMismatch (expected found : Nat)
deriving DecidableEq, Repr, Inhabited

def SetupError.message : SetupError → String
  | emptyKindSet index visitor =>
    s!"visitor #{index} ({visitor}) declares an empty kind set"
  | sharedTableMismatch expected found =>
    s!"shared dispatch table holds entries for {expected} visitors, got {found}"

structure VisitorSet (V : Type) where
  entries : List (V × Applicability)

namespace VisitorSet

variable {V S : Type}

def empty : VisitorSet V := ⟨[]⟩

def size (set : VisitorSet V) : Nat := set.entries.length

def isEmpty (set : VisitorSet V) : Bool := set.entries.isEmpty

def visitors (set : VisitorSet V) : List V := set.entries.map (·.1)

def rules (set : VisitorSet V) : List Applicability := set.entries.map (·.2)

def names (hooks : Hooks V S) (set : VisitorSet V) : List String := set.visitors.map hooks.name

def push (set : VisitorSet V) (visitor : V) : VisitorSet V :=
  ⟨set.entries ++ [(visitor, .any)]⟩

def pushWith (hooks : Hooks V S) (set : VisitorSet V) (visitor : V) (declared : Applicability) :
    Except SetupError (VisitorSet V) :=
  if declared.isEmptyDeclaration then .error (.emptyKindSet set.size (hooks.name visitor))
  else .ok ⟨set.entries ++ [(visitor, declared)]⟩

def pushScoped (hooks : Hooks V S) (set : VisitorSet V) (visitor : V) :
    Except SetupError (VisitorSet V) :=
  set.pushWith hooks visitor (hooks.applicability visitor)

@[simp] theorem visitors_push (set : VisitorSet V) (visitor : V) :
    (set.push visitor).visitors = set.visitors ++ [visitor] := by
  simp [push, visitors]

@[simp] theorem rules_push (set : VisitorSet V) (visitor : V) :
    (set.push visitor).rules = set.rules ++ [.any] := by
  simp [push, rules]

@[simp] theorem length_visitors (set : VisitorSet V) : set.visitors.length = set.size := by
  simp [visitors, size]

@[simp] theorem length_rules (set : VisitorSet V) : set.rules.length = set.size := by
  simp [rules, size]

end VisitorSet

end KindDispatch
