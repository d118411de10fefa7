import KindDispatch.Visitor

/-!
# Registration

Visitors are registered one after the other, each in one of four ways.  A `VisitorSet` keeps every
visitor with its declaration.  A `Registry` is a set as it is changed in place: two columns, one of
visitors and one of declarations, which a registration extends in turn.  A registration can be
refused, and whoever registers goes on with the registry as it then is.
-/

namespace KindDispatch

inductive Registration (V : Type) where
  | push (visitor : V)
  | pushWith (visitor : V) (declared : Applicability)
  | pushScoped (visitor : V)
  /-- Like `push`, but hands the registry on. -/
  | including (visitor : V)

variable {V S : Type}

namespace Registration

def visitor : Registration V → V
  | push visitor | pushWith visitor _ | pushScoped visitor | including visitor => visitor

def declared (hooks : Hooks V S) : Registration V → Applicability
  | push _ | including _ => .any
  | pushWith _ declared => declared
  | pushScoped visitor => hooks.applicability visitor

end Registration

namespace VisitorSet

def register (hooks : Hooks V S) (set : VisitorSet V) :
    Registration V → Except SetupError (VisitorSet V)
  | .push visitor | .including visitor => .ok (set.push visitor)
  | .pushWith visitor declared => set.pushWith hooks visitor declared
  | .pushScoped visitor => set.pushScoped hooks visitor

/-- Makes some registrations and goes on after those that are refused. -/
def registerAll (hooks : Hooks V S) (registrations : List (Registration V)) (set : VisitorSet V) :
    VisitorSet V :=
  registrations.foldl (fun set registration =>
    match set.register hooks registration with
    | .ok set => set
    | .error _ => set) set

end VisitorSet

structure Registry (V : Type) where
  visitors : List V
  rules : List Applicability

namespace Registry

def empty : Registry V := ⟨[], []⟩

def ofSet (set : VisitorSet V) : Registry V := ⟨set.visitors, set.rules⟩

def size (registry : Registry V) : Nat := registry.visitors.length

def names (hooks : Hooks V S) (registry : Registry V) : List String :=
  registry.visitors.map hooks.name

def addVisitor (registry : Registry V) (visitor : V) : Registry V :=
  { registry with visitors := registry.visitors ++ [visitor] }

def addRule (registry : Registry V) (rule : Applicability) : Registry V :=
  { registry with rules := registry.rules ++ [rule] }

def push (registry : Registry V) (visitor : V) : Registry V :=
  (registry.addVisitor visitor).addRule .any

/-- Registers a visitor with a declaration; says whether it was, and leaves a registry in any
case. -/
def pushWith (hooks : Hooks V S) (registry : Registry V) (visitor : V) (declared : Applicability) :
    Except SetupError Unit × Registry V :=
  if declared.isEmptyDeclaration then
    (.error (.emptyKindSet registry.size (hooks.name visitor)), registry)
  else (.ok (), (registry.addVisitor visitor).addRule declared)

def pushScoped (hooks : Hooks V S) (registry : Registry V) (visitor : V) :
    Except SetupError Unit × Registry V :=
  registry.pushWith hooks visitor (hooks.applicability visitor)

def including (registry : Registry V) (visitor : V) : Registry V := registry.push visitor

def includingScoped (hooks : Hooks V S) (registry : Registry V) (visitor : V) :
    Except SetupError (Registry V) :=
  let (outcome, after) := registry.pushScoped hooks visitor
  outcome.map fun _ => after

def register (hooks : Hooks V S) (registry : Registry V) :
    Registration V → Except SetupError Unit × Registry V
  | .push visitor => (.ok (), registry.push visitor)
  | .pushWith visitor declared => registry.pushWith hooks visitor declared
  | .pushScoped visitor => registry.pushScoped hooks visitor
  | .including visitor => (.ok (), registry.including visitor)

def registerAll (hooks : Hooks V S) :
    List (Registration V) → Registry V → List (Except SetupError Unit) × Registry V
  | [], registry => ([], registry)
  | registration :: rest, registry =>
    let (outcome, registry) := registry.register hooks registration
    let (outcomes, registry) := registerAll hooks rest registry
    (outcome :: outcomes, registry)

end Registry

end KindDispatch
