import KindDispatch.Visitor

/-!
# Scripted visitors

Visitors described by data: on entering and on leaving a node, the first rule that has uses left and
whose condition holds gives the answer.  They are a small language of tree rewriting, and the
concrete visitors that laws about arbitrary ones are tried on.
-/

namespace KindDispatch.Script

/-- A condition on a node; every part that is given has to hold. -/
structure Condition where
  /-- The node has exactly this name. -/
  name : Option String
  /-- The node has a name that starts like this. -/
  nameStart : Option String
  /-- Whether the node has a name. -/
  named : Option Bool
  kind : Option Kind
  category : Option Category
  line : Option Nat
  children : Option Nat
deriving DecidableEq, Repr, Inhabited

namespace Condition

def always : Condition := ⟨none, none, none, none, none, none, none⟩

def holds (condition : Condition) (node : Node) : Bool :=
  condition.name.all (fun name => node.name == some name) &&
  condition.nameStart.all (fun start => node.name.any (·.startsWith start)) &&
  condition.named.all (fun named => node.name.isSome == named) &&
  condition.kind.all (node.kind == ·) &&
  condition.category.all (node.kind.category == ·) &&
  condition.line.all (node.line == ·) &&
  condition.children.all (node.children.length == ·)

end Condition

inductive Action where
  | proceed
  | skipChildren
  | remove
  | stop
  /-- Put the first child in the node's place, if there is one. -/
  | hoist
  /-- Drop all children. -/
  | strip
  /-- Put a given tree in the node's place, if one is given. -/
  | substitute (tree : Option Node)
  /-- Put the node below a new nameless one. -/
  | wrap (kind : Kind)
  | rekind (kind : Kind)
  | rename (name : String)
  | setChildren (children : List Node)
deriving DecidableEq, Repr, Inhabited

def Action.apply (node : Node) : Action → VisitResult
  | proceed => .proceed
  | skipChildren => .skipChildren
  | remove => .remove
  | stop => .stop
  | hoist => .ofOption node.children.head?
  | strip => .replace (node.withChildren [])
  | substitute tree => .ofOption tree
  | wrap kind => .replace ⟨kind, none, 0, [node]⟩
  | rekind kind => .replace { node with kind }
  | rename name => .replace { node with name := some name }
  | setChildren children => .replace (node.withChildren children)

structure Rule where
  action : Action
  condition : Condition
  uses : Option Nat
deriving DecidableEq, Repr, Inhabited

namespace Rule

def isReady (rule : Rule) (node : Node) : Bool :=
  rule.uses != some 0 && rule.condition.holds node

def use (rule : Rule) : Rule := { rule with uses := rule.uses.map (· - 1) }

/-- Uses the first rule that is ready; without one the answer is to go on. -/
def fire (node : Node) : List Rule → VisitResult × List Rule
  | [] => (.proceed, [])
  | rule :: rest =>
    if rule.isReady node then (rule.action.apply node, rule.use :: rest)
    else
      let (result, rest) := fire node rest
      (result, rule :: rest)

end Rule

structure ScriptedVisitor where
  name : String
  scope : Applicability
  accepts : Condition
  enter : List Rule
  leave : List Rule
deriving Inhabited

namespace ScriptedVisitor

def idle (name : String) : ScriptedVisitor := ⟨name, .any, .always, [], []⟩

def call (hook : Hook) (visitor : ScriptedVisitor) (node : Node) :
    VisitResult × ScriptedVisitor :=
  match hook with
  | .enter =>
    let (result, rules) := Rule.fire node visitor.enter
    (result, { visitor with enter := rules })
  | .leave =>
    let (result, rules) := Rule.fire node visitor.leave
    (result, { visitor with leave := rules })

def hooks (S : Type) : Hooks ScriptedVisitor S where
  name := name
  applicability := scope
  accepts visitor node := visitor.accepts.holds node
  call hook visitor node state :=
    let (result, visitor) := visitor.call hook node
    (result, visitor, state)

end ScriptedVisitor

end KindDispatch.Script
