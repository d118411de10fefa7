import KindDispatch.Source.Parser

/-!
# Rules of the grammar

The rules that can contain themselves.  Everything else in the grammar is a function of a `Grammar`,
which reads the rules; the knot is tied where all of them are known.
-/

namespace KindDispatch.Source

inductive Precedence where
  /-- Also that of `return`, `break` and closures. -/
  | jump
  | assign
  | range
  | or
  | and
  | comparison
  | bitOr
  | bitXor
  | bitAnd
  | shift
  | sum
  | product
  | cast
deriving DecidableEq, Repr, Inhabited

namespace Precedence

def level (precedence : Precedence) : Nat := precedence.ctorIdx

instance : LE Precedence := ⟨fun a b => a.level ≤ b.level⟩
instance : LT Precedence := ⟨fun a b => a.level < b.level⟩
instance (a b : Precedence) : Decidable (a ≤ b) := inferInstanceAs (Decidable (a.level ≤ b.level))
instance (a b : Precedence) : Decidable (a < b) := inferInstanceAs (Decidable (a.level < b.level))

end Precedence

/-- The rules that can contain themselves. -/
inductive Rule where
  /-- An expression; `structs` tells whether a path may be followed by the fields of a struct. -/
  | expression (structs : Bool)
  | unary (structs : Bool)
  /-- What follows a left operand, as far as it binds at least as tightly as `base`. -/
  | operators (structs : Bool) (base : Precedence) (left : Element)
  /-- An expression that a block at its start ends, unless a dot or question mark follows. -/
  | statementExpression
  | conditional
  /-- A type; `plus` tells whether it may be several bounds. -/
  | type (plus : Bool)
  | arguments
  | quantified
  | pattern
  | statements
  | item
  | fields
  /-- One tree of an import; `rooted` tells whether a path may start with `::`. -/
  | useTree (rooted : Bool)
deriving Inhabited

abbrev Grammar := Rule → Parser Element

namespace Grammar

def expression (grammar : Grammar) : Parser Element := grammar (.expression true)

def condition (grammar : Grammar) : Parser Element := grammar (.expression false)

def type (grammar : Grammar) : Parser Element := grammar (.type true)

def block (grammar : Grammar) : Parser Element := Parser.group .brace (grammar .statements)

end Grammar

end KindDispatch.Source
