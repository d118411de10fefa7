import KindDispatch.Source.Grammar.Statement

/-!
# The grammar of source files

`readRule` reads each rule with a grammar for the rules inside it; `nested` ties the knot, up to a
depth.  A rule inside a rule starts behind a token that the outer one has read, apart from a few
rules that are read in the place of another one, so twice the number of tokens is deep enough.
-/

namespace KindDispatch.Source

namespace Grammar

def readRule (grammar : Grammar) : Grammar
  | .expression structs => grammar.readExpression structs
  | .unary structs => grammar.readUnary structs
  | .operators structs base left => grammar.readOperators structs base left
  | .statementExpression => grammar.readStatementExpression
  | .conditional => grammar.readConditional
  | .type plus => grammar.readType plus
  | .arguments => grammar.angleArguments
  | .quantified => grammar.readQuantified
  | .pattern => grammar.readPattern
  | .statements => grammar.readStatements
  | .item => grammar.readItem
  | .fields => grammar.namedFields
  | .useTree rooted => grammar.readUseTree rooted

def nested : (depth : Nat) → Grammar
  | 0 => fun _ => Parser.fail "nothing that is nested this deep"
  | depth + 1 => fun rule => readRule (nested depth) rule

end Grammar

namespace SourceFile

def parser (grammar : Grammar) : Parser SourceFile := do
  let attributes ← grammar.innerAttributes
  return ⟨attributes, ← Parser.untilEnd grammar.readItem⟩

/-- A depth no rule goes below in a text of some number of tokens. -/
def depthBound (tokens : Nat) : Nat := 2 * tokens + 16

/-- Reads a whole file; a token left over in a group is an error only if there is no other. -/
def ofTokens? (tokens : List Token) : Except ParseFailure SourceFile :=
  let input := Input.ofTokens tokens
  match parser (Grammar.nested (depthBound input.bound)) input with
  | .error failure => .error failure
  | .ok (file, input) =>
    match input.stray with
    | some failure => .error failure
    | none => .ok file

end SourceFile

end KindDispatch.Source
