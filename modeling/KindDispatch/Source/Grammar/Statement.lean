import KindDispatch.Source.Grammar.Expression
import KindDispatch.Source.Grammar.Item

/-!
# Statements
-/

namespace KindDispatch.Source

namespace Element

mutual

/-- Puts attributes on what stands leftmost in an expression. -/
def withLeftAttributes (attributes : List Element) : Element → Element
  | ⟨construct, name, own, parts⟩ =>
    if construct.hasLeftOperand then
      ⟨construct, name, own, withFirstAttributes attributes parts⟩
    else withAttributes attributes ⟨construct, name, own, parts⟩

def withFirstAttributes (attributes : List Element) : List Element → List Element
  | [] => []
  | first :: rest => withLeftAttributes attributes first :: rest

end

end Element

namespace Grammar

open Source.Parser

/-- A statement, and whether a semicolon has to follow if it is not the last. -/
structure Statement where
  element : Element
  needsSemicolon : Bool

def endedWithBrace (before : Tokens) (left : Nat) : Bool :=
  match (before.take (before.length - left)).getLast? with
  | some (.group .brace ..) => true
  | _ => false

def letStatement (grammar : Grammar) (attributes : List Element) : Parser Element := do
  keyword "let"
  let pattern ← grammar .pattern
  let pattern ←
    if ← optPunct ":" then pure (.plain .typedPattern [pattern, ← grammar.type]) else pure pattern
  let value ←
    if ← optPunct "=" then
      let before ← ahead
      let value ← grammar.expression
      if endedWithBrace before (← ahead).length then pure [value]
      else if ← optKeyword "else" then pure [value, ← grammar.plainBlockExpr]
      else pure [value]
    else pure []
  punct ";"
  return ⟨.letStatement, none, attributes, pattern :: value⟩

def opensItem (tokens : Tokens) : Bool :=
  let second : Tokens := tokens.after 1
  let third : Tokens := tokens.after 2
  tokens.keyword "pub" || (tokens.keyword "crate" && !second.punct "::") ||
    tokens.keyword "extern" || tokens.keyword "use" ||
    (tokens.keyword "static" && (second.keyword "mut" || (second.identifier &&
      !(second.keyword "async" && (third.keyword "move" || third.punct "|"))))) ||
    (tokens.keyword "const" && !(second.group .brace || second.keyword "static" ||
      (second.keyword "async" &&
        !(third.keyword "unsafe" || third.keyword "extern" || third.keyword "fn")) ||
      second.keyword "move" || second.punct "|")) ||
    (tokens.keyword "unsafe" && !second.group .brace) ||
    (tokens.keyword "async" &&
      (second.keyword "unsafe" || second.keyword "extern" || second.keyword "fn")) ||
    ["fn", "mod", "type", "struct", "enum", "trait", "impl", "macro"].any tokens.keyword ||
    (tokens.keyword "union" && second.identifier) ||
    (tokens.keyword "auto" && second.keyword "trait") ||
    (tokens.keyword "default" && (second.keyword "unsafe" || second.keyword "impl"))

inductive MacroUse where
  /-- No macro, or one that is part of an expression. -/
  | none
  /-- An item, because a name follows. -/
  | item
  /-- A call in braces that is a statement of its own. -/
  | statement
deriving DecidableEq

def macroUse (behind : Tokens) : MacroUse :=
  let second : Tokens := behind.after 1
  let third : Tokens := behind.after 2
  if !behind.punct "!" then .none
  else if second.identifier || second.keyword "try" then .item
  else if second.group .brace &&
      !((third.punct "." && !third.punct "..") || third.punct "?") then
    .statement
  else .none

def macroStatement (attributes : List Element) : Parser Element := do
  let path ← barePath
  discard macroCall
  discard (optPunct ";")
  return ⟨.macroStatement, path.name, attributes, [path.element]⟩

def expressionStatement (grammar : Grammar) (attributes : List Element) : Parser Statement := do
  let expression := (← grammar .statementExpression).withLeftAttributes attributes
  let ended ← optPunct ";"
  match expression.construct with
  | .macroExpr braced =>
    if ended || braced then return ⟨{ expression with construct := .macroStatement }, false⟩
    else return ⟨expression, true⟩
  | construct => return ⟨expression, !ended && !construct.isBlockLike⟩

def statement (grammar : Grammar) : Parser Statement := do
  let attributes ← grammar.outerAttributes
  let use ← match ← attempt (lookAhead barePath) with
    | some (_, behind) => pure (macroUse behind.tokens)
    | none => pure .none
  if use = .statement then return ⟨← macroStatement attributes, false⟩
  let tokens ← ahead
  if tokens.keyword "let" then return ⟨← grammar.letStatement attributes, false⟩
  else if opensItem tokens || use = .item then
    return ⟨(← grammar.bareItem).withAttributes attributes, false⟩
  else grammar.expressionStatement attributes

def readStatements (grammar : Grammar) : Parser Element := do
  let statements ← collect do
    discard (collectWhile (·.punct ";") (punct ";"))
    if ← atEnd then return .stop
    let statement ← grammar.statement
    if ← atEnd then return .last statement.element
    else if statement.needsSemicolon then fail "unexpected token, expected `;`"
    else return .more statement.element
  return .plain .block statements

end Grammar

end KindDispatch.Source
